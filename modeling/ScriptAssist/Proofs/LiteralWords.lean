import ScriptAssist.Proofs.KeyWords

/-!
# Words and their key

Words of small letters and digits are the words of a key: the one that has a capital in place of the
first letter of each word. What is read back from a key is then read back from its words, too.
-/

namespace ScriptAssist

def isSmall (c : Char) : Bool :=
  c.isLower || c.isDigit

/-- A word as scripts write it: a small letter, then small letters and digits. -/
def IsWord (word : Text) : Prop :=
  ∃ first rest, word = first :: rest ∧ first.isLower ∧ ∀ c ∈ rest, isSmall c

instance : (word : Text) → Decidable (IsWord word)
  | [] => isFalse (by simp [IsWord])
  | first :: rest =>
    decidable_of_iff (first.isLower ∧ rest.all isSmall) <| by
      rw [List.all_eq_true]
      constructor
      · intro h
        exact ⟨first, rest, rfl, h⟩
      · rintro ⟨_, _, ⟨⟩, h⟩
        exact h

theorem isAlphanum_of_isSmall {c : Char} (h : isSmall c) : c.isAlphanum := by
  rcases Bool.or_eq_true_iff.mp h with hLower | hDigit
  · exact isAlphanum_of_isLower hLower
  · change ((c.isUpper || c.isLower) || c.isDigit) = true
    simp [hDigit]

theorem isUpper_of_isSmall {c : Char} (h : isSmall c) : c.isUpper = false :=
  Text.forall_ascii (P := fun c => isSmall c → c.isUpper = false) (by decide)
    (toNat_lt_of_isAlphanum (isAlphanum_of_isSmall h)) h

theorem toLower_of_isSmall {c : Char} (h : isSmall c) : c.toLower = c :=
  toLower_eq_self (toNat_lt_of_isAlphanum (isAlphanum_of_isSmall h)) (isUpper_of_isSmall h)

theorem exists_upperChar {c : Char} (h : c.isLower) :
    ∃ capital : Char, Text.upperChar c = [capital] ∧ capital.isUpper ∧ capital.toLower = c := by
  have hAscii := toNat_lt_of_isAlphanum (isAlphanum_of_isLower h)
  refine ⟨c.toUpper, by simp [Text.upperChar, hAscii], ?_⟩
  exact Text.forall_ascii
    (P := fun c => c.isLower → c.toUpper.isUpper ∧ c.toUpper.toLower = c) (by decide) hAscii h

theorem IsWord.exists_capitalize {word : Text} (h : IsWord word) :
    ∃ capital rest, capitalize word = capital :: rest ∧ capital.isUpper ∧
      (∀ c ∈ rest, isSmall c) ∧ word = capital.toLower :: rest := by
  obtain ⟨first, rest, rfl, hFirst, hRest⟩ := h
  obtain ⟨capital, hCapital, hUpper, hLower⟩ := exists_upperChar hFirst
  exact ⟨capital, rest, by rw [capitalize, hCapital, List.singleton_append], hUpper, hRest,
    by rw [hLower]⟩

theorem map_toLower_of_isSmall {text : Text} (h : ∀ c ∈ text, isSmall c) :
    text.map Char.toLower = text := by
  calc text.map Char.toLower
      = text.map id := List.map_congr_left fun c hc => toLower_of_isSmall (h c hc)
    _ = text := List.map_id text

theorem spaceCapitals_append (front rest : Text) :
    spaceCapitals (front ++ rest) = spaceCapitals front ++ spaceCapitals rest :=
  List.flatMap_append

theorem spaceCapitals_of_isSmall {text : Text} (h : ∀ c ∈ text, isSmall c) :
    spaceCapitals text = text := by
  induction text with
  | nil => rfl
  | cons c rest ih =>
    have hc := isUpper_of_isSmall (h c List.mem_cons_self)
    rw [spaceCapitals_cons, ih fun d hd => h d (List.mem_cons_of_mem _ hd)]
    simp [hc]

/-- In a key each word is opened by the one capital that it has; so spaced out and in small letters
it is the word again, after a space. -/
theorem spaceCapitals_words {words : List Text} (h : ∀ word ∈ words, IsWord word) :
    (spaceCapitals (words.flatMap capitalize)).map Char.toLower = words.flatMap (' ' :: ·) := by
  induction words with
  | nil => rfl
  | cons word words ih =>
    obtain ⟨capital, rest, hWord, hUpper, hSmall, hLower⟩ :=
      (h word List.mem_cons_self).exists_capitalize
    have hSpace : Char.toLower ' ' = ' ' := by decide
    rw [List.flatMap_cons, List.flatMap_cons, hWord, spaceCapitals_append, spaceCapitals_cons,
      if_pos hUpper, spaceCapitals_of_isSmall hSmall, List.map_append,
      ih fun other hOther => h other (List.mem_cons_of_mem _ hOther), hLower]
    simp [hSpace, map_toLower_of_isSmall hSmall]

theorem IsWord.isPascal_capitalize {word : Text} (h : IsWord word) :
    IsPascal (capitalize word) := by
  obtain ⟨capital, rest, hWord, hUpper, hSmall, -⟩ := h.exists_capitalize
  exact ⟨capital, rest, hWord, hUpper, fun c hc => isAlphanum_of_isSmall (hSmall c hc)⟩

theorem isPascal_words {word : Text} {words : List Text} (h : ∀ w ∈ word :: words, IsWord w) :
    IsPascal ((word :: words).flatMap capitalize) := by
  obtain ⟨capital, rest, hWord, hUpper, hRest⟩ := (h word List.mem_cons_self).isPascal_capitalize
  refine ⟨capital, rest ++ words.flatMap capitalize, ?_, hUpper, ?_⟩
  · rw [List.flatMap_cons, hWord, List.cons_append]
  · intro c hc
    rcases List.mem_append.mp hc with hFirst | hOthers
    · exact hRest c hFirst
    · obtain ⟨other, hOther, hMem⟩ := List.mem_flatMap.mp hOthers
      exact (h other (List.mem_cons_of_mem _ hOther)).isPascal_capitalize.isAlphanum c hMem

theorem literalOfKey_words {word : Text} {words : List Text} (h : ∀ w ∈ word :: words, IsWord w) :
    literalOfKey ((word :: words).flatMap capitalize) = [' '].intercalate (word :: words) := by
  have hKey := (isPascal_words h).isKey
  obtain ⟨capital, rest, hWord, -, hSmall, hLower⟩ :=
    (h word List.mem_cons_self).exists_capitalize
  rw [List.flatMap_cons, hWord, List.cons_append] at hKey ⊢
  rw [literalOfKey_cons hKey, spaceCapitals_append, spaceCapitals_of_isSmall hSmall, List.map_cons,
    List.map_append, map_toLower_of_isSmall hSmall,
    spaceCapitals_words fun other hOther => h other (List.mem_cons_of_mem _ hOther),
    Text.intercalate_cons, hLower, List.cons_append]

theorem literalOfKey_keyOfLiteral {words : List Text} (h : ∀ word ∈ words, IsWord word) :
    literalOfKey (keyOfLiteral ([' '].intercalate words)) = [' '].intercalate words := by
  cases words with
  | nil => rfl
  | cons word words =>
    rw [← literalOfKey_words h, keyOfLiteral_literalOfKey (isPascal_words h).isKey]

/-- A key is read back from its words, words are read back from their key, and different keys have
different words. -/
theorem keys_and_words_inverse :
    (∀ key, IsKey key → keyOfLiteral (literalOfKey key) = key) ∧
    (∀ words : List Text, (∀ word ∈ words, IsWord word) →
      literalOfKey (keyOfLiteral ([' '].intercalate words)) = [' '].intercalate words) ∧
    ∀ a b, IsKey a → IsKey b → a ≠ b → literalOfKey a ≠ literalOfKey b := by
  refine ⟨fun key => keyOfLiteral_literalOfKey, fun words => literalOfKey_keyOfLiteral, ?_⟩
  intro a b ha hb hNe hSame
  exact hNe (literalOfKey_injective ha hb hSame)

theorem keys_and_words_inverse_of_ab_tests :
    let key : Text := "ABTest-2.x"
    let other : Text := "AbTest-2.x"
    let words : List Text := ["x", "send", "k2e", "y"]
    IsKey key ∧ IsKey other ∧ key ≠ other ∧ (∀ word ∈ words, IsWord word) ∧
      literalOfKey key = "a b test-2.x" ∧ keyOfLiteral "a b test-2.x" = key ∧
      [' '].intercalate words = "x send k2e y".toList ∧
      literalOfKey (keyOfLiteral "x send k2e y") = "x send k2e y" ∧
      literalOfKey key ≠ literalOfKey other := by
  intro key other words
  have hKey : IsKey key := by decide
  have hOther : IsKey other := by decide
  have hNe : key ≠ other := by decide
  have hWords : ∀ word ∈ words, IsWord word := by decide
  obtain ⟨hKeys, hBack, hDistinct⟩ := keys_and_words_inverse
  exact ⟨hKey, hOther, hNe, hWords, by decide, hKeys key hKey, by decide, hBack words hWords,
    hDistinct key other hKey hOther hNe⟩

end ScriptAssist
