import Mathlib.Data.List.DropRight
import ScriptAssist.Action.Basic

/-!
# Keys and their words

A key of ASCII characters that starts with a capital is spelled by its words and read back from
them. Each capital opens a word, so the first word stands apart: it has no space before it.
-/

namespace ScriptAssist

namespace Text

theorem forall_ascii {P : Char → Prop} (h : ∀ n < 128, P (Char.ofNat n)) {c : Char}
    (hc : c.toNat < 128) : P c := by
  rw [← Char.ofNat_toNat c]
  exact h c.toNat hc

theorem lowerAfter_of_ascii (cased : Bool) (text : Text) (h : ∀ c ∈ text, c.toNat < 128) :
    lowerAfter cased text = text.map Char.toLower := by
  induction text generalizing cased with
  | nil => rfl
  | cons c rest ih =>
    have hc : c.toNat < 128 := h c List.mem_cons_self
    have hSigma : c ≠ 'Σ' := by
      rintro rfl
      exact absurd hc (by decide)
    rw [lowerAfter, if_neg hSigma, ih _ fun d hd => h d (List.mem_cons_of_mem _ hd)]
    simp [lowerChar, hc]

theorem lower_of_ascii (text : Text) (h : ∀ c ∈ text, c.toNat < 128) :
    lower text = text.map Char.toLower :=
  lowerAfter_of_ascii false text h

theorem toNat_toLower_lt {c : Char} (hc : c.toNat < 128) : c.toLower.toNat < 128 :=
  forall_ascii (P := fun c => c.toLower.toNat < 128) (by decide) hc

theorem toLower_toLower {c : Char} (hc : c.toNat < 128) : c.toLower.toLower = c.toLower :=
  forall_ascii (P := fun c => c.toLower.toLower = c.toLower) (by decide) hc

theorem lower_map_toLower (text : Text) (h : ∀ c ∈ text, c.toNat < 128) :
    lower (text.map Char.toLower) = text.map Char.toLower := by
  rw [lower_of_ascii]
  · rw [List.map_map]
    exact List.map_congr_left fun c hc => toLower_toLower (h c hc)
  · intro c hc
    obtain ⟨d, hd, rfl⟩ := List.mem_map.mp hc
    exact toNat_toLower_lt (h d hd)

theorem dropEndWhile_eq_self {p : Char → Bool} {text : Text}
    (h : ∀ c, text.getLast? = some c → p c = false) : dropEndWhile p text = text := by
  rcases List.eq_nil_or_concat text with rfl | ⟨front, c, rfl⟩
  · rfl
  · have hc : p c = false := h c (by simp)
    simp [dropEndWhile, hc]

theorem strip_eq_self {text : Text} (hFirst : ∀ c, text.head? = some c → isBlank c = false)
    (hLast : ∀ c, text.getLast? = some c → isBlank c = false) : strip text = text := by
  have hDrop : text.dropWhile isBlank = text := by
    cases text with
    | nil => rfl
    | cons c rest => exact List.dropWhile_cons_of_neg (by simp [hFirst c rfl])
  rw [strip, hDrop, dropEndWhile_eq_self hLast]

theorem isBlank_of_head?_dropWhile {text : Text} {c : Char}
    (h : (text.dropWhile isBlank).head? = some c) : isBlank c = false := by
  have hFirst := List.head?_dropWhile_not isBlank text
  rw [h] at hFirst
  exact hFirst

theorem strip_eq_nil_iff {text : Text} : strip text = [] ↔ ∀ c ∈ text, isBlank c = true := by
  have hStrip : strip text = (text.dropWhile isBlank).rdropWhile isBlank := rfl
  rw [hStrip, List.rdropWhile_eq_nil_iff]
  constructor
  · intro h
    cases hDrop : text.dropWhile isBlank with
    | nil => exact List.dropWhile_eq_nil_iff.mp hDrop
    | cons c rest =>
      have hFirst : isBlank c = false := isBlank_of_head?_dropWhile (by rw [hDrop]; rfl)
      have hBlank : isBlank c = true := h c (hDrop ▸ List.mem_cons_self)
      cases hFirst.symm.trans hBlank
  · intro h c hc
    exact h c ((List.dropWhile_sublist isBlank).subset hc)

theorem strip_strip (text : Text) : strip (strip text) = strip text := by
  apply strip_eq_self
  · intro c hc
    obtain ⟨rest, hRest⟩ := List.rdropWhile_prefix isBlank (l := text.dropWhile isBlank)
    have hKept : ((text.dropWhile isBlank).rdropWhile isBlank).head? = some c := hc
    have hFirst : (text.dropWhile isBlank).head? = some c := by
      rw [← hRest, List.head?_append, hKept, Option.some_or]
    exact isBlank_of_head?_dropWhile hFirst
  · intro c hc
    rw [strip, dropEndWhile, List.getLast?_reverse] at hc
    exact isBlank_of_head?_dropWhile hc

theorem lowerChar_ne_nil (c : Char) : lowerChar c ≠ [] := by
  rw [lowerChar]
  split
  · simp
  · split <;> simp

theorem lower_eq_nil_iff {text : Text} : lower text = [] ↔ text = [] := by
  cases text with
  | nil => exact ⟨fun _ => rfl, fun _ => rfl⟩
  | cons c rest =>
    simp only [lower, lowerAfter, List.append_eq_nil_iff, reduceCtorEq, iff_false, not_and]
    intro hLowered
    split at hLowered
    · split at hLowered <;> cases hLowered
    · exact absurd hLowered (lowerChar_ne_nil c)

theorem intercalate_cons (separator : Char) (first : Text) (parts : List Text) :
    [separator].intercalate (first :: parts) = first ++ parts.flatMap (separator :: ·) := by
  induction parts generalizing first with
  | nil => simp
  | cons part rest ih => simp [List.intercalate_cons_cons, ih]

end Text

/-- A key that its words determine: the first character a capital, all of them ASCII and none of
them blank. -/
structure IsKey (key : Text) : Prop where
  capital : ∃ first rest, key = first :: rest ∧ first.isUpper
  ascii : ∀ c ∈ key, c.toNat < 128
  solid : ∀ c ∈ key, Text.isBlank c = false

instance : (key : Text) → Decidable (IsKey key)
  | [] => isFalse fun h => by simpa using h.capital
  | first :: rest =>
    decidable_of_iff
      (first.isUpper ∧ (first :: rest).all fun c => c.toNat < 128 && !Text.isBlank c) <| by
      simp only [List.all_eq_true, Bool.and_eq_true, decide_eq_true_eq, Bool.not_eq_true']
      constructor
      · rintro ⟨hFirst, hAll⟩
        exact ⟨⟨first, rest, rfl, hFirst⟩, fun c hc => (hAll c hc).1, fun c hc => (hAll c hc).2⟩
      · rintro ⟨⟨_, _, ⟨⟩, hFirst⟩, hAscii, hSolid⟩
        exact ⟨hFirst, fun c hc => ⟨hAscii c hc, hSolid c hc⟩⟩

/-- The usual form of a key: a capital, then letters and digits. -/
def IsPascal (key : Text) : Prop :=
  ∃ first rest, key = first :: rest ∧ first.isUpper ∧ ∀ c ∈ rest, c.isAlphanum

instance : (key : Text) → Decidable (IsPascal key)
  | [] => isFalse (by simp [IsPascal])
  | first :: rest =>
    decidable_of_iff (first.isUpper ∧ rest.all Char.isAlphanum) <| by
      rw [List.all_eq_true]
      constructor
      · intro h
        exact ⟨first, rest, rfl, h⟩
      · rintro ⟨_, _, ⟨⟩, h⟩
        exact h

theorem toNat_lt_of_isAlphanum {c : Char} (h : c.isAlphanum) : c.toNat < 128 := by
  delta Char.isAlphanum Char.isAlpha Char.isUpper Char.isLower Char.isDigit at h
  simp only [Bool.or_eq_true, Bool.and_eq_true, decide_eq_true_eq, ge_iff_le,
    UInt32.le_iff_toNat_le] at h
  change ((65 ≤ c.toNat ∧ c.toNat ≤ 90) ∨ (97 ≤ c.toNat ∧ c.toNat ≤ 122)) ∨
    (48 ≤ c.toNat ∧ c.toNat ≤ 57) at h
  omega

theorem isAlphanum_of_isUpper {c : Char} (h : c.isUpper) : c.isAlphanum := by
  change ((c.isUpper || c.isLower) || c.isDigit) = true
  simp [h]

theorem isAlphanum_of_isLower {c : Char} (h : c.isLower) : c.isAlphanum := by
  change ((c.isUpper || c.isLower) || c.isDigit) = true
  simp [h]

theorem isBlank_of_isAlphanum {c : Char} (h : c.isAlphanum) : Text.isBlank c = false :=
  Text.forall_ascii (P := fun c => c.isAlphanum → Text.isBlank c = false) (by decide)
    (toNat_lt_of_isAlphanum h) h

theorem IsPascal.isAlphanum {key : Text} (h : IsPascal key) : ∀ c ∈ key, c.isAlphanum := by
  obtain ⟨first, rest, rfl, hFirst, hRest⟩ := h
  intro c hc
  rcases List.mem_cons.mp hc with rfl | hc
  · exact isAlphanum_of_isUpper hFirst
  · exact hRest c hc

theorem IsPascal.isKey {key : Text} (h : IsPascal key) : IsKey key where
  capital := by
    obtain ⟨first, rest, hKey, hFirst, _⟩ := h
    exact ⟨first, rest, hKey, hFirst⟩
  ascii c hc := toNat_lt_of_isAlphanum (h.isAlphanum c hc)
  solid c hc := isBlank_of_isAlphanum (h.isAlphanum c hc)

theorem spaceCapitals_cons (c : Char) (rest : Text) :
    spaceCapitals (c :: rest) = (if c.isUpper then [' ', c] else [c]) ++ spaceCapitals rest := rfl

theorem mem_spaceCapitals {key : Text} {c : Char} (h : c ∈ spaceCapitals key) :
    c = ' ' ∨ c ∈ key := by
  obtain ⟨d, hd, hc⟩ := List.mem_flatMap.mp h
  split at hc
  · rcases List.mem_cons.mp hc with rfl | hc
    · exact .inl rfl
    · exact .inr (List.mem_singleton.mp hc ▸ hd)
  · exact .inr (List.mem_singleton.mp hc ▸ hd)

theorem mem_spaceCapitals_of_mem {key : Text} {c : Char} (h : c ∈ key) : c ∈ spaceCapitals key := by
  refine List.mem_flatMap.mpr ⟨c, h, ?_⟩
  split <;> simp

theorem literalOfKey_eq_nil_iff {key : Text} : literalOfKey key = [] ↔ Text.strip key = [] := by
  rw [literalOfKey, Text.lower_eq_nil_iff, Text.strip_eq_nil_iff, Text.strip_eq_nil_iff]
  constructor
  · intro h c hc
    exact h c (mem_spaceCapitals_of_mem hc)
  · intro h c hc
    rcases mem_spaceCapitals hc with rfl | hKey
    · decide
    · exact h c hKey

theorem getLast?_spaceCapitals (key : Text) : (spaceCapitals key).getLast? = key.getLast? := by
  rcases List.eq_nil_or_concat key with rfl | ⟨front, c, rfl⟩
  · rfl
  · rw [spaceCapitals, List.concat_eq_append, List.flatMap_append]
    cases h : c.isUpper <;> simp [h]

theorem IsKey.ascii_spaced {first : Char} {rest : Text} (h : IsKey (first :: rest)) :
    ∀ c ∈ first :: spaceCapitals rest, c.toNat < 128 := by
  intro c hc
  rcases List.mem_cons.mp hc with rfl | hc
  · exact h.ascii c List.mem_cons_self
  · rcases mem_spaceCapitals hc with rfl | hc
    · decide
    · exact h.ascii c (List.mem_cons_of_mem _ hc)

theorem literalOfKey_cons {first : Char} {rest : Text} (h : IsKey (first :: rest)) :
    literalOfKey (first :: rest) = (first :: spaceCapitals rest).map Char.toLower := by
  have hUpper : first.isUpper := by
    obtain ⟨_, _, hCons, hFirst⟩ := h.capital
    cases hCons
    exact hFirst
  have hDrop : (spaceCapitals (first :: rest)).dropWhile Text.isBlank =
      first :: spaceCapitals rest := by
    have hSolid := h.solid first List.mem_cons_self
    have hSpace : Text.isBlank ' ' = true := by decide
    simp [spaceCapitals_cons, hUpper, hSolid, hSpace]
  have hLast : ∀ c, (first :: spaceCapitals rest).getLast? = some c → Text.isBlank c = false := by
    intro c hc
    apply h.solid c
    apply List.mem_of_getLast?
    rw [← hc, List.getLast?_cons, List.getLast?_cons, getLast?_spaceCapitals]
  rw [literalOfKey, Text.strip, hDrop, Text.dropEndWhile_eq_self hLast]
  exact Text.lower_of_ascii _ h.ascii_spaced

theorem Text.splitOn_cons_of_ne {separator c : Char} {rest : Text} (h : c ≠ separator)
    {word : Text} {words : List Text} (hRest : splitOn separator rest = word :: words) :
    splitOn separator (c :: rest) = (c :: word) :: words := by
  rw [splitOn, if_neg h, hRest]

theorem capitalize_toLower {c : Char} (hUpper : c.isUpper) (rest : Text) :
    capitalize (c.toLower :: rest) = c :: rest := by
  have hAscii := toNat_lt_of_isAlphanum (isAlphanum_of_isUpper hUpper)
  have hBack : Text.upperChar c.toLower = [c] :=
    Text.forall_ascii (P := fun c => c.isUpper → Text.upperChar c.toLower = [c])
      (by decide) hAscii hUpper
  rw [capitalize, hBack, List.singleton_append]

theorem toLower_ne_space {c : Char} (hAscii : c.toNat < 128) (hSolid : Text.isBlank c = false) :
    c.toLower ≠ ' ' :=
  Text.forall_ascii (P := fun c => Text.isBlank c = false → c.toLower ≠ ' ') (by decide)
    hAscii hSolid

theorem toLower_eq_self {c : Char} (hAscii : c.toNat < 128) (hUpper : c.isUpper = false) :
    c.toLower = c :=
  Text.forall_ascii (P := fun c => c.isUpper = false → c.toLower = c) (by decide) hAscii hUpper

/-- The words of what follows the first character of a key: the first of them goes on with the word
already begun, and each later one was opened by a capital. -/
theorem exists_words_spaceCapitals (rest : Text) (hAscii : ∀ c ∈ rest, c.toNat < 128)
    (hSolid : ∀ c ∈ rest, Text.isBlank c = false) :
    ∃ word words, Text.splitOn ' ' ((spaceCapitals rest).map Char.toLower) = word :: words ∧
      word ++ words.flatMap capitalize = rest := by
  induction rest with
  | nil => exact ⟨[], [], rfl, rfl⟩
  | cons c rest ih =>
    have hc := hAscii c List.mem_cons_self
    obtain ⟨word, words, hSplit, hJoin⟩ := ih
      (fun d hd => hAscii d (List.mem_cons_of_mem _ hd))
      (fun d hd => hSolid d (List.mem_cons_of_mem _ hd))
    have hNext := Text.splitOn_cons_of_ne
      (toLower_ne_space hc (hSolid c List.mem_cons_self)) hSplit
    cases hUpper : c.isUpper with
    | true =>
      refine ⟨[], (c.toLower :: word) :: words, ?_, ?_⟩
      · rw [spaceCapitals_cons, if_pos hUpper]
        change Text.splitOn ' ' (' ' :: c.toLower :: (spaceCapitals rest).map Char.toLower) = _
        rw [Text.splitOn, if_pos rfl, hNext]
      · rw [List.nil_append, List.flatMap_cons, capitalize_toLower hUpper, List.cons_append, hJoin]
    | false =>
      refine ⟨c :: word, words, ?_, by rw [List.cons_append, hJoin]⟩
      rw [toLower_eq_self hc hUpper] at hNext
      simp only [spaceCapitals_cons, hUpper, Bool.false_eq_true, if_false, List.singleton_append,
        List.map_cons, toLower_eq_self hc hUpper, hNext]

theorem keyOfLiteral_literalOfKey {key : Text} (h : IsKey key) :
    keyOfLiteral (literalOfKey key) = key := by
  obtain ⟨first, rest, rfl, hUpper⟩ := h.capital
  have hFirst := h.ascii first List.mem_cons_self
  obtain ⟨word, words, hSplit, hJoin⟩ := exists_words_spaceCapitals rest
    (fun c hc => h.ascii c (List.mem_cons_of_mem _ hc))
    (fun c hc => h.solid c (List.mem_cons_of_mem _ hc))
  have hNext := Text.splitOn_cons_of_ne
    (toLower_ne_space hFirst (h.solid first List.mem_cons_self)) hSplit
  rw [keyOfLiteral, literalOfKey_cons h, Text.lower_map_toLower _ h.ascii_spaced, List.map_cons,
    hNext, List.flatMap_cons, capitalize_toLower hUpper, List.cons_append, hJoin]

theorem literalOfKey_injective {a b : Text} (ha : IsKey a) (hb : IsKey b)
    (h : literalOfKey a = literalOfKey b) : a = b := by
  rw [← keyOfLiteral_literalOfKey ha, h, keyOfLiteral_literalOfKey hb]

/-! ### The shape of the words -/

theorem exists_isLower_literalOfKey {key : Text} (h : IsKey key) :
    ∃ c rest, literalOfKey key = c :: rest ∧ c.isLower := by
  obtain ⟨first, rest, rfl, hUpper⟩ := h.capital
  refine ⟨first.toLower, (spaceCapitals rest).map Char.toLower, literalOfKey_cons h, ?_⟩
  exact Text.forall_ascii (P := fun c => c.isUpper → c.toLower.isLower) (by decide)
    (h.ascii first List.mem_cons_self) hUpper

theorem isBlank_of_getLast?_literalOfKey {key : Text} (h : IsKey key) {c : Char}
    (hc : (literalOfKey key).getLast? = some c) : Text.isBlank c = false := by
  obtain ⟨first, rest, rfl, _⟩ := h.capital
  rw [literalOfKey_cons h, List.getLast?_map, List.getLast?_cons, getLast?_spaceCapitals,
    ← List.getLast?_cons] at hc
  obtain ⟨d, hd, rfl⟩ := Option.map_eq_some_iff.mp hc
  have hMem := List.mem_of_getLast? hd
  exact Text.forall_ascii (P := fun d => Text.isBlank d = false → Text.isBlank d.toLower = false)
    (by decide) (h.ascii d hMem) (h.solid d hMem)

theorem mem_literalOfKey {key : Text} (h : IsPascal key) {c : Char} (hc : c ∈ literalOfKey key) :
    c = ' ' ∨ c.isAlphanum := by
  obtain ⟨first, rest, rfl, _⟩ := h.isKey.capital
  rw [literalOfKey_cons h.isKey] at hc
  obtain ⟨d, hd, rfl⟩ := List.mem_map.mp hc
  have hKey : d = ' ' ∨ d ∈ first :: rest := by
    rcases List.mem_cons.mp hd with rfl | hd
    · exact .inr List.mem_cons_self
    · exact (mem_spaceCapitals hd).imp_right (List.mem_cons_of_mem _)
  rcases hKey with rfl | hKey
  · exact .inl rfl
  · have hAlphanum := h.isAlphanum d hKey
    exact .inr (Text.forall_ascii (P := fun d => d.isAlphanum → d.toLower.isAlphanum) (by decide)
      (toNat_lt_of_isAlphanum hAlphanum) hAlphanum)

end ScriptAssist
