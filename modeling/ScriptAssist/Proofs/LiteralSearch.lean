import Mathlib.Data.List.Induction
import ScriptAssist.Document.LiteralSearch

/-!
# What a search for literals finds

The search is compared with a statement about offsets: which literal stands where, and that none
stands before it and no longer one at the same place. The text may come after a character, which
may be a quote; that makes the statement inductive.
-/

namespace ScriptAssist.LiteralSearch

def charBefore (previous : Option Char) (text : Text) : Nat → Option Char
  | 0 => previous
  | n + 1 => text[n]?

/-- A literal stands at an offset, and no single quote right before it. -/
structure StandsAt (previous : Option Char) (text : Text) (start : Nat) (literal : Text) :
    Prop where
  unquoted : charBefore previous text start ≠ some '\x27'
  starts : literal <+: text.drop start

/-- The leftmost place at which one of the literals stands, and the longest of those there. -/
structure IsFirst (literals : List Text) (previous : Option Char) (text : Text) (found : Found) :
    Prop where
  declared : found.literal ∈ literals
  nonempty : found.literal ≠ []
  stands : StandsAt previous text found.start found.literal
  leftmost : ∀ other ∈ literals, other ≠ [] → ∀ start < found.start,
    ¬ StandsAt previous text start other
  longest : ∀ other ∈ literals, StandsAt previous text found.start other →
    other.length ≤ found.literal.length

theorem standsAt_succ_iff {previous : Option Char} {c : Char} {rest : Text} {n : Nat}
    {literal : Text} :
    StandsAt previous (c :: rest) (n + 1) literal ↔ StandsAt (some c) rest n literal := by
  have hBefore : charBefore previous (c :: rest) (n + 1) = charBefore (some c) rest n := by
    cases n <;> rfl
  constructor
  · intro h
    exact ⟨hBefore ▸ h.unquoted, h.starts⟩
  · intro h
    exact ⟨hBefore ▸ h.unquoted, h.starts⟩

theorem standsAt_zero_iff {previous : Option Char} {text literal : Text} :
    StandsAt previous text 0 literal ↔ isQuote previous = false ∧ literal <+: text := by
  constructor
  · intro h
    exact ⟨beq_eq_false_iff_ne.mpr h.unquoted, h.starts⟩
  · rintro ⟨hQuote, hStarts⟩
    exact ⟨beq_eq_false_iff_ne.mp hQuote, hStarts⟩

theorem longestAt_snoc (literals : List Text) (literal text : Text) :
    longestAt (literals ++ [literal]) text =
      if literal.isPrefixOf text && (longestAt literals text).all (·.length < literal.length) then
        some literal
      else longestAt literals text := by
  simp [longestAt, List.foldl_append]

theorem longestAt_eq_none_iff (literals : List Text) (text : Text) :
    longestAt literals text = none ↔ ∀ literal ∈ literals, ¬ literal <+: text := by
  induction literals using List.reverseRecOn with
  | nil => simp [longestAt]
  | append_singleton literals literal ih =>
    rw [longestAt_snoc]
    split
    · rename_i h
      simp only [Bool.and_eq_true, List.isPrefixOf_iff_prefix] at h
      simp [h.1]
    · rename_i h
      constructor
      · intro hNone
        simp only [hNone, Option.all_none, Bool.and_true, List.isPrefixOf_iff_prefix] at h
        intro other hOther
        rcases List.mem_append.mp hOther with hOther | hOther
        · exact ih.mp hNone other hOther
        · exact List.mem_singleton.mp hOther ▸ h
      · intro hAll
        exact ih.mpr fun other hOther => hAll other (List.mem_append_left _ hOther)

theorem longestAt_eq_some {literals : List Text} {text literal : Text}
    (h : longestAt literals text = some literal) :
    literal ∈ literals ∧ literal <+: text ∧
      ∀ other ∈ literals, other <+: text → other.length ≤ literal.length := by
  induction literals using List.reverseRecOn generalizing literal with
  | nil => cases h
  | append_singleton literals last ih =>
    rw [longestAt_snoc] at h
    split at h
    · rename_i hLast
      cases h
      simp only [Bool.and_eq_true, List.isPrefixOf_iff_prefix] at hLast
      refine ⟨by simp, hLast.1, ?_⟩
      intro other hOther hStarts
      rcases List.mem_append.mp hOther with hOther | hOther
      · cases hBest : longestAt literals text with
        | none => exact absurd hStarts ((longestAt_eq_none_iff literals text).mp hBest other hOther)
        | some best =>
          have hShorter : best.length < last.length := by simpa [hBest] using hLast.2
          exact Nat.le_trans ((ih hBest).2.2 other hOther hStarts) (Nat.le_of_lt hShorter)
      · exact Nat.le_of_eq (congrArg List.length (List.mem_singleton.mp hOther))
    · rename_i hLast
      obtain ⟨hMem, hStarts, hLongest⟩ := ih h
      refine ⟨List.mem_append_left _ hMem, hStarts, ?_⟩
      intro other hOther hOtherStarts
      rcases List.mem_append.mp hOther with hOther | hOther
      · exact hLongest other hOther hOtherStarts
      · rw [List.mem_singleton.mp hOther] at hOtherStarts ⊢
        simpa [h, List.isPrefixOf_iff_prefix.mpr hOtherStarts] using hLast

theorem eq_of_starts {text left right : Text} (hLeft : left <+: text) (hRight : right <+: text)
    (hLength : left.length = right.length) : left = right :=
  (List.prefix_of_prefix_length_le hLeft hRight (Nat.le_of_eq hLength)).eq_of_length hLength

theorem atPlace_eq_some_iff (literals : List Text) (previous : Option Char) (text literal : Text) :
    (if isQuote previous then none else longestAt literals text) = some literal ↔
      literal ∈ literals ∧ StandsAt previous text 0 literal ∧
        ∀ other ∈ literals, StandsAt previous text 0 other → other.length ≤ literal.length := by
  simp only [standsAt_zero_iff]
  cases hQuote : isQuote previous with
  | true => simp
  | false =>
    simp only [Bool.false_eq_true, if_false, true_and]
    constructor
    · exact longestAt_eq_some
    · rintro ⟨hMem, hStarts, hLongest⟩
      cases hBest : longestAt literals text with
      | none => exact absurd hStarts ((longestAt_eq_none_iff literals text).mp hBest literal hMem)
      | some best =>
        obtain ⟨hBestMem, hBestStarts, hBestLongest⟩ := longestAt_eq_some hBest
        have hLength := Nat.le_antisymm (hLongest best hBestMem hBestStarts)
          (hBestLongest literal hMem hStarts)
        rw [eq_of_starts hBestStarts hStarts hLength]

theorem atPlace_eq_none_iff (literals : List Text) (previous : Option Char) (text : Text) :
    (if isQuote previous then none else longestAt literals text) = none ↔
      ∀ other ∈ literals, ¬ StandsAt previous text 0 other := by
  simp only [standsAt_zero_iff]
  cases hQuote : isQuote previous with
  | true => simp
  | false => simpa using longestAt_eq_none_iff literals text

/-- Where nothing stands at the first place, the search is that of the rest. -/
theorem isFirst_succ_iff {literals : List Text} {previous : Option Char} {c : Char} {rest : Text}
    (hHere : ∀ other ∈ literals, ¬ StandsAt previous (c :: rest) 0 other) {n : Nat}
    {literal : Text} :
    IsFirst literals previous (c :: rest) ⟨n + 1, literal⟩ ↔
      IsFirst literals (some c) rest ⟨n, literal⟩ := by
  constructor
  · intro h
    refine ⟨h.declared, h.nonempty, standsAt_succ_iff.mp h.stands, ?_, ?_⟩
    · intro other hOther hNonempty start hStart hStands
      exact h.leftmost other hOther hNonempty (start + 1) (Nat.succ_lt_succ hStart)
        (standsAt_succ_iff.mpr hStands)
    · intro other hOther hStands
      exact h.longest other hOther (standsAt_succ_iff.mpr hStands)
  · intro h
    refine ⟨h.declared, h.nonempty, standsAt_succ_iff.mpr h.stands, ?_, ?_⟩
    · intro other hOther hNonempty start hStart hStands
      cases start with
      | zero => exact hHere other hOther hStands
      | succ start =>
        exact h.leftmost other hOther hNonempty start (Nat.lt_of_succ_lt_succ hStart)
          (standsAt_succ_iff.mp hStands)
    · intro other hOther hStands
      exact h.longest other hOther (standsAt_succ_iff.mp hStands)

theorem searchFrom_eq_some_iff {literals : List Text} (hNonempty : ∀ other ∈ literals, other ≠ [])
    (previous : Option Char) (offset : Nat) (text : Text) (found : Found) :
    searchFrom literals previous offset text = some found ↔
      ∃ start, found.start = offset + start ∧
        IsFirst literals previous text ⟨start, found.literal⟩ := by
  induction text generalizing previous offset with
  | nil =>
    constructor
    · intro h
      cases h
    · rintro ⟨start, _, hFirst⟩
      exact absurd (List.prefix_nil.mp (by simpa using hFirst.stands.starts)) hFirst.nonempty
  | cons c rest ih =>
    rw [searchFrom]
    split
    · rename_i literal hHere
      obtain ⟨hMem, hStands, hLongest⟩ := (atPlace_eq_some_iff _ _ _ _).mp hHere
      constructor
      · intro h
        cases h
        exact ⟨0, rfl, hMem, hNonempty _ hMem, hStands, fun _ _ _ start hStart =>
          absurd hStart (Nat.not_lt_zero start), hLongest⟩
      · rintro ⟨start, hStart, hFirst⟩
        have hZero : start = 0 := by
          rcases Nat.eq_zero_or_pos start with hZero | hPos
          · exact hZero
          · exact absurd hStands (hFirst.leftmost literal hMem (hNonempty _ hMem) 0 hPos)
        subst hZero
        have hSame : literal = found.literal := Option.some.inj (hHere.symm.trans
          ((atPlace_eq_some_iff _ _ _ _).mpr ⟨hFirst.declared, hFirst.stands, hFirst.longest⟩))
        have hOffset : offset = found.start := hStart.symm
        rw [hSame, hOffset]
    · rename_i hHere
      have hNone := (atPlace_eq_none_iff _ _ _).mp hHere
      rw [ih]
      constructor
      · rintro ⟨start, hStart, hFirst⟩
        exact ⟨start + 1, by omega, (isFirst_succ_iff hNone).mpr hFirst⟩
      · rintro ⟨start, hStart, hFirst⟩
        cases start with
        | zero => exact absurd hFirst.stands (hNone _ hFirst.declared)
        | succ start => exact ⟨start, by omega, (isFirst_succ_iff hNone).mp hFirst⟩

theorem searchFrom_eq_none_iff {literals : List Text} (hNonempty : ∀ other ∈ literals, other ≠ [])
    (previous : Option Char) (offset : Nat) (text : Text) :
    searchFrom literals previous offset text = none ↔
      ∀ literal ∈ literals, ∀ start, ¬ StandsAt previous text start literal := by
  induction text generalizing previous offset with
  | nil =>
    refine iff_of_true rfl ?_
    intro literal hLiteral start hStands
    exact hNonempty literal hLiteral (List.prefix_nil.mp (by simpa using hStands.starts))
  | cons c rest ih =>
    rw [searchFrom]
    split
    · rename_i literal hHere
      obtain ⟨hMem, hStands, -⟩ := (atPlace_eq_some_iff _ _ _ _).mp hHere
      exact iff_of_false (fun h => by cases h) (fun h => h literal hMem 0 hStands)
    · rename_i hHere
      have hNone := (atPlace_eq_none_iff _ _ _).mp hHere
      rw [ih]
      constructor
      · intro h literal hLiteral start hStands
        cases start with
        | zero => exact hNone literal hLiteral hStands
        | succ start => exact h literal hLiteral start (standsAt_succ_iff.mp hStands)
      · intro h literal hLiteral start hStands
        exact h literal hLiteral (start + 1) (standsAt_succ_iff.mpr hStands)

theorem isFirst_congr {a b : List Text} (h : ∀ literal, literal ≠ [] → (literal ∈ a ↔ literal ∈ b))
    {previous : Option Char} {text : Text} {found : Found} :
    IsFirst a previous text found ↔ IsFirst b previous text found := by
  have hImp : ∀ {c d : List Text}, (∀ literal, literal ≠ [] → (literal ∈ c ↔ literal ∈ d)) →
      IsFirst c previous text found → IsFirst d previous text found := by
    intro c d hSame hFirst
    refine ⟨(hSame _ hFirst.nonempty).mp hFirst.declared, hFirst.nonempty, hFirst.stands, ?_, ?_⟩
    · intro other hOther hNonempty
      exact hFirst.leftmost other ((hSame other hNonempty).mpr hOther) hNonempty
    · intro other hOther hStands
      by_cases hEmpty : other = []
      · simp [hEmpty]
      · exact hFirst.longest other ((hSame other hEmpty).mpr hOther) hStands
  exact ⟨hImp h, hImp fun literal hNonempty => (h literal hNonempty).symm⟩

theorem isFirst_filter_iff {literals : List Text} {previous : Option Char} {text : Text}
    {found : Found} :
    IsFirst (literals.filter (!·.isEmpty)) previous text found ↔
      IsFirst literals previous text found := by
  apply isFirst_congr
  intro literal hNonempty
  simp [hNonempty]

theorem ne_nil_of_mem_filter {literal : Text} {literals : List Text}
    (h : literal ∈ literals.filter (!·.isEmpty)) : literal ≠ [] := by
  simpa using (List.mem_filter.mp h).2

theorem search_eq_some_iff (literals : List Text) (text : Text) (found : Found) :
    search literals text = some found ↔ IsFirst literals none text found := by
  rw [search, searchFrom_eq_some_iff (fun _ => ne_nil_of_mem_filter), ← isFirst_filter_iff]
  constructor
  · rintro ⟨start, hStart, hFirst⟩
    rw [Nat.zero_add] at hStart
    subst hStart
    exact hFirst
  · intro h
    exact ⟨found.start, (Nat.zero_add _).symm, h⟩

theorem search_eq_none_iff (literals : List Text) (text : Text) :
    search literals text = none ↔
      ∀ literal ∈ literals, literal ≠ [] → ∀ start, ¬ StandsAt none text start literal := by
  rw [search, searchFrom_eq_none_iff fun _ => ne_nil_of_mem_filter]
  simp

theorem search_congr {a b : List Text} (h : ∀ literal, literal ≠ [] → (literal ∈ a ↔ literal ∈ b))
    (text : Text) : search a text = search b text := by
  apply Option.ext
  intro found
  rw [search_eq_some_iff, search_eq_some_iff, isFirst_congr h]

theorem occursAfter_iff (literal : Text) (previous : Option Char) (text : Text) :
    occursAfter literal previous text = true ↔
      ∃ start ≤ text.length, StandsAt previous text start literal := by
  induction text generalizing previous with
  | nil =>
    simp only [occursAfter, List.length_nil, Nat.le_zero, exists_eq_left, standsAt_zero_iff,
      List.prefix_nil, Bool.and_eq_true, List.isEmpty_iff, Bool.not_eq_true']
    exact and_comm
  | cons c rest ih =>
    simp only [occursAfter, Bool.or_eq_true, Bool.and_eq_true, Bool.not_eq_true',
      List.isPrefixOf_iff_prefix, ih, ← standsAt_zero_iff]
    constructor
    · rintro (hHere | ⟨start, hStart, hStands⟩)
      · exact ⟨0, Nat.zero_le _, hHere⟩
      · exact ⟨start + 1, Nat.succ_le_succ hStart, standsAt_succ_iff.mpr hStands⟩
    · rintro ⟨start, hStart, hStands⟩
      cases start with
      | zero => exact .inl hStands
      | succ start =>
        exact .inr ⟨start, Nat.le_of_succ_le_succ hStart, standsAt_succ_iff.mp hStands⟩

theorem IsFirst.occurs {literals : List Text} {text : Text} {found : Found}
    (h : IsFirst literals none text found) : occurs found.literal text = true := by
  refine (occursAfter_iff _ _ _).mpr ⟨found.start, ?_, h.stands⟩
  by_contra hPast
  have hStarts := h.stands.starts
  rw [List.drop_eq_nil_of_le (by omega), List.prefix_nil] at hStarts
  exact h.nonempty hStarts

end ScriptAssist.LiteralSearch
