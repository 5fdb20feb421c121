import Mathlib.Data.Char
import Mathlib.Data.List.Dedup
import Mathlib.Data.List.Lex
import Mathlib.Data.List.Sort
import ScriptAssist.Proofs.ActionResolution

/-!
# Literals as ordered alternatives

A pattern lists literals as alternatives. At each place, from left to right, they are tried in turn
and the first one that stands there is found. What is found is the longest literal of its place only
because longer alternatives come first. So a pattern finds what the search finds, and it depends
only on which literals are declared.
-/

namespace ScriptAssist

namespace LiteralSearch

/-- Longer literals come first, and those of one length in order of code points. -/
def Precedes (a b : Text) : Prop :=
  b.length < a.length ∨ a.length = b.length ∧ a ≤ b

instance : DecidableRel Precedes :=
  fun a b => inferInstanceAs (Decidable (b.length < a.length ∨ a.length = b.length ∧ a ≤ b))

theorem Precedes.length_le {a b : Text} (h : Precedes a b) : b.length ≤ a.length := by
  rcases h with hLonger | ⟨hSame, -⟩
  · exact Nat.le_of_lt hLonger
  · exact Nat.le_of_eq hSame.symm

instance : Std.Total Precedes where
  total a b := by
    rcases Nat.lt_trichotomy a.length b.length with hLess | hSame | hGreater
    · exact .inr (.inl hLess)
    · rcases le_total a b with hOrder | hOrder
      · exact .inl (.inr ⟨hSame, hOrder⟩)
      · exact .inr (.inr ⟨hSame.symm, hOrder⟩)
    · exact .inl (.inl hGreater)

instance : IsTrans Text Precedes where
  trans a b c hab hbc := by
    rcases hab with hLonger | ⟨hSame, hOrder⟩
    · exact .inl (Nat.lt_of_le_of_lt hbc.length_le hLonger)
    · rcases hbc with hLonger | ⟨hSame', hOrder'⟩
      · exact .inl (hSame ▸ hLonger)
      · exact .inr ⟨hSame.trans hSame', hOrder.trans hOrder'⟩

instance : Std.Antisymm Precedes where
  antisymm a b hab hba := by
    have hSame := Nat.le_antisymm hba.length_le hab.length_le
    rcases hab with hLonger | ⟨-, hOrder⟩
    · omega
    · rcases hba with hLonger | ⟨-, hOrder'⟩
      · omega
      · exact le_antisymm hOrder hOrder'

/-- Alternatives in the order in which they are tried. -/
structure Pattern where
  alternatives : List Text
  ne_nil : alternatives ≠ []
  nonempty : ∀ literal ∈ alternatives, literal ≠ []
  ordered : alternatives.Pairwise Precedes

def inOrder (literals : List Text) : List Text :=
  (literals.filter (!·.isEmpty)).dedup.insertionSort Precedes

theorem mem_inOrder {literal : Text} {literals : List Text} :
    literal ∈ inOrder literals ↔ literal ∈ literals ∧ literal ≠ [] := by
  simp [inOrder]

theorem inOrder_congr {a b : List Text}
    (h : ∀ literal, literal ≠ [] → (literal ∈ a ↔ literal ∈ b)) :
    inOrder a = inOrder b := by
  have hPerm : (a.filter (!·.isEmpty)).dedup.Perm (b.filter (!·.isEmpty)).dedup := by
    rw [List.perm_ext_iff_of_nodup (List.nodup_dedup _) (List.nodup_dedup _)]
    intro literal
    by_cases hEmpty : literal = []
    · simp [hEmpty]
    · simp [h literal hEmpty]
  have hSorted : (inOrder a).Perm (inOrder b) :=
    ((List.perm_insertionSort _ _).trans hPerm).trans (List.perm_insertionSort _ _).symm
  exact hSorted.eq_of_pairwise' (List.pairwise_insertionSort _ _) (List.pairwise_insertionSort _ _)

namespace Pattern

def ofLiterals? (literals : List Text) : Option Pattern :=
  if h : inOrder literals = [] then none
  else some {
    alternatives := inOrder literals
    ne_nil := h
    nonempty := fun _ hLiteral => (mem_inOrder.mp hLiteral).2
    ordered := List.pairwise_insertionSort _ _ }

theorem ofLiterals?_eq_none_iff (literals : List Text) :
    ofLiterals? literals = none ↔ ∀ literal ∈ literals, literal = [] := by
  rw [ofLiterals?, dite_eq_left_iff]
  simp only [reduceCtorEq, imp_false, not_not, List.eq_nil_iff_forall_not_mem, mem_inOrder,
    not_and]

theorem ofLiterals?_congr {a b : List Text}
    (h : ∀ literal, literal ≠ [] → (literal ∈ a ↔ literal ∈ b)) :
    ofLiterals? a = ofLiterals? b := by
  simp only [ofLiterals?, inOrder_congr h]

/-- The first alternative that stands at the beginning of a text. Each one is tried on its own,
with the character before it. -/
def firstAt (pattern : Pattern) (previous : Option Char) (text : Text) : Option Text :=
  pattern.alternatives.find? fun literal => !isQuote previous && literal.isPrefixOf text

def searchFrom (pattern : Pattern) (previous : Option Char) (offset : Nat) : Text → Option Found
  | [] => (pattern.firstAt previous []).map (⟨offset, ·⟩)
  | c :: rest =>
    match pattern.firstAt previous (c :: rest) with
    | some literal => some ⟨offset, literal⟩
    | none => searchFrom pattern (some c) (offset + 1) rest

def search (pattern : Pattern) (text : Text) : Option Found :=
  pattern.searchFrom none 0 text

variable (pattern : Pattern)

theorem standsAt_iff {previous : Option Char} {text literal : Text} :
    (!isQuote previous && literal.isPrefixOf text) = true ↔ StandsAt previous text 0 literal := by
  rw [standsAt_zero_iff, Bool.and_eq_true, Bool.not_eq_true', List.isPrefixOf_iff_prefix]

theorem length_le_of_firstAt {previous : Option Char} {text literal : Text}
    (h : pattern.firstAt previous text = some literal) {other : Text}
    (hOther : other ∈ pattern.alternatives) (hStands : StandsAt previous text 0 other) :
    other.length ≤ literal.length := by
  obtain ⟨-, tried, rest, hSplit, hTried⟩ := List.find?_eq_some_iff_append.mp h
  rw [hSplit] at hOther
  rcases List.mem_append.mp hOther with hBefore | hAfter
  · have hNot := hTried other hBefore
    rw [standsAt_iff.mpr hStands] at hNot
    cases hNot
  · rcases List.mem_cons.mp hAfter with rfl | hRest
    · exact Nat.le_refl _
    · have hOrdered := (List.pairwise_append.mp (hSplit ▸ pattern.ordered)).2.1
      exact ((List.pairwise_cons.mp hOrdered).1 other hRest).length_le

/-- The order of the alternatives makes the first one that stands at a place the longest. -/
theorem firstAt_eq (previous : Option Char) (text : Text) :
    pattern.firstAt previous text =
      if isQuote previous then none else longestAt pattern.alternatives text := by
  cases hFirst : pattern.firstAt previous text with
  | none =>
    symm
    rw [atPlace_eq_none_iff]
    intro other hOther hStands
    exact List.find?_eq_none.mp hFirst other hOther (standsAt_iff.mpr hStands)
  | some literal =>
    symm
    rw [atPlace_eq_some_iff]
    have hStands := (List.find?_eq_some_iff_append.mp hFirst).1
    exact ⟨List.mem_of_find?_eq_some hFirst, standsAt_iff.mp hStands,
      fun other => pattern.length_le_of_firstAt hFirst⟩

theorem firstAt_nil (previous : Option Char) : pattern.firstAt previous [] = none := by
  refine List.find?_eq_none.mpr ?_
  intro literal hLiteral hStands
  have hPrefix := (standsAt_iff.mp hStands).starts
  exact pattern.nonempty literal hLiteral (List.prefix_nil.mp hPrefix)

theorem searchFrom_eq (previous : Option Char) (offset : Nat) (text : Text) :
    pattern.searchFrom previous offset text =
      LiteralSearch.searchFrom pattern.alternatives previous offset text := by
  induction text generalizing previous offset with
  | nil => rw [searchFrom, firstAt_nil]; rfl
  | cons c rest ih =>
    rw [searchFrom, LiteralSearch.searchFrom, firstAt_eq]
    split <;> simp_all

theorem search_eq (text : Text) :
    pattern.search text = LiteralSearch.search pattern.alternatives text := by
  have hFilter : pattern.alternatives.filter (!·.isEmpty) = pattern.alternatives := by
    refine List.filter_eq_self.mpr ?_
    intro literal hLiteral
    simpa using pattern.nonempty literal hLiteral
  rw [search, searchFrom_eq, LiteralSearch.search, hFilter]

theorem search_ofLiterals? (literals : List Text) (text : Text) :
    (ofLiterals? literals).bind (·.search text) = LiteralSearch.search literals text := by
  cases hPattern : ofLiterals? literals with
  | none =>
    have hEmpty := (ofLiterals?_eq_none_iff literals).mp hPattern
    symm
    refine (search_eq_none_iff literals text).mpr ?_
    intro literal hLiteral hNonempty
    exact absurd (hEmpty literal hLiteral) hNonempty
  | some pattern =>
    have hAlternatives : pattern.alternatives = inOrder literals := by
      rw [ofLiterals?] at hPattern
      split at hPattern
      · cases hPattern
      · cases hPattern
        rfl
    rw [Option.bind_some, search_eq, hAlternatives]
    apply search_congr
    intro literal hNonempty
    rw [mem_inOrder, and_iff_left hNonempty]

end Pattern

def Found.range (found : Found) : Nat × Nat :=
  (found.start, found.finish)

theorem range_search_eq_some_iff (literals : List Text) (text : Text) (start finish : Nat) :
    (search literals text).map Found.range = some (start, finish) ↔
      finish ≤ text.length ∧ IsFirst literals none text ⟨start, text.extract start finish⟩ := by
  rw [Option.map_eq_some_iff, List.extract_eq_take_drop]
  constructor
  · rintro ⟨found, hFound, hRange⟩
    have hFirst := (search_eq_some_iff _ _ _).mp hFound
    obtain ⟨rfl, rfl⟩ := Prod.mk.inj hRange
    have hStarts := hFirst.stands.starts
    have hPos := List.length_pos_of_ne_nil hFirst.nonempty
    have hLength := hStarts.length_le
    rw [List.length_drop] at hLength
    refine ⟨by rw [Found.finish]; omega, ?_⟩
    rwa [Found.finish, Nat.add_sub_cancel_left, ← List.prefix_iff_eq_take.mp hStarts]
  · rintro ⟨hFinish, hFirst⟩
    refine ⟨_, (search_eq_some_iff _ _ _).mpr hFirst, ?_⟩
    have hPos := List.length_pos_of_ne_nil hFirst.nonempty
    rw [List.length_take, List.length_drop] at hPos
    rw [Found.range, Found.finish, Prod.mk.injEq, List.length_take, List.length_drop]
    refine ⟨rfl, ?_⟩
    dsimp only
    omega

end LiteralSearch

namespace Engine

variable (engine : Engine)

theorem search_literals (text : Text) :
    LiteralSearch.search engine.literals text =
      LiteralSearch.search (engine.actions.flatMap Action.literals) text := by
  apply LiteralSearch.search_congr
  intro literal hNonempty
  simp [literals, hNonempty]

theorem resolveText_eq_noActions_iff (text : Text) :
    engine.resolveText text = .error .noActions ↔
      ∀ literal ∈ engine.actions.flatMap Action.literals, literal = [] := by
  have hEmpty : engine.literals.isEmpty = true ↔
      ∀ literal ∈ engine.actions.flatMap Action.literals, literal = [] := by
    rw [literals, List.isEmpty_iff, List.filter_eq_nil_iff]
    simp
  rw [← hEmpty, resolveText]
  cases engine.literals.isEmpty with
  | true => exact iff_of_true rfl rfl
  | false =>
    refine iff_of_false ?_ Bool.false_ne_true
    intro h
    rw [if_neg Bool.false_ne_true] at h
    split at h
    · cases h
    · dsimp only at h
      split at h <;> cases h

end Engine

namespace LiteralSearch

/-- The search for the literals of some actions finds the leftmost one that no quote stands before,
and of those there the longest. Trying them as ordered alternatives finds the same. Only which
literals there are matters, and without one there is nothing to search for. -/
theorem search_finds_leftmost_longest (actions : List Action) (text : Text) :
    let literals := actions.flatMap Action.literals
    (∀ start finish, (search literals text).map Found.range = some (start, finish) ↔
      finish ≤ text.length ∧ IsFirst literals none text ⟨start, text.extract start finish⟩) ∧
    (search literals text = none ↔
      ∀ literal ∈ literals, literal ≠ [] → ∀ start, ¬StandsAt none text start literal) ∧
    (Pattern.ofLiterals? literals).bind (·.search text) = search literals text ∧
    (Pattern.ofLiterals? literals = none ↔ ∀ literal ∈ literals, literal = []) ∧
    (∀ others : List Action,
      (∀ literal, literal ≠ [] →
        (literal ∈ others.flatMap Action.literals ↔ literal ∈ literals)) →
      Pattern.ofLiterals? (others.flatMap Action.literals) = Pattern.ofLiterals? literals ∧
        search (others.flatMap Action.literals) text = search literals text) ∧
    ∀ engine : Engine, engine.actions = actions →
      search engine.literals text = search literals text ∧
        (engine.resolveText text = .error .noActions ↔ Pattern.ofLiterals? literals = none) := by
  intro literals
  refine ⟨range_search_eq_some_iff literals text, search_eq_none_iff literals text,
    Pattern.search_ofLiterals? literals text, Pattern.ofLiterals?_eq_none_iff literals, ?_, ?_⟩
  · intro others hSame
    exact ⟨Pattern.ofLiterals?_congr hSame, search_congr hSame text⟩
  · rintro engine rfl
    refine ⟨engine.search_literals text, ?_⟩
    rw [engine.resolveText_eq_noActions_iff, Pattern.ofLiterals?_eq_none_iff]

/-- A quoted literal is passed over, and the longer of two that start together is found. -/
example :
    (search ["send", "send keys", "keys"] "'keys' send keys").map Found.range =
      some (7, 16) := by
  decide

end LiteralSearch

end ScriptAssist
