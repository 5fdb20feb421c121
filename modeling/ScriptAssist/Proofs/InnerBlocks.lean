import ScriptAssist.Proofs.InPlaceScan

/-!
# The blocks inside a block

The blocks that a scope lists are those whose opener stands inside the outer one, each once and in
the order of their openers; two of them are apart or one is in the other.
-/

namespace ScriptAssist.Scope

open Lexeme (width width_append)

namespace Scanned

variable {text : Text} {seen after : List Lexeme} {start : Nat} {inner : List Span}
  (h : Scanned seen start [] inner)
include h

theorem isInside {span : Span} (hSpan : span ∈ inner) : span.IsInside ⟨start, width seen⟩ :=
  ⟨h.inside span hSpan, (h.block span hSpan).bounds.2⟩

theorem exists_span {before rest : List Lexeme}
    (hLexemes : seen ++ .closing :: after = before ++ .opening :: rest)
    (hStart : start < width before) (hEnd : width before < width seen) :
    ∃ span ∈ inner, span.start = width before := by
  rcases List.append_eq_append_iff.mp hLexemes with ⟨more, rfl, -⟩ | ⟨more, rfl, hMore⟩
  · rw [width_append] at hEnd
    omega
  · cases more with
    | nil => cases hMore
    | cons lexeme more =>
      obtain ⟨rfl, -⟩ := List.cons.inj hMore
      exact (h.listed before more rfl hStart).resolve_left List.not_mem_nil

theorem mem_iff (span : Span) :
    span ∈ inner ↔ IsBlock (seen ++ .closing :: after) span ∧ start < span.start ∧
      span.start < width seen := by
  constructor
  · intro hSpan
    have hBlock := h.block span hSpan
    have hInside := h.inside span hSpan
    have hBounds := hBlock.bounds
    exact ⟨hBlock.append _, by omega, by omega⟩
  · rintro ⟨hBlock, hStart, hEnd⟩
    have hListed : ∃ found ∈ inner, found.start = span.start := by
      obtain ⟨before, inside, rest, hLexemes, -, rfl⟩ := hBlock
      exact h.exists_span hLexemes hStart hEnd
    obtain ⟨found, hFound, hOpens⟩ := hListed
    have hSame := ((h.block found hFound).append _).eq_of_start_eq hBlock hOpens
    exact hSame ▸ hFound

theorem opens_iff (hLexed : Lexed text (seen ++ .closing :: after)) (offset : Nat) :
    (∃ span ∈ inner, span.start = offset) ↔
      opener <+: text.drop offset ∧ start < offset ∧ offset < width seen := by
  rw [hLexed.opener_prefix_drop_iff]
  constructor
  · rintro ⟨span, hSpan, rfl⟩
    obtain ⟨hBlock, hStart, hEnd⟩ := (h.mem_iff span).mp hSpan
    obtain ⟨before, inside, rest, hLexemes, -, rfl⟩ := hBlock
    exact ⟨⟨before, _, hLexemes, rfl⟩, hStart, hEnd⟩
  · rintro ⟨⟨before, rest, hLexemes, rfl⟩, hStart, hEnd⟩
    exact h.exists_span hLexemes hStart hEnd

theorem isApart_or_isInside {s t : Span} (hs : s ∈ inner) (ht : t ∈ inner) (hNe : s ≠ t) :
    s.IsApart t ∨ s.IsInside t ∨ t.IsInside s := by
  have hSymm : Std.Symm fun s t : Span => s.Precedes t ∨ t.Precedes s := ⟨fun _ _ => Or.symm⟩
  have hEither : inner.Pairwise fun s t => s.Precedes t ∨ t.Precedes s := h.ordered.imp Or.inl
  rcases hEither.forall hs ht hNe with hOrder | hOrder
  · rcases hOrder.isApart_or_isInside with hApart | hInside
    · exact .inl hApart
    · exact .inr (.inr hInside)
  · rcases hOrder.isApart_or_isInside with hApart | hInside
    · exact .inl hApart.symm
    · exact .inr (.inl hInside)

end Scanned

structure ListsInner (text : Text) (lexemes : List Lexeme) (scope : Scope) : Prop where
  ordered : scope.inner.Pairwise (·.start < ·.start)
  opens_iff : ∀ offset, (∃ span ∈ scope.inner, span.start = offset) ↔
    opener <+: text.drop offset ∧ scope.outer.start < offset ∧ offset < scope.outer.finish
  mem_iff : ∀ span, span ∈ scope.inner ↔
    IsBlock lexemes span ∧ scope.outer.start < span.start ∧ span.start < scope.outer.finish
  within : ∀ span ∈ scope.inner, span.IsInside scope.outer ∧ span.start + 3 ≤ span.finish
  laminar : ∀ s ∈ scope.inner, ∀ t ∈ scope.inner, s ≠ t →
    s.IsApart t ∨ s.IsInside t ∨ t.IsInside s

section

variable {text : Text} {lexemes : List Lexeme} {scope : Scope}

theorem listsInner_of_find? (hLexed : Lexed text lexemes) (h : find? text = some scope) :
    ListsInner text lexemes scope := by
  rw [find?, hLexed.brackets_eq] at h
  obtain ⟨seen, after, hLexemes, hSeen, hFinish⟩ := scanned_of_ofBrackets? List.not_mem_nil h
  obtain rfl : lexemes = seen ++ .closing :: after := hLexemes
  obtain ⟨⟨start, finish⟩, inner⟩ := scope
  obtain rfl : finish = width seen := hFinish
  exact {
    ordered := hSeen.ordered.imp fun hPrecedes => Nat.lt_of_lt_of_le (by omega) hPrecedes.opens
    opens_iff := hSeen.opens_iff hLexed
    mem_iff := hSeen.mem_iff
    within := fun span hSpan => ⟨hSeen.isInside hSpan, (hSeen.block span hSpan).bounds.1⟩
    laminar := fun s hs t ht => hSeen.isApart_or_isInside hs ht }

theorem ListsInner.nests_iff (h : ListsInner text lexemes scope) (position : Int) :
    scope.nests position = true ↔ ∃ span, IsBlock lexemes span ∧
      scope.outer.start < span.start ∧ span.start < scope.outer.finish ∧
      (span.start : Int) + 3 ≤ position ∧ position < span.finish := by
  rw [nests, encloses, Bool.and_eq_true, List.any_eq_true]
  simp only [Span.contains_iff]
  constructor
  · rintro ⟨-, span, hSpan, hPosition⟩
    obtain ⟨hBlock, hStart, hEnd⟩ := (h.mem_iff span).mp hSpan
    exact ⟨span, hBlock, hStart, hEnd, hPosition⟩
  · rintro ⟨span, hBlock, hStart, hEnd, hPosition⟩
    have hSpan := (h.mem_iff span).mpr ⟨hBlock, hStart, hEnd⟩
    obtain ⟨⟨hAfter, hBefore⟩, -⟩ := h.within span hSpan
    exact ⟨by omega, span, hSpan, hPosition⟩

end

/-- Where a block is found, the blocks listed in it are the matched pairs inside, in order. A
position is nested where it is inside one of them. A scan that lists blocks at their openers looks
up every closer's opener, and leaves no block without its end. -/
theorem find?_lists_inner_blocks {text : Text} {scope : Scope} (h : find? text = some scope)
    (position : Int) :
    ∃ lexemes, (∀ other, Lexed text other ↔ other = lexemes) ∧ ListsInner text lexemes scope ∧
      (scope.nests position = true ↔ ∃ span, IsBlock lexemes span ∧
        scope.outer.start < span.start ∧ span.start < scope.outer.finish ∧
        (span.start : Int) + 3 ≤ position ∧ position < span.finish) ∧
      findInPlace? (brackets 0 text) = some (some (scope.outer, scope.inner.map .ofSpan)) := by
  obtain ⟨lexemes, hLexed⟩ := Lexed.exists_lexemes text
  have hInner := listsInner_of_find? hLexed h
  refine ⟨lexemes, fun other => ⟨fun hOther => hOther.unique hLexed, fun hOther => hOther ▸ hLexed⟩,
    hInner, hInner.nests_iff position, ?_⟩
  rw [findInPlace?_brackets, h]
  rfl

/-- Siblings and nesting: the second block inside holds the third. -/
theorem find?_lists_siblings :
    let text : Text := opener ++ " " ++ opener ++ "a" ++ closer ++ " " ++ opener ++ " " ++ opener ++
      "b" ++ closer ++ closer ++ " " ++ closer
    let scope : Scope := ⟨⟨0, 24⟩, [⟨4, 8⟩, ⟨11, 21⟩, ⟨15, 19⟩]⟩
    find? text = some scope ∧ scope.nests 18 = true ∧
      (∀ s ∈ scope.inner, ∀ t ∈ scope.inner, s ≠ t →
        s.IsApart t ∨ s.IsInside t ∨ t.IsInside s) ∧
      findInPlace? (brackets 0 text) =
        some (some (⟨0, 24⟩, [⟨4, some 8⟩, ⟨11, some 21⟩, ⟨15, some 19⟩])) := by
  intro text scope
  have hFound : find? text = some scope := by decide
  obtain ⟨lexemes, -, hInner, hNests, hInPlace⟩ := find?_lists_inner_blocks hFound 18
  refine ⟨hFound, hNests.mpr ⟨⟨15, 19⟩, ?_⟩, hInner.laminar, hInPlace⟩
  obtain ⟨hBlock, -⟩ := (hInner.mem_iff ⟨15, 19⟩).mp (by decide)
  exact ⟨hBlock, by decide⟩

end ScriptAssist.Scope
