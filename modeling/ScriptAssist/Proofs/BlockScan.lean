import ScriptAssist.Proofs.BlocksOfLexemes

/-!
# The scan of a block

What the scan of a block knows when it has read some lexemes: which openers are not closed, and that
it has listed the blocks that are, in the order of their openers. Each lexeme keeps this, so it
holds of the scope in which the scan ends.
-/

namespace ScriptAssist

open Lexeme (width width_append)

namespace Span

theorem contains_iff (span : Span) (position : Int) :
    span.contains position = true ↔
      (span.start : Int) + 3 ≤ position ∧ position < span.finish := by
  simp [contains, opener]

def IsApart (s t : Span) : Prop :=
  s.finish + 2 ≤ t.start ∨ t.finish + 2 ≤ s.start

def IsInside (s t : Span) : Prop :=
  t.start + 3 ≤ s.start ∧ s.finish + 2 ≤ t.finish

/-- Two blocks in the order of their openers. The second is past the closer of the first or wholly
before it. -/
structure Precedes (s t : Span) : Prop where
  opens : s.start + 3 ≤ t.start
  apart : s.finish + 2 ≤ t.start ∨ t.finish + 2 ≤ s.finish

theorem Precedes.isApart_or_isInside {s t : Span} (h : s.Precedes t) :
    s.IsApart t ∨ t.IsInside s := by
  rcases h.apart with hPast | hBefore
  · exact .inl (.inl hPast)
  · exact .inr ⟨h.opens, hBefore⟩

end Span

namespace Scope

theorem mem_insertSpan {span other : Span} {spans : List Span} :
    other ∈ insertSpan span spans ↔ other = span ∨ other ∈ spans := by
  induction spans with
  | nil => simp [insertSpan]
  | cons first rest ih =>
    rw [insertSpan]
    split
    · simp
    · rw [List.mem_cons, ih, List.mem_cons, or_left_comm]

theorem pairwise_insertSpan {span : Span} {spans : List Span}
    (h : spans.Pairwise Span.Precedes)
    (hSpan : ∀ other ∈ spans, other.Precedes span ∨ span.Precedes other) :
    (insertSpan span spans).Pairwise Span.Precedes := by
  induction spans with
  | nil => exact List.pairwise_singleton _ _
  | cons first rest ih =>
    obtain ⟨hFirst, hRest⟩ := List.pairwise_cons.mp h
    have hNext := hSpan first List.mem_cons_self
    rw [insertSpan]
    split
    · rename_i hBefore
      refine List.pairwise_cons.mpr ⟨?_, h⟩
      intro other hOther
      rcases hSpan other hOther with hAfter | hAfter
      · have hOpens := hAfter.opens
        rcases List.mem_cons.mp hOther with rfl | hOther
        · omega
        · have hLater := (hFirst other hOther).opens
          omega
      · exact hAfter
    · rename_i hBefore
      refine List.pairwise_cons.mpr ⟨?_, ih hRest fun other hOther =>
        hSpan other (List.mem_cons_of_mem _ hOther)⟩
      intro other hOther
      rcases mem_insertSpan.mp hOther with rfl | hOther
      · rcases hNext with hNext | hNext
        · exact hNext
        · have hOpens := hNext.opens
          omega
      · exact hFirst other hOther

/-- What the scan of a block knows when it has read some lexemes. -/
structure Scanned (seen : List Lexeme) (start : Nat) (pending : List Nat) (inner : List Span) :
    Prop where
  unclosed : Unclosed start seen pending
  ordered : inner.Pairwise Span.Precedes
  block : ∀ span ∈ inner, IsBlock seen span
  inside : ∀ span ∈ inner, start + 3 ≤ span.start
  listed : ∀ before after, seen = before ++ .opening :: after → start < width before →
    width before ∈ pending ∨ ∃ span ∈ inner, span.start = width before
  apart : ∀ span ∈ inner, ∀ first ∈ pending, span.finish + 2 ≤ first ∨ first + 3 ≤ span.start

namespace Scanned

variable {seen : List Lexeme} {start : Nat} {pending : List Nat} {inner : List Span}

theorem outer {before : List Lexeme} (hBefore : .opening ∉ before) :
    Scanned (before ++ [.opening]) (width before) [] [] where
  unclosed := .outer hBefore rfl isBalanced_nil
  ordered := List.Pairwise.nil
  block _ h := by cases h
  inside _ h := by cases h
  listed front after hSeen hStart := by
    exfalso
    rcases List.append_eq_append_iff.mp hSeen with ⟨more, rfl, hMore⟩ | ⟨more, rfl, -⟩
    · cases more with
      | nil =>
        rw [List.append_nil] at hStart
        omega
      | cons lexeme rest => simp at hMore
    · rw [width_append] at hStart
      omega
  apart _ h := by cases h

theorem listed_snoc (h : Scanned seen start pending inner) {lexeme : Lexeme}
    {before after : List Lexeme} (hSeen : seen ++ [lexeme] = before ++ .opening :: after)
    (hStart : start < width before) :
    (lexeme = .opening ∧ before = seen) ∨ width before ∈ pending ∨
      ∃ span ∈ inner, span.start = width before := by
  rcases List.eq_nil_or_concat after with rfl | ⟨init, last, rfl⟩
  · obtain ⟨rfl, hLexeme⟩ := List.append_inj' hSeen rfl
    exact .inl ⟨(List.cons.inj hLexeme).1, rfl⟩
  · rw [List.concat_eq_append, ← List.cons_append, ← List.append_assoc] at hSeen
    exact .inr (h.listed before init (List.append_inj' hSeen rfl).1 hStart)

theorem opening (h : Scanned seen start pending inner) :
    Scanned (seen ++ [.opening]) start (width seen :: pending) inner where
  unclosed := .inner h.unclosed isBalanced_nil
  ordered := h.ordered
  block span hSpan := (h.block span hSpan).append _
  inside := h.inside
  listed before after hSeen hStart := by
    rcases h.listed_snoc hSeen hStart with ⟨-, rfl⟩ | hPending | hInner
    · exact .inl List.mem_cons_self
    · exact .inl (List.mem_cons_of_mem _ hPending)
    · exact .inr hInner
  apart span hSpan first hFirst := by
    rcases List.mem_cons.mp hFirst with rfl | hFirst
    · exact .inl (h.block span hSpan).bounds.2
    · exact h.apart span hSpan first hFirst

theorem other (h : Scanned seen start pending inner) (c : Char) :
    Scanned (seen ++ [.other c]) start pending inner where
  unclosed := h.unclosed.append (isBalanced_other c)
  ordered := h.ordered
  block span hSpan := (h.block span hSpan).append _
  inside := h.inside
  listed before after hSeen hStart := by
    rcases h.listed_snoc hSeen hStart with ⟨hOpening, -⟩ | hListed
    · cases hOpening
    · exact hListed
  apart := h.apart

section

variable {first : Nat} {others : List Nat} (h : Scanned seen start (first :: others) inner)
include h

theorem precedes_or_precedes {span : Span} (hSpan : span ∈ inner) :
    span.Precedes ⟨first, width seen⟩ ∨ Span.Precedes ⟨first, width seen⟩ span := by
  obtain ⟨hLength, hEnd⟩ := (h.block span hSpan).bounds
  rcases h.apart span hSpan first List.mem_cons_self with hApart | hApart
  · exact .inl ⟨by dsimp only; omega, .inl hApart⟩
  · exact .inr ⟨hApart, .inr hEnd⟩

theorem isBlock_closing : IsBlock (seen ++ [.closing]) ⟨first, width seen⟩ := by
  cases h.unclosed with
  | inner _ hInside => exact ⟨_, _, [], by simp, hInside, rfl⟩

theorem add_le_first {other : Nat} (hOther : other ∈ others) : other + 3 ≤ first := by
  cases h.unclosed with
  | inner hOutside _ => exact (hOutside.bounds hOther).2

theorem unclosed_closing : Unclosed start (seen ++ [.closing]) others := by
  cases h.unclosed with
  | inner hOutside hInside =>
    have hBlock := hOutside.append hInside.nest
    simpa using hBlock

theorem closing :
    Scanned (seen ++ [.closing]) start others (insertSpan ⟨first, width seen⟩ inner) where
  unclosed := h.unclosed_closing
  ordered := pairwise_insertSpan h.ordered fun _ => h.precedes_or_precedes
  block span hSpan := by
    rcases mem_insertSpan.mp hSpan with rfl | hSpan
    · exact h.isBlock_closing
    · exact (h.block span hSpan).append _
  inside span hSpan := by
    rcases mem_insertSpan.mp hSpan with rfl | hSpan
    · exact (h.unclosed.bounds List.mem_cons_self).1
    · exact h.inside span hSpan
  listed before after hSeen hStart := by
    rcases h.listed_snoc hSeen hStart with ⟨hClosing, -⟩ | hPending | ⟨span, hSpan, hOpens⟩
    · cases hClosing
    · rcases List.mem_cons.mp hPending with hFirst | hOthers
      · exact .inr ⟨_, mem_insertSpan.mpr (.inl rfl), hFirst.symm⟩
      · exact .inl hOthers
    · exact .inr ⟨span, mem_insertSpan.mpr (.inr hSpan), hOpens⟩
  apart span hSpan other hOther := by
    rcases mem_insertSpan.mp hSpan with rfl | hSpan
    · exact .inr (h.add_le_first hOther)
    · exact h.apart span hSpan other (List.mem_cons_of_mem _ hOther)

end

end Scanned

theorem scanned_of_close? {seen : List Lexeme} {start : Nat} {pending : List Nat}
    {inner : List Span} (hSeen : Scanned seen start pending inner) {lexemes : List Lexeme}
    {scope : Scope}
    (h : close? start pending inner (Lexeme.brackets (width seen) lexemes) = some scope) :
    ∃ inside after, lexemes = inside ++ .closing :: after ∧
      Scanned (seen ++ inside) start [] scope.inner ∧
      scope.outer = ⟨start, width (seen ++ inside)⟩ := by
  induction lexemes generalizing seen pending inner with
  | nil => cases h
  | cons lexeme rest ih =>
    cases lexeme with
    | opening =>
      obtain ⟨inside, after, rfl, hInside, hOuter⟩ := ih hSeen.opening (by rwa [width_append])
      rw [List.append_assoc] at hInside hOuter
      exact ⟨.opening :: inside, after, rfl, hInside, hOuter⟩
    | closing =>
      cases pending with
      | nil =>
        cases h
        exact ⟨[], rest, rfl, by rwa [List.append_nil], by rw [List.append_nil]⟩
      | cons first others =>
        obtain ⟨inside, after, rfl, hInside, hOuter⟩ := ih hSeen.closing (by rwa [width_append])
        rw [List.append_assoc] at hInside hOuter
        exact ⟨.closing :: inside, after, rfl, hInside, hOuter⟩
    | other c =>
      obtain ⟨inside, after, rfl, hInside, hOuter⟩ := ih (hSeen.other c) (by rwa [width_append])
      rw [List.append_assoc] at hInside hOuter
      exact ⟨.other c :: inside, after, rfl, hInside, hOuter⟩

theorem scanned_of_ofBrackets? {before : List Lexeme} (hBefore : .opening ∉ before)
    {lexemes : List Lexeme} {scope : Scope}
    (h : ofBrackets? (Lexeme.brackets (width before) lexemes) = some scope) :
    ∃ seen after, before ++ lexemes = seen ++ .closing :: after ∧
      Scanned seen scope.outer.start [] scope.inner ∧ scope.outer.finish = width seen := by
  induction lexemes generalizing before with
  | nil => cases h
  | cons lexeme rest ih =>
    cases lexeme with
    | opening =>
      have hOpened := Scanned.outer hBefore
      obtain ⟨inside, after, rfl, hInside, hOuter⟩ :=
        scanned_of_close? hOpened (by rwa [width_append])
      refine ⟨before ++ [.opening] ++ inside, after, by simp, ?_, by rw [hOuter]⟩
      rwa [hOuter]
    | closing =>
      have hClosing : .opening ∉ before ++ [.closing] := by simpa using hBefore
      obtain ⟨seen, after, hSeen, hRest⟩ := ih hClosing (by rwa [width_append])
      exact ⟨seen, after, by rw [← hSeen]; simp, hRest⟩
    | other c =>
      have hOther : .opening ∉ before ++ [.other c] := by simpa using hBefore
      obtain ⟨seen, after, hSeen, hRest⟩ := ih hOther (by rwa [width_append])
      exact ⟨seen, after, by rw [← hSeen]; simp, hRest⟩

end Scope

end ScriptAssist
