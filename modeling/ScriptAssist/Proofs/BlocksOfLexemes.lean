import ScriptAssist.Proofs.BracketMatching

/-!
# Blocks among lexemes

A block goes from an opener to the closer that matches it. An opener has one matching closer, and
wherever an opener occurs in a text it is a lexeme of it. Inside a block that is being read, some
openers are not closed yet: they are nested in one another, and what stands between them is
balanced.
-/

namespace ScriptAssist

namespace Lexeme

theorem word_append (a b : List Lexeme) : word (a ++ b) = word a ++ word b :=
  List.filterMap_append

theorem width_append (a b : List Lexeme) : width (a ++ b) = width a + width b := by
  simp [width]

theorem eq_nil_of_width_eq_zero {lexemes : List Lexeme} (h : width lexemes = 0) : lexemes = [] := by
  cases lexemes with
  | nil => rfl
  | cons lexeme rest =>
    cases lexeme <;> simp only [width_opening, width_closing, width_other] at h <;> omega

theorem eq_of_width_eq {a b c d : List Lexeme} (h : a ++ b = c ++ d) (hWidth : width a = width c) :
    a = c := by
  rcases List.append_eq_append_iff.mp h with ⟨more, rfl, -⟩ | ⟨more, rfl, -⟩
  · rw [width_append] at hWidth
    rw [eq_nil_of_width_eq_zero (by omega : width more = 0), List.append_nil]
  · rw [width_append] at hWidth
    rw [eq_nil_of_width_eq_zero (by omega : width more = 0), List.append_nil]

end Lexeme

open Lexeme (width width_append word_append)

theorem isBalanced_nil : IsBalanced [] :=
  ⟨0, rfl⟩

theorem isBalanced_other (c : Char) : IsBalanced [.other c] :=
  ⟨0, rfl⟩

theorem IsBalanced.append {a b : List Lexeme} (ha : IsBalanced a) (hb : IsBalanced b) :
    IsBalanced (a ++ b) := by
  obtain ⟨p, hp⟩ := ha
  obtain ⟨q, hq⟩ := hb
  refine ⟨p + q, ?_⟩
  rw [word_append, ← hp, ← hq]
  rfl

theorem IsBalanced.nest {inside : List Lexeme} (h : IsBalanced inside) :
    IsBalanced (.opening :: (inside ++ [.closing])) := by
  obtain ⟨p, hp⟩ := h
  refine ⟨p.nest, ?_⟩
  rw [Lexeme.word_opening, word_append, ← hp]
  rfl

theorem not_isBalanced_append_closing {inside : List Lexeme} (h : IsBalanced inside)
    (rest : List Lexeme) : ¬IsBalanced (inside ++ .closing :: rest) := by
  rintro ⟨q, hq⟩
  obtain ⟨p, hp⟩ := h
  rw [word_append, ← hp, Lexeme.word_closing] at hq
  have hTake : q.toList.take (p.toList.length + 1) = p.toList ++ [.D] := by
    rw [hq, List.take_length_add_append]
    rfl
  have hLe := q.count_D_le_count_U (p.toList.length + 1)
  rw [hTake] at hLe
  have hTotal := p.count_U_eq_count_D
  simp only [List.count_append, List.count_singleton_self] at hLe
  have hUp : List.count DyckStep.U [DyckStep.D] = 0 := by decide
  omega

theorem eq_nil_of_isBalanced_append {inside more c d : List Lexeme} (hInside : IsBalanced inside)
    (hMore : IsBalanced (inside ++ more)) (h : .closing :: c = more ++ .closing :: d) :
    more = [] := by
  cases more with
  | nil => rfl
  | cons lexeme rest =>
    obtain ⟨rfl, -⟩ := List.cons.inj h
    exact absurd hMore (not_isBalanced_append_closing hInside rest)

theorem eq_of_append_closing {a b c d : List Lexeme} (h : a ++ .closing :: c = b ++ .closing :: d)
    (ha : IsBalanced a) (hb : IsBalanced b) : a = b := by
  rcases List.append_eq_append_iff.mp h with ⟨more, rfl, hMore⟩ | ⟨more, rfl, hMore⟩
  · rw [eq_nil_of_isBalanced_append ha hb hMore, List.append_nil]
  · rw [eq_nil_of_isBalanced_append hb ha hMore, List.append_nil]

/-- A block goes from an opener to the closer that matches it. -/
def IsBlock (lexemes : List Lexeme) (span : Span) : Prop :=
  ∃ before inside after, lexemes = before ++ .opening :: (inside ++ .closing :: after) ∧
    IsBalanced inside ∧ span = ⟨width before, width (before ++ .opening :: inside)⟩

namespace IsBlock

variable {lexemes : List Lexeme} {s t : Span}

theorem append (h : IsBlock lexemes s) (more : List Lexeme) : IsBlock (lexemes ++ more) s := by
  obtain ⟨before, inside, after, rfl, hInside, hSpan⟩ := h
  exact ⟨before, inside, after ++ more, by simp, hInside, hSpan⟩

theorem bounds (h : IsBlock lexemes s) :
    s.start + 3 ≤ s.finish ∧ s.finish + 2 ≤ width lexemes := by
  obtain ⟨before, inside, after, rfl, -, rfl⟩ := h
  simp only [width_append, Lexeme.width_opening, Lexeme.width_closing]
  omega

theorem eq_of_start_eq (hs : IsBlock lexemes s) (ht : IsBlock lexemes t)
    (hStart : s.start = t.start) : s = t := by
  obtain ⟨before, inside, after, rfl, hInside, rfl⟩ := hs
  obtain ⟨front, body, rest, hLexemes, hBody, rfl⟩ := ht
  obtain rfl : before = front := Lexeme.eq_of_width_eq hLexemes hStart
  have hAfter := (List.cons.inj (List.append_cancel_left hLexemes)).2
  obtain rfl : inside = body := eq_of_append_closing hAfter hInside hBody
  rfl

end IsBlock

namespace Lexed

variable {text : Text} {lexemes : List Lexeme}

theorem exists_of_opener (h : Lexed text lexemes) {start : Nat}
    (hStands : opener <+: text.drop start) :
    ∃ before after, lexemes = before ++ .opening :: after ∧ width before = start := by
  induction h generalizing start with
  | nil => simp [opener] at hStands
  | @opening rest lexemes h ih =>
    rcases start with _ | _ | _ | start
    · exact ⟨[], lexemes, rfl, rfl⟩
    · simp [opener] at hStands
    · simp [opener] at hStands
    · obtain ⟨before, after, rfl, rfl⟩ := ih hStands
      exact ⟨.opening :: before, after, rfl, by rw [Lexeme.width_opening]; omega⟩
  | @closing rest lexemes h ih =>
    rcases start with _ | _ | start
    · simp [opener, closer] at hStands
    · simp [opener, closer] at hStands
    · obtain ⟨before, after, rfl, rfl⟩ := ih hStands
      exact ⟨.closing :: before, after, rfl, by rw [Lexeme.width_closing]; omega⟩
  | @other c rest lexemes hOpener hCloser h ih =>
    cases start with
    | zero => exact absurd hStands hOpener
    | succ start =>
      obtain ⟨before, after, rfl, rfl⟩ := ih hStands
      exact ⟨.other c :: before, after, rfl, by rw [Lexeme.width_other]; omega⟩

theorem drop_width {before after : List Lexeme} (h : Lexed text (before ++ after)) :
    text.drop (width before) = after.flatMap Lexeme.text := by
  rw [← h.flatMap_text, List.flatMap_append, width, List.drop_left]

theorem opener_prefix_drop_iff (h : Lexed text lexemes) (start : Nat) :
    opener <+: text.drop start ↔
      ∃ before after, lexemes = before ++ .opening :: after ∧ width before = start := by
  constructor
  · exact h.exists_of_opener
  · rintro ⟨before, after, rfl, rfl⟩
    rw [h.drop_width]
    exact List.prefix_append _ _

end Lexed

/-- Openers that are not closed yet: the outer one, and in it those of the blocks still open, the
innermost first. -/
inductive Unclosed (start : Nat) : List Lexeme → List Nat → Prop
  | outer {before inside : List Lexeme} (hBefore : .opening ∉ before)
    (hStart : width before = start) (hInside : IsBalanced inside) :
    Unclosed start (before ++ .opening :: inside) []
  | inner {outside inside : List Lexeme} {pending : List Nat} (h : Unclosed start outside pending)
    (hInside : IsBalanced inside) :
    Unclosed start (outside ++ .opening :: inside) (width outside :: pending)

namespace Unclosed

variable {start : Nat} {seen : List Lexeme} {pending : List Nat}

theorem append (h : Unclosed start seen pending) {more : List Lexeme} (hMore : IsBalanced more) :
    Unclosed start (seen ++ more) pending := by
  cases h with
  | outer hBefore hStart hInside =>
    rw [List.append_assoc]
    exact outer hBefore hStart (hInside.append hMore)
  | inner h hInside =>
    rw [List.append_assoc]
    exact inner h (hInside.append hMore)

theorem start_add_le (h : Unclosed start seen pending) : start + 3 ≤ width seen := by
  induction h with
  | outer _ hStart _ =>
    rw [width_append, Lexeme.width_opening]
    omega
  | inner _ _ ih =>
    rw [width_append]
    omega

theorem bounds (h : Unclosed start seen pending) {first : Nat} (hFirst : first ∈ pending) :
    start + 3 ≤ first ∧ first + 3 ≤ width seen := by
  induction h with
  | outer => cases hFirst
  | inner h _ ih =>
    have hStart := h.start_add_le
    rw [width_append, Lexeme.width_opening]
    rcases List.mem_cons.mp hFirst with rfl | hOther
    · omega
    · have hBounds := ih hOther
      omega

end Unclosed

end ScriptAssist
