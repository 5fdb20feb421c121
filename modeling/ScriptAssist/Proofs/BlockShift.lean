import ScriptAssist.Proofs.InnerBlocks

/-!
# A block in a longer text

A text that is a single block keeps its blocks when other text is put before and after it. They only
move by the length of what is put before. No bracket begins in the text before and ends in the
block, and the scan is over when the closer of the block is reached, so what comes after is not
read.
-/

namespace ScriptAssist

open Lexeme (width width_append)

def Span.shift (distance : Nat) (span : Span) : Span :=
  ⟨span.start + distance, span.finish + distance⟩

namespace Scope

def shift (distance : Nat) (scope : Scope) : Scope :=
  ⟨scope.outer.shift distance, scope.inner.map (Span.shift distance)⟩

end Scope

section

variable (distance : Nat)

theorem Span.contains_shift (span : Span) (position : Int) :
    (span.shift distance).contains (distance + position) = span.contains position := by
  rw [Bool.eq_iff_iff, contains_iff, contains_iff]
  dsimp only [shift]
  omega

namespace Scope

theorem encloses_shift (scope : Scope) (position : Int) :
    (scope.shift distance).encloses (distance + position) = scope.encloses position :=
  Span.contains_shift distance scope.outer position

theorem nests_shift (scope : Scope) (position : Int) :
    (scope.shift distance).nests (distance + position) = scope.nests position := by
  rw [nests, nests, encloses_shift, shift, List.any_map]
  congr 2
  funext span
  exact Span.contains_shift distance span position

theorem insertSpan_shift (span : Span) (spans : List Span) :
    insertSpan (span.shift distance) (spans.map (Span.shift distance)) =
      (insertSpan span spans).map (Span.shift distance) := by
  induction spans with
  | nil => rfl
  | cons other rest ih =>
    have hLess : (span.shift distance).start < (other.shift distance).start ↔
        span.start < other.start := Nat.add_lt_add_iff_right
    rw [List.map_cons, insertSpan, insertSpan, ih]
    simp only [hLess]
    split <;> rfl

def shiftBracket (bracket : Bracket × Nat) : Bracket × Nat :=
  (bracket.1, bracket.2 + distance)

theorem close?_shift (start : Nat) (pending : List Nat) (inner : List Span)
    (brackets : List (Bracket × Nat)) :
    close? (start + distance) (pending.map (· + distance)) (inner.map (Span.shift distance))
        (brackets.map (shiftBracket distance)) =
      (close? start pending inner brackets).map (shift distance) := by
  induction brackets generalizing pending inner with
  | nil => rfl
  | cons bracket rest ih =>
    obtain ⟨kind, offset⟩ := bracket
    cases kind with
    | opening => exact ih (offset :: pending) inner
    | closing =>
      cases pending with
      | nil => rfl
      | cons first others =>
        have hRest := ih others (insertSpan ⟨first, offset⟩ inner)
        rw [← insertSpan_shift] at hRest
        exact hRest

theorem ofBrackets?_shift (brackets : List (Bracket × Nat)) :
    ofBrackets? (brackets.map (shiftBracket distance)) =
      (ofBrackets? brackets).map (shift distance) := by
  induction brackets with
  | nil => rfl
  | cons bracket rest ih =>
    obtain ⟨kind, offset⟩ := bracket
    cases kind with
    | opening => exact close?_shift distance offset [] [] rest
    | closing => exact ih

end Scope

theorem Lexeme.brackets_shift (offset : Nat) (lexemes : List Lexeme) :
    brackets (offset + distance) lexemes =
      (brackets offset lexemes).map (Scope.shiftBracket distance) := by
  induction lexemes generalizing offset with
  | nil => rfl
  | cons lexeme rest ih =>
    cases lexeme with
    | opening =>
      rw [brackets, brackets, List.map_cons, ← ih, Nat.add_right_comm]
      rfl
    | closing =>
      rw [brackets, brackets, List.map_cons, ← ih, Nat.add_right_comm]
      rfl
    | other c => rw [brackets, brackets, ← ih, Nat.add_right_comm]

end

theorem Lexeme.brackets_append (offset : Nat) (a b : List Lexeme) :
    brackets offset (a ++ b) = brackets offset a ++ brackets (offset + width a) b := by
  induction a generalizing offset with
  | nil => rfl
  | cons lexeme rest ih =>
    cases lexeme with
    | opening =>
      rw [List.cons_append, brackets, brackets, ih, width_opening, Nat.add_assoc]
      rfl
    | closing =>
      rw [List.cons_append, brackets, brackets, ih, width_closing, Nat.add_assoc]
      rfl
    | other c => rw [List.cons_append, brackets, brackets, ih, width_other, Nat.add_assoc]

namespace Scope

theorem close?_append {start : Nat} {pending : List Nat} {inner : List Span}
    {brackets : List (Bracket × Nat)} {scope : Scope}
    (h : close? start pending inner brackets = some scope) (more : List (Bracket × Nat)) :
    close? start pending inner (brackets ++ more) = some scope := by
  induction brackets generalizing pending inner with
  | nil => cases h
  | cons bracket rest ih =>
    obtain ⟨kind, offset⟩ := bracket
    cases kind with
    | opening => exact ih h
    | closing =>
      cases pending with
      | nil => exact h
      | cons first others => exact ih h

theorem ofBrackets?_append {brackets : List (Bracket × Nat)} {scope : Scope}
    (h : ofBrackets? brackets = some scope) (more : List (Bracket × Nat)) :
    ofBrackets? (brackets ++ more) = some scope := by
  induction brackets with
  | nil => cases h
  | cons bracket rest ih =>
    obtain ⟨kind, offset⟩ := bracket
    cases kind with
    | opening => exact close?_append h more
    | closing => exact ih h

theorem ofBrackets?_of_no_opening {before : List Lexeme} (hBefore : .opening ∉ before)
    (offset : Nat) (more : List (Bracket × Nat)) :
    ofBrackets? (Lexeme.brackets offset before ++ more) = ofBrackets? more := by
  induction before generalizing offset with
  | nil => rfl
  | cons lexeme rest ih =>
    rw [List.mem_cons, not_or] at hBefore
    cases lexeme with
    | opening => exact absurd rfl hBefore.1
    | closing | other c => exact ih hBefore.2 _

end Scope

theorem prefix_of_prefix_append {pattern front : Text} (rest : Text)
    (hLength : pattern.length ≤ front.length) (h : pattern <+: front ++ rest) :
    pattern <+: front :=
  List.prefix_of_prefix_length_le h (List.prefix_append front rest) hLength

namespace Lexed

variable {a b : Text} {la lb : List Lexeme}

/-- Two texts are cut one after the other where no bracket goes from the first into the second. -/
theorem append (ha : Lexed a la) (hb : Lexed b lb)
    (hSeam : ∀ c rest lexemes, .other c :: lexemes <:+ la →
      Lexed (c :: rest) (.other c :: lexemes) →
      ¬opener <+: c :: rest ++ b ∧ ¬closer <+: c :: rest ++ b) : Lexed (a ++ b) (la ++ lb) := by
  induction ha with
  | nil => exact hb
  | opening _ ih =>
    rw [List.append_assoc]
    exact (ih fun c rest lexemes hSuffix =>
      hSeam c rest lexemes (hSuffix.trans (List.suffix_cons _ _))).opening
  | closing _ ih =>
    rw [List.append_assoc]
    exact (ih fun c rest lexemes hSuffix =>
      hSeam c rest lexemes (hSuffix.trans (List.suffix_cons _ _))).closing
  | other hOpener hCloser h ih =>
    obtain ⟨hOpener', hCloser'⟩ := hSeam _ _ _ List.suffix_rfl (h.other hOpener hCloser)
    exact other hOpener' hCloser' (ih fun c rest lexemes hSuffix =>
      hSeam c rest lexemes (hSuffix.trans (List.suffix_cons _ _)))

theorem append_opener (ha : Lexed a la) (hb : Lexed b lb) (hStarts : opener <+: b) :
    Lexed (a ++ b) (la ++ lb) := by
  obtain ⟨more, rfl⟩ := hStarts
  refine ha.append hb ?_
  rintro c rest lexemes - h
  cases h with
  | other hOpener hCloser =>
    match rest with
    | [] => simp [opener, closer]
    | [d] =>
      refine ⟨by simp [opener], ?_⟩
      intro hPrefix
      exact hCloser (prefix_of_prefix_append _ (Nat.le_refl 2) hPrefix)
    | d :: e :: rest =>
      constructor
      · intro hPrefix
        exact hOpener (prefix_of_prefix_append _ (Nat.le_add_left 3 rest.length) hPrefix)
      · intro hPrefix
        exact hCloser (prefix_of_prefix_append _ (Nat.le_add_left 2 (rest.length + 1)) hPrefix)

theorem append_of_closing (ha : Lexed a (la ++ [.closing])) (hb : Lexed b lb) :
    Lexed (a ++ b) (la ++ [.closing] ++ lb) := by
  refine ha.append hb ?_
  rintro c rest lexemes ⟨front, hLexemes⟩ h
  have hLast : ∃ init, lexemes = init ++ [.closing] := by
    rcases List.eq_nil_or_concat lexemes with rfl | ⟨init, last, rfl⟩
    · cases (List.append_inj' hLexemes rfl).2
    · rw [List.concat_eq_append, ← List.cons_append, ← List.append_assoc] at hLexemes
      refine ⟨init, ?_⟩
      rw [List.concat_eq_append, (List.append_inj' hLexemes rfl).2]
  obtain ⟨init, rfl⟩ := hLast
  cases h with
  | other hOpener hCloser hRest =>
    have hLength : 2 ≤ rest.length := by
      rw [← hRest.flatMap_text, ← width, width_append]
      exact Nat.le_add_left 2 _
    constructor
    · intro hPrefix
      exact hOpener (prefix_of_prefix_append b (Nat.succ_le_succ hLength) hPrefix)
    · intro hPrefix
      exact hCloser (prefix_of_prefix_append b (Nat.le_succ_of_le hLength) hPrefix)

theorem opening_not_mem (ha : Lexed a la) (h : ¬opener <:+: a) : .opening ∉ la := by
  intro hMem
  obtain ⟨before, after, rfl⟩ := List.append_of_mem hMem
  apply h
  refine ⟨before.flatMap Lexeme.text, after.flatMap Lexeme.text, ?_⟩
  rw [← ha.flatMap_text]
  simp [Lexeme.text]

end Lexed

namespace Scope

theorem exists_closing_last {body : Text} {lexemes : List Lexeme} {scope : Scope}
    (hLexed : Lexed body lexemes) (hScope : find? body = some scope)
    (hEnd : scope.outer.finish + 2 = body.length) : ∃ init, lexemes = init ++ [.closing] := by
  rw [find?, hLexed.brackets_eq] at hScope
  obtain ⟨seen, after, hLexemes, -, hFinish⟩ := scanned_of_ofBrackets? List.not_mem_nil hScope
  obtain rfl : lexemes = seen ++ .closing :: after := hLexemes
  have hWidth : width (seen ++ .closing :: after) = body.length := by
    rw [width, hLexed.flatMap_text]
  rw [width_append, Lexeme.width_closing] at hWidth
  exact ⟨seen, by rw [Lexeme.eq_nil_of_width_eq_zero (by omega : width after = 0)]⟩

theorem find?_around {before body : Text} {scope : Scope} (hBefore : ¬opener <:+: before)
    (hBody : opener <+: body) (hScope : find? body = some scope)
    (hEnd : scope.outer.finish + 2 = body.length) (after : Text) :
    find? (before ++ body ++ after) = some (scope.shift before.length) := by
  obtain ⟨front, hFront⟩ := Lexed.exists_lexemes before
  obtain ⟨block, hBlock⟩ := Lexed.exists_lexemes body
  obtain ⟨rest, hRest⟩ := Lexed.exists_lexemes after
  obtain ⟨init, rfl⟩ := exists_closing_last hBlock hScope hEnd
  have hText : Lexed (before ++ (body ++ after)) (front ++ (init ++ [.closing] ++ rest)) :=
    hFront.append_opener (hBlock.append_of_closing hRest) (hBody.trans (List.prefix_append _ _))
  have hWidth : 0 + width front = 0 + before.length := by rw [width, hFront.flatMap_text]
  rw [find?, hBlock.brackets_eq] at hScope
  rw [List.append_assoc, find?, hText.brackets_eq, Lexeme.brackets_append,
    ofBrackets?_of_no_opening (hFront.opening_not_mem hBefore), hWidth, Lexeme.brackets_append]
  apply ofBrackets?_append
  rw [Lexeme.brackets_shift, ofBrackets?_shift, hScope, Option.map_some]

/-- A block keeps its blocks and the positions inside them in a longer text, up to the length of
what comes before. -/
theorem find?_of_block_in_text {before body : Text} {scope : Scope}
    (hBefore : ¬opener <:+: before) (hBody : opener <+: body) (hScope : find? body = some scope)
    (hEnd : scope.outer.finish + 2 = body.length) (after : Text) (position : Int) :
    let text := before ++ body ++ after
    let moved := scope.shift before.length
    find? text = some moved ∧
      isInsideBlock text (before.length + position) = isInsideBlock body position ∧
      moved.encloses (before.length + position) = scope.encloses position ∧
      moved.nests (before.length + position) = scope.nests position := by
  intro text moved
  have hFound : find? text = some moved := find?_around hBefore hBody hScope hEnd after
  refine ⟨hFound, ?_, encloses_shift _ scope position, nests_shift _ scope position⟩
  rw [isInsideBlock, isInsideBlock, hFound, hScope]
  exact encloses_shift _ scope position

/-- Braces on both sides of a block do not change how it is cut. -/
theorem find?_of_block_between_braces :
    let before : Text := closer ++ ['{', '{']
    let body : Text := opener ++ " " ++ opener ++ "a" ++ closer ++ " " ++ closer
    let after : Text := '}' :: opener
    find? (before ++ body ++ after) = some ⟨⟨4, 15⟩, [⟨8, 12⟩]⟩ ∧
      isInsideBlock (before ++ body ++ after) (4 + 5) = isInsideBlock body 5 := by
  intro before body after
  have hScope : find? body = some ⟨⟨0, 11⟩, [⟨4, 8⟩]⟩ := by decide
  have hBefore : ¬opener <:+: before := by decide
  have hBody : opener <+: body := by decide
  obtain ⟨hFound, hInside, -⟩ := find?_of_block_in_text hBefore hBody hScope rfl after 5
  exact ⟨hFound, hInside⟩

end Scope

end ScriptAssist
