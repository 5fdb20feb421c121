import Mathlib.Combinatorics.Enumerative.DyckWord
import ScriptAssist.Document.Scope

/-!
# The first block of a text

A text is cut into openers, closers and single characters from left to right. The block that is
found goes from the first opener to the closer that matches it: the brackets between the two are a
balanced word. Where the first opener has no such closer there is no block, and no position is
inside.
-/

namespace ScriptAssist

inductive Lexeme
  | opening
  | closing
  | other (c : Char)
  deriving DecidableEq, Repr

namespace Lexeme

def text : Lexeme → Text
  | opening => opener
  | closing => closer
  | other c => [c]

def step? : Lexeme → Option DyckStep
  | opening => some .U
  | closing => some .D
  | other _ => none

def word (lexemes : List Lexeme) : List DyckStep :=
  lexemes.filterMap step?

def width (lexemes : List Lexeme) : Nat :=
  (lexemes.flatMap text).length

def brackets (offset : Nat) : List Lexeme → List (Bracket × Nat)
  | [] => []
  | opening :: rest => (.opening, offset) :: brackets (offset + 3) rest
  | closing :: rest => (.closing, offset) :: brackets (offset + 2) rest
  | other _ :: rest => brackets (offset + 1) rest

section

variable (rest : List Lexeme) (c : Char)

@[simp] theorem word_nil : word [] = [] := rfl
@[simp] theorem word_opening : word (opening :: rest) = .U :: word rest := rfl
@[simp] theorem word_closing : word (closing :: rest) = .D :: word rest := rfl
@[simp] theorem word_other : word (other c :: rest) = word rest := rfl

theorem width_cons (lexeme : Lexeme) :
    width (lexeme :: rest) = lexeme.text.length + width rest := by
  simp [width]

@[simp] theorem width_nil : width [] = 0 := rfl
@[simp] theorem width_opening : width (opening :: rest) = 3 + width rest := width_cons rest _
@[simp] theorem width_closing : width (closing :: rest) = 2 + width rest := width_cons rest _
@[simp] theorem width_other : width (other c :: rest) = 1 + width rest := width_cons rest _

end

end Lexeme

/-- A text is cut into lexemes: wherever a bracket starts it is taken, else one character. -/
inductive Lexed : Text → List Lexeme → Prop
  | nil : Lexed [] []
  | opening {rest : Text} {lexemes : List Lexeme} (h : Lexed rest lexemes) :
    Lexed (opener ++ rest) (.opening :: lexemes)
  | closing {rest : Text} {lexemes : List Lexeme} (h : Lexed rest lexemes) :
    Lexed (closer ++ rest) (.closing :: lexemes)
  | other {c : Char} {rest : Text} {lexemes : List Lexeme} (hOpener : ¬opener <+: c :: rest)
    (hCloser : ¬closer <+: c :: rest) (h : Lexed rest lexemes) :
    Lexed (c :: rest) (.other c :: lexemes)

structure IsFirstOpener (text : Text) (start : Nat) : Prop where
  stands : opener <+: text.drop start
  first : ∀ i < start, ¬opener <+: text.drop i

theorem IsFirstOpener.append {rest : Text} {start : Nat} (h : IsFirstOpener rest start)
    (front : Text) (hFront : ∀ i < front.length, ¬opener <+: (front ++ rest).drop i) :
    IsFirstOpener (front ++ rest) (front.length + start) where
  stands := by
    rw [List.drop_length_add_append]
    exact h.stands
  first i hi := by
    by_cases hInFront : i < front.length
    · exact hFront i hInFront
    · have hRest := h.first (i - front.length) (by omega)
      rwa [List.drop_append, List.drop_eq_nil_of_le (by omega), List.nil_append]

namespace Lexed

theorem exists_lexemes (text : Text) : ∃ lexemes, Lexed text lexemes := by
  induction hLength : text.length using Nat.strong_induction_on generalizing text with
  | h n ih =>
    by_cases hOpener : opener <+: text
    · obtain ⟨rest, rfl⟩ := hOpener
      rw [List.length_append] at hLength
      obtain ⟨lexemes, h⟩ := ih rest.length (hLength ▸ Nat.lt_add_of_pos_left (by decide)) rest rfl
      exact ⟨_, h.opening⟩
    by_cases hCloser : closer <+: text
    · obtain ⟨rest, rfl⟩ := hCloser
      rw [List.length_append] at hLength
      obtain ⟨lexemes, h⟩ := ih rest.length (hLength ▸ Nat.lt_add_of_pos_left (by decide)) rest rfl
      exact ⟨_, h.closing⟩
    cases text with
    | nil => exact ⟨[], nil⟩
    | cons c rest =>
      obtain ⟨lexemes, h⟩ := ih rest.length (hLength ▸ Nat.lt_succ_self _) rest rfl
      exact ⟨_, other hOpener hCloser h⟩

theorem unique {text : Text} {a b : List Lexeme} (ha : Lexed text a) (hb : Lexed text b) :
    a = b := by
  induction ha generalizing b with
  | nil => cases hb; rfl
  | opening _ ih =>
    generalize hText : opener ++ _ = text at hb
    cases hb with
    | nil => simp [opener] at hText
    | opening hb => rw [ih (List.append_cancel_left hText ▸ hb)]
    | closing hb => simp [opener, closer] at hText
    | other hOpener => exact absurd ⟨_, hText⟩ hOpener
  | closing _ ih =>
    generalize hText : closer ++ _ = text at hb
    cases hb with
    | nil => simp [closer] at hText
    | opening hb => simp [opener, closer] at hText
    | closing hb => rw [ih (List.append_cancel_left hText ▸ hb)]
    | other _ hCloser => exact absurd ⟨_, hText⟩ hCloser
  | other hOpener hCloser _ ih =>
    generalize hText : _ :: _ = text at hb
    cases hb with
    | nil => cases hText
    | opening hb => exact absurd ⟨_, hText.symm⟩ hOpener
    | closing hb => exact absurd ⟨_, hText.symm⟩ hCloser
    | other _ _ hb =>
      obtain ⟨rfl, rfl⟩ := List.cons.inj hText
      rw [ih hb]

variable {text : Text} {lexemes : List Lexeme}

theorem flatMap_text (h : Lexed text lexemes) : lexemes.flatMap Lexeme.text = text := by
  induction h with
  | nil => rfl
  | opening _ ih | closing _ ih | other _ _ _ ih => simp [Lexeme.text, ih]

theorem brackets_eq (h : Lexed text lexemes) (offset : Nat) :
    brackets offset text = Lexeme.brackets offset lexemes := by
  induction h generalizing offset with
  | nil => rfl
  | opening _ ih => simp [opener, brackets, Lexeme.brackets, ih]
  | closing _ ih => simp [closer, brackets, Lexeme.brackets, ih]
  | other hOpener hCloser _ ih =>
    rw [brackets, Lexeme.brackets, ih]
    · rintro rest rfl rfl
      exact hOpener ⟨rest, rfl⟩
    · rintro rest rfl rfl
      exact hCloser ⟨rest, rfl⟩

theorem isFirstOpener (h : Lexed text lexemes) {before after : List Lexeme}
    (hLexemes : lexemes = before ++ .opening :: after) (hBefore : .opening ∉ before) :
    IsFirstOpener text (Lexeme.width before) := by
  induction h generalizing before with
  | nil => simp at hLexemes
  | opening =>
    cases before with
    | nil => exact ⟨List.prefix_append _ _, by simp⟩
    | cons first before =>
      exact absurd ((List.cons.inj hLexemes).1 ▸ List.mem_cons_self) hBefore
  | closing _ ih =>
    cases before with
    | nil => cases hLexemes
    | cons first before =>
      obtain ⟨rfl, hRest⟩ := List.cons.inj hLexemes
      rw [Lexeme.width_closing]
      apply (ih hRest fun hMem => hBefore (List.mem_cons_of_mem _ hMem)).append closer
      intro i hi
      have hBrace : i = 0 ∨ i = 1 := by
        change i < 2 at hi
        omega
      rcases hBrace with rfl | rfl <;> simp [opener, closer]
  | other hOpener _ _ ih =>
    cases before with
    | nil => cases hLexemes
    | cons first before =>
      obtain ⟨rfl, hRest⟩ := List.cons.inj hLexemes
      rw [Lexeme.width_other]
      apply (ih hRest fun hMem => hBefore (List.mem_cons_of_mem _ hMem)).append [_]
      intro i hi
      obtain rfl : i = 0 := Nat.lt_one_iff.mp hi
      exact hOpener

end Lexed

/-- A word of brackets leads from a depth to zero and never goes below it. -/
def Returns : Nat → List DyckStep → Prop
  | depth, [] => depth = 0
  | depth, .U :: rest => Returns (depth + 1) rest
  | 0, .D :: _ => False
  | depth + 1, .D :: rest => Returns depth rest

theorem returns_iff (depth : Nat) (word : List DyckStep) :
    Returns depth word ↔ depth + word.count .U = word.count .D ∧
      ∀ i, (word.take i).count .D ≤ depth + (word.take i).count .U := by
  induction word generalizing depth with
  | nil => simp [Returns]
  | cons step rest ih =>
    have hPrefix : (∀ i, ((step :: rest).take i).count .D ≤
        depth + ((step :: rest).take i).count .U) ↔
        ∀ i, (step :: rest.take i).count .D ≤ depth + (step :: rest.take i).count .U := by
      rw [← Nat.and_forall_add_one]
      simp
    rw [hPrefix]
    cases step with
    | U =>
      have hDown (w : List DyckStep) : (DyckStep.U :: w).count .D = w.count .D := by simp
      simp only [Returns, ih, hDown, List.count_cons_self]
      grind
    | D =>
      have hUp (w : List DyckStep) : (DyckStep.D :: w).count .U = w.count .U := by simp
      cases depth with
      | zero =>
        simp only [Returns, false_iff, not_and]
        intro _ h
        simpa using h 0
      | succ depth =>
        simp only [Returns, ih, hUp, List.count_cons_self]
        grind

def IsBalanced (lexemes : List Lexeme) : Prop :=
  ∃ word : DyckWord, word.toList = Lexeme.word lexemes

theorem isBalanced_iff (lexemes : List Lexeme) :
    IsBalanced lexemes ↔ Returns 0 (Lexeme.word lexemes) := by
  rw [returns_iff]
  constructor
  · rintro ⟨word, hWord⟩
    rw [← hWord]
    exact ⟨by simpa using word.count_U_eq_count_D,
      fun i => by simpa using word.count_D_le_count_U i⟩
  · rintro ⟨hTotal, hPrefix⟩
    exact ⟨⟨Lexeme.word lexemes, by simpa using hTotal, fun i => by simpa using hPrefix i⟩, rfl⟩

/-- A block goes from the first opener to the closer that matches it. -/
def IsFirstBlock (lexemes : List Lexeme) (span : Span) : Prop :=
  ∃ before rest, lexemes = before ++ .opening :: rest ∧ .opening ∉ before ∧
    ∃ inside after, rest = inside ++ .closing :: after ∧ IsBalanced inside ∧
      span = ⟨Lexeme.width before, Lexeme.width (before ++ .opening :: inside)⟩

section

variable {lexeme : Lexeme} {rest : List Lexeme}

theorem exists_inside_cons_iff {P : List Lexeme → Prop} :
    (∃ inside after, lexeme :: rest = inside ++ .closing :: after ∧ P inside) ↔
      (lexeme = .closing ∧ P []) ∨
        ∃ inside after, rest = inside ++ .closing :: after ∧ P (lexeme :: inside) := by
  constructor
  · rintro ⟨_ | ⟨first, inside⟩, after, hLexemes, hInside⟩
    · exact .inl ⟨(List.cons.inj hLexemes).1, hInside⟩
    · obtain ⟨rfl, hRest⟩ := List.cons.inj hLexemes
      exact .inr ⟨inside, after, hRest, hInside⟩
  · rintro (⟨rfl, hInside⟩ | ⟨inside, after, rfl, hInside⟩)
    · exact ⟨[], rest, rfl, hInside⟩
    · exact ⟨lexeme :: inside, after, rfl, hInside⟩

theorem exists_before_cons_iff {P : List Lexeme → List Lexeme → Prop} :
    (∃ before after, lexeme :: rest = before ++ .opening :: after ∧ .opening ∉ before ∧
        P before after) ↔
      (lexeme = .opening ∧ P [] rest) ∨ (lexeme ≠ .opening ∧
        ∃ before after, rest = before ++ .opening :: after ∧ .opening ∉ before ∧
          P (lexeme :: before) after) := by
  constructor
  · rintro ⟨_ | ⟨first, before⟩, after, hLexemes, hBefore, hP⟩
    · obtain ⟨rfl, rfl⟩ := List.cons.inj hLexemes
      exact .inl ⟨rfl, hP⟩
    · obtain ⟨rfl, hRest⟩ := List.cons.inj hLexemes
      rw [List.mem_cons, not_or] at hBefore
      exact .inr ⟨Ne.symm hBefore.1, before, after, hRest, hBefore.2, hP⟩
  · rintro (⟨rfl, hP⟩ | ⟨hFirst, before, after, rfl, hBefore, hP⟩)
    · exact ⟨[], rest, rfl, List.not_mem_nil, hP⟩
    · exact ⟨lexeme :: before, after, rfl, by simp [Ne.symm hFirst, hBefore], hP⟩

end

namespace Scope

theorem close?_eq_some_iff (start : Nat) (pending : List Nat) (inner : List Span) (offset : Nat)
    (lexemes : List Lexeme) (span : Span) :
    (close? start pending inner (Lexeme.brackets offset lexemes)).map outer = some span ↔
      ∃ inside after, lexemes = inside ++ .closing :: after ∧
        Returns pending.length (Lexeme.word inside) ∧
        span = ⟨start, offset + Lexeme.width inside⟩ := by
  induction lexemes generalizing pending inner offset with
  | nil => simp [Lexeme.brackets, close?]
  | cons lexeme rest ih =>
    rw [exists_inside_cons_iff]
    cases lexeme with
    | opening =>
      rw [Lexeme.brackets, close?, ih]
      simp [Returns, Nat.add_assoc]
    | closing =>
      cases pending with
      | nil => simp [Lexeme.brackets, close?, Returns, eq_comm]
      | cons first others =>
        rw [Lexeme.brackets, close?, ih]
        simp [Returns, Nat.add_assoc]
    | other c =>
      rw [Lexeme.brackets, ih]
      simp [Nat.add_assoc]

theorem ofBrackets?_eq_some_iff (offset : Nat) (lexemes : List Lexeme) (span : Span) :
    (ofBrackets? (Lexeme.brackets offset lexemes)).map outer = some span ↔
      ∃ before rest, lexemes = before ++ .opening :: rest ∧ .opening ∉ before ∧
        ∃ inside after, rest = inside ++ .closing :: after ∧ Returns 0 (Lexeme.word inside) ∧
          span = ⟨offset + Lexeme.width before,
            offset + Lexeme.width (before ++ .opening :: inside)⟩ := by
  induction lexemes generalizing offset with
  | nil => simp [Lexeme.brackets, ofBrackets?]
  | cons lexeme rest ih =>
    rw [exists_before_cons_iff]
    cases lexeme with
    | opening =>
      rw [Lexeme.brackets, ofBrackets?, close?_eq_some_iff]
      simp [Nat.add_assoc]
    | closing =>
      rw [Lexeme.brackets, ofBrackets?, ih]
      simp [Nat.add_assoc]
    | other c =>
      rw [Lexeme.brackets, ih]
      simp [Nat.add_assoc]

variable {text : Text} {lexemes : List Lexeme} {span : Span}

theorem find?_eq_some_iff (h : Lexed text lexemes) :
    (find? text).map outer = some span ↔ IsFirstBlock lexemes span := by
  rw [find?, h.brackets_eq, ofBrackets?_eq_some_iff]
  simp only [IsFirstBlock, isBalanced_iff, Nat.zero_add]

theorem isInsideBlock_of_find? (h : (find? text).map outer = some span) (position : Int) :
    isInsideBlock text position = true ↔
      (span.start : Int) + 3 ≤ position ∧ position < span.finish := by
  obtain ⟨scope, hScope, rfl⟩ := Option.map_eq_some_iff.mp h
  simp [isInsideBlock, hScope, encloses, Span.contains, opener]

theorem closer_of_isFirstBlock (h : Lexed text lexemes) (hBlock : IsFirstBlock lexemes span) :
    closer <+: text.drop span.finish := by
  obtain ⟨before, _, rfl, _, inside, after, rfl, _, rfl⟩ := hBlock
  have hText : text = (before ++ .opening :: inside).flatMap Lexeme.text ++
      (closer ++ after.flatMap Lexeme.text) := by
    simp [← h.flatMap_text, Lexeme.text]
  have hDrop : text.drop (Lexeme.width (before ++ .opening :: inside)) =
      closer ++ after.flatMap Lexeme.text := by
    rw [hText, Lexeme.width, List.drop_left]
  exact ⟨_, hDrop.symm⟩

/-- The block that is found goes from the first opener to its matching closer, and a position is
inside where it is after the opener and before that closer. Without a matching closer there is no
block. -/
theorem find?_matches_first_opener (text : Text) (position : Int) :
    ∃ lexemes, (∀ other, Lexed text other ↔ other = lexemes) ∧
      (∀ span, (find? text).map outer = some span ↔ IsFirstBlock lexemes span) ∧
      (∀ span, IsFirstBlock lexemes span →
        IsFirstOpener text span.start ∧ closer <+: text.drop span.finish ∧
        (isInsideBlock text position = true ↔
          (span.start : Int) + 3 ≤ position ∧ position < span.finish)) ∧
      ((∀ span, ¬IsFirstBlock lexemes span) →
        find? text = none ∧ isInsideBlock text position = false) := by
  obtain ⟨lexemes, h⟩ := Lexed.exists_lexemes text
  refine ⟨lexemes, fun other => ⟨fun hOther => hOther.unique h, fun hOther => hOther ▸ h⟩,
    fun span => find?_eq_some_iff h, fun span hBlock => ?_, fun hNone => ?_⟩
  · refine ⟨?_, closer_of_isFirstBlock h hBlock,
      isInsideBlock_of_find? ((find?_eq_some_iff h).mpr hBlock) position⟩
    obtain ⟨before, rest, hLexemes, hBefore, _, _, _, _, rfl⟩ := hBlock
    exact h.isFirstOpener hLexemes hBefore
  · have hFound : find? text = none := by
      cases hScope : find? text with
      | none => rfl
      | some scope =>
        exact absurd ((find?_eq_some_iff h).mp (by rw [hScope]; rfl)) (hNone scope.outer)
    exact ⟨hFound, by rw [isInsideBlock, hFound]; rfl⟩

example :
    let text : Text := closer ++ " " ++ '{' :: opener ++ " a " ++ opener ++ "b" ++ closer ++ " c" ++
      closer ++ ['}']
    (find? text).map outer = some ⟨4, 18⟩ := by
  decide

end Scope

end ScriptAssist
