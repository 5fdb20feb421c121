import ScriptAssist.Document.Cursor

/-!
# A block without blocks inside

Text without braces holds no brackets, so the first block of a line that has braces only around one
block is that block. The opener of such a block names no macro if a blank follows it.
-/

namespace ScriptAssist

def NoBraces (text : Text) : Prop :=
  '{' ∉ text ∧ '}' ∉ text

theorem NoBraces.tail {c : Char} {rest : Text} (h : NoBraces (c :: rest)) : NoBraces rest :=
  ⟨fun hOpen => h.1 (List.mem_cons_of_mem _ hOpen),
    fun hClose => h.2 (List.mem_cons_of_mem _ hClose)⟩

theorem NoBraces.append {left right : Text} (hLeft : NoBraces left) (hRight : NoBraces right) :
    NoBraces (left ++ right) := by
  simp only [NoBraces, List.mem_append, not_or] at hLeft hRight ⊢
  exact ⟨⟨hLeft.1, hRight.1⟩, ⟨hLeft.2, hRight.2⟩⟩

theorem noBraces_of_forall {P : Char → Prop} {text : Text} (h : ∀ c ∈ text, P c)
    (hOpen : ¬ P '{') (hClose : ¬ P '}') : NoBraces text :=
  ⟨fun hMem => hOpen (h _ hMem), fun hMem => hClose (h _ hMem)⟩

instance (text : Text) : Decidable (NoBraces text) :=
  inferInstanceAs (Decidable ('{' ∉ text ∧ '}' ∉ text))

theorem brackets_cons_of_ne {c : Char} (hOpen : c ≠ '{') (hClose : c ≠ '}') (offset : Nat)
    (rest : Text) : brackets offset (c :: rest) = brackets (offset + 1) rest := by
  rw [brackets]
  · intro _ h
    exact absurd h hOpen
  · intro _ h
    exact absurd h hClose

theorem brackets_append {text : Text} (h : NoBraces text) (offset : Nat) (rest : Text) :
    brackets offset (text ++ rest) = brackets (offset + text.length) rest := by
  induction text generalizing offset with
  | nil => rfl
  | cons c text ih =>
    have hOpen : c ≠ '{' := fun hc => h.1 (hc ▸ List.mem_cons_self)
    have hClose : c ≠ '}' := fun hc => h.2 (hc ▸ List.mem_cons_self)
    rw [List.cons_append, brackets_cons_of_ne hOpen hClose, ih h.tail, List.length_cons,
      Nat.add_assoc, Nat.add_comm 1]

theorem brackets_opener (offset : Nat) (rest : Text) :
    brackets offset (opener ++ rest) = (.opening, offset) :: brackets (offset + 3) rest := by
  rw [opener, List.cons_append, List.cons_append, List.cons_append, List.nil_append, brackets]

theorem brackets_closer (offset : Nat) (rest : Text) :
    brackets offset (closer ++ rest) = (.closing, offset) :: brackets (offset + 2) rest := by
  rw [closer, List.cons_append, List.cons_append, List.nil_append, brackets]

theorem Scope.find?_block {front inside : Text} (hFront : NoBraces front)
    (hInside : NoBraces inside) (rest : Text) :
    find? (front ++ (opener ++ (inside ++ (closer ++ rest)))) =
      some ⟨⟨front.length, front.length + 3 + inside.length⟩, []⟩ := by
  rw [find?, brackets_append hFront, brackets_opener, brackets_append hInside, brackets_closer,
    Nat.zero_add]
  rfl

namespace Text

theorem fromLast?_eq_none_iff {pattern text : Text} :
    fromLast? pattern text = none ↔ ¬pattern <:+: text := by
  induction text with
  | nil =>
    rw [fromLast?, List.infix_nil]
    cases pattern <;> simp
  | cons c rest ih =>
    rw [List.infix_cons_iff, not_or, ← ih, fromLast?]
    cases fromLast? pattern rest with
    | some found => simp
    | none =>
      dsimp only
      rw [← List.isPrefixOf_iff_prefix]
      split <;> simp_all

theorem fromLast?_append {pattern text found : Text} (h : fromLast? pattern text = some found)
    (front : Text) : fromLast? pattern (front ++ text) = some found := by
  induction front with
  | nil => exact h
  | cons c front ih => rw [List.cons_append, fromLast?, ih]

theorem not_opener_infix_of_not_mem {text : Text} (h : '{' ∉ text) : ¬opener <:+: text :=
  fun hInfix => h (hInfix.subset (by simp [opener]))

theorem fromLast?_opener {inside : Text} (h : ¬opener <:+: inside) (front : Text) :
    fromLast? opener (front ++ (opener ++ inside)) = some (opener ++ inside) := by
  apply fromLast?_append
  have hSecond : fromLast? opener ('{' :: '$' :: inside) = none := by
    rw [fromLast?_eq_none_iff, List.infix_cons_iff, List.infix_cons_iff]
    simpa [opener] using h
  change fromLast? opener ('{' :: '{' :: '$' :: inside) = _
  rw [fromLast?, hSecond]
  simp [opener, List.isPrefixOf]

end Text

namespace Cursor

theorem macroName?_eq {line front name inside : Text} {c : Char} {column : Int}
    (hBefore : Text.before line column = front ++ (opener ++ (name ++ c :: inside)))
    (hName : ∀ d ∈ name, Text.isBlank d = false ∧ d ≠ '}') (hBlank : Text.isBlank c)
    (hInside : ¬opener <:+: name ++ c :: inside) :
    macroName? line column = if name.isEmpty then none else some name := by
  have hLine : line = front ++ (opener ++ (name ++ c :: (inside ++ Text.after line column))) := by
    calc
      line = Text.before line column ++ Text.after line column := (List.take_append_drop _ _).symm
      _ = _ := by simp [hBefore]
  have hRead : nameAfterOpener (line.drop front.length) = name := by
    rw [hLine, List.drop_left, nameAfterOpener, List.drop_left, List.takeWhile_append_of_pos]
    · simp [hBlank]
    · intro d hd
      simp [hName d hd]
  have hStart : (front ++ (opener ++ (name ++ c :: inside))).length -
      (opener ++ (name ++ c :: inside)).length = front.length := by
    simp
  simp only [macroName?, hBefore, Text.fromLast?_opener hInside, Option.bind_eq_bind,
    Option.bind_some, hStart, hRead]

theorem macroName?_eq_none {line front inside : Text} {c : Char} {column : Int}
    (hBefore : Text.before line column = front ++ (opener ++ c :: inside))
    (hBlank : Text.isBlank c) (hInside : NoBraces (c :: inside)) :
    macroName? line column = none := by
  have hName : ∀ d ∈ ([] : Text), Text.isBlank d = false ∧ d ≠ '}' := by simp
  exact macroName?_eq hBefore hName hBlank (Text.not_opener_infix_of_not_mem hInside.1)

/-- A flag mark in a block that starts with a blank is one in the block exactly where something is
left before the closer: right before the closer the cursor is outside. -/
theorem isAtFlagInBlock_iff {front inside after : Text} {c : Char} (hFront : NoBraces front)
    (hInside : NoBraces (c :: inside)) (hAfter : NoBraces after) (hBlank : Text.isBlank c)
    {content : LogicalLine}
    (hText : content.text = front ++ (opener ++ ((c :: inside ++ flagMark ++ after) ++ closer)))
    (hCursor : content.cursor = (front ++ (opener ++ (c :: inside ++ flagMark))).length) :
    isAtFlagInBlock content = true ↔ after ≠ [] := by
  have hBlock : NoBraces (c :: inside ++ flagMark ++ after) :=
    (hInside.append (by decide)).append hAfter
  have hScope : Scope.find? content.text = some ⟨⟨front.length,
      front.length + 3 + (c :: inside ++ flagMark ++ after).length⟩, []⟩ := by
    rw [hText, ← List.append_nil closer]
    exact Scope.find?_block hFront hBlock []
  have hSpan : (content.text.take content.cursor.toNat).drop (front.length + opener.length) =
      c :: (inside ++ flagMark) := by
    have hSplit : content.text =
        (front ++ (opener ++ (c :: inside ++ flagMark))) ++ (after ++ closer) := by
      simp [hText]
    rw [hSplit, hCursor, Int.toNat_natCast, List.take_left, ← List.append_assoc,
      ← List.length_append, List.drop_left]
    rfl
  have hEnds : Text.endsLineWith flagMark (inside ++ flagMark) = true := by
    simp [Text.endsLineWith]
  have hOpener : opener.length = 3 := rfl
  simp only [isAtFlagInBlock, hScope, hSpan, hBlank, hEnds, Bool.and_true, Scope.encloses,
    Span.contains, Bool.and_eq_true, decide_eq_true_eq]
  rw [hCursor, ← List.length_pos_iff]
  simp only [List.length_append, List.length_cons, hOpener]
  omega

end Cursor

end ScriptAssist
