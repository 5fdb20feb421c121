import ScriptAssist.Document.Cursor
import ScriptAssist.Text.Basic

/-!
# The line of the cursor

No line of a document holds a line break, so a line goes on exactly where it ends with a blank and
the marker. Where the line above does not go on, the logical line is the line itself.
-/

namespace ScriptAssist

namespace Text

theorem splitOn_ne_nil (separator : Char) (text : Text) : splitOn separator text ≠ [] := by
  cases text with
  | nil => simp [splitOn]
  | cons c rest =>
    rw [splitOn]
    split
    · simp
    · split <;> simp

theorem not_mem_of_mem_splitOn {separator : Char} {text part : Text}
    (h : part ∈ splitOn separator text) : separator ∉ part := by
  induction text generalizing part with
  | nil =>
    rw [splitOn, List.mem_singleton] at h
    simp [h]
  | cons c rest ih =>
    rw [splitOn] at h
    split at h
    · rcases List.mem_cons.mp h with rfl | h
      · simp
      · exact ih h
    · rename_i hc
      split at h
      · rename_i hNil
        exact absurd hNil (splitOn_ne_nil separator rest)
      · rename_i first others hRest
        rcases List.mem_cons.mp h with rfl | h
        · intro hMem
          rcases List.mem_cons.mp hMem with hEq | hMem
          · exact hc hEq.symm
          · exact ih (hRest ▸ List.mem_cons_self) hMem
        · exact ih (hRest ▸ List.mem_cons_of_mem _ h)

theorem mem_of_mem_dropEndWhile {p : Char → Bool} {text : Text} {c : Char}
    (h : c ∈ dropEndWhile p text) : c ∈ text := by
  rw [dropEndWhile, List.mem_reverse] at h
  exact List.mem_reverse.mp ((List.dropWhile_sublist p).subset h)

theorem newline_not_mem_of_mem_lines {text line : Text} (h : line ∈ lines text) :
    '\n' ∉ line := by
  obtain ⟨part, hPart, rfl⟩ := List.mem_map.mp h
  intro hMem
  exact not_mem_of_mem_splitOn hPart (mem_of_mem_dropEndWhile hMem)

end Text

def EndsWithMark (marker line : Text) : Prop :=
  ∃ front c, Text.isBlank c ∧ line = front ++ c :: marker

theorem continues_iff (marker line : Text) :
    continues marker line = true ↔
      EndsWithMark marker line ∨ EndsWithMark (marker ++ ['\n']) line := by
  induction line with
  | nil => simp [continues, EndsWithMark]
  | cons c rest ih =>
    simp only [continues, Bool.or_eq_true, Bool.and_eq_true, beq_iff_eq, ih]
    constructor
    · rintro (⟨hc, rfl | rfl⟩ | ⟨front, d, hd, rfl⟩ | ⟨front, d, hd, rfl⟩)
      · exact .inl ⟨[], c, hc, rfl⟩
      · exact .inr ⟨[], c, hc, rfl⟩
      · exact .inl ⟨c :: front, d, hd, rfl⟩
      · exact .inr ⟨c :: front, d, hd, rfl⟩
    · rintro (⟨front, d, hd, hLine⟩ | ⟨front, d, hd, hLine⟩)
      · rcases List.cons_eq_append_iff.mp hLine with ⟨rfl, hCons⟩ | ⟨more, rfl, rfl⟩
        · cases hCons
          exact .inl ⟨hd, .inl rfl⟩
        · exact .inr (.inl ⟨more, d, hd, rfl⟩)
      · rcases List.cons_eq_append_iff.mp hLine with ⟨rfl, hCons⟩ | ⟨more, rfl, rfl⟩
        · cases hCons
          exact .inl ⟨hd, .inr rfl⟩
        · exact .inr (.inr ⟨more, d, hd, rfl⟩)

theorem continues_iff_of_newline_not_mem {marker line : Text} (h : '\n' ∉ line) :
    continues marker line = true ↔ EndsWithMark marker line := by
  rw [continues_iff]
  constructor
  · rintro (hEnds | ⟨front, c, _, rfl⟩)
    · exact hEnds
    · exact absurd (by simp) h
  · exact .inl

namespace LogicalLine

theorem continuedBefore_append_eq_zero {marker : Text} {above : List Text}
    (h : ∀ line, above.getLast? = some line → continues marker line = false) (rest : List Text) :
    continuedBefore marker (above ++ rest) above.length = 0 := by
  rw [continuedBefore, List.take_left]
  rcases List.eq_nil_or_concat above with rfl | ⟨front, last, rfl⟩
  · rfl
  · simp [h last (by simp)]

/-- Where the line above does not go on, the logical line is the line of the cursor. -/
theorem at?_of_not_continued {marker : Text} {above : List Text} (current : Text)
    (below : List Text) (column : Int)
    (h : ∀ line, above.getLast? = some line → continues marker line = false) :
    at? (above ++ current :: below) marker above.length column =
      some ⟨current, min column current.length, above.length⟩ := by
  have hZero := continuedBefore_append_eq_zero h (current :: below)
  have hTake : (above ++ current :: below).take (above.length + 1) = above ++ [current] := by
    rw [List.take_length_add_append]
    rfl
  have hCursor : cursorIn current current column = min column current.length := by
    simp [cursorIn]
  simp [at?, hZero, hTake, hCursor, List.intercalate]

end LogicalLine

namespace Cursor

theorem followsFlagMark_iff {line front : Text} {column : Int}
    (hBefore : Text.before line column = front ++ flagMark) (hFront : front ≠ [])
    (hNewline : '\n' ∉ front) :
    followsFlagMark line column = true ↔ ∃ c, front.getLast? = some c ∧ Text.isBlank c := by
  have hLine : '\n' ∉ front ++ flagMark := by simp [flagMark, hNewline]
  have hAlone : front ++ flagMark ≠ flagMark := by
    intro h
    exact hFront (List.append_left_eq_self.mp h)
  have hBreak : front ++ flagMark ≠ flagMark ++ ['\n'] := by
    intro h
    exact hLine (h ▸ by simp)
  simp only [followsFlagMark, hBefore, Bool.or_eq_true, beq_iff_eq, hAlone, hBreak, false_or,
    continues_iff_of_newline_not_mem hLine]
  constructor
  · rintro ⟨rest, c, hc, hEnd⟩
    rw [List.append_cons] at hEnd
    rw [List.append_cancel_right hEnd]
    exact ⟨c, by simp, hc⟩
  · rintro ⟨c, hLast, hc⟩
    obtain ⟨rest, rfl⟩ := List.getLast?_eq_some_iff.mp hLast
    exact ⟨rest, c, hc, by simp⟩

end Cursor

end ScriptAssist
