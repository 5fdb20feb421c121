import Mathlib.Order.Bounds.Defs
import ScriptAssist.Proofs.FlagPlace

/-!
# The text and the cursor of a logical line

A logical line begins with the first of the lines that go on into the line of the cursor. Its text
falls apart into these lines again, and the text before the cursor is what stands before it in the
document, from that first line on.
-/

namespace ScriptAssist.LogicalLine

variable {marker : Text} {lines : List Text}

theorem IsBlock.isLeast {first last : Nat} (h : IsBlock marker lines first last)
    (hLast : last < lines.length) :
    IsLeast {i | ∀ j line, i ≤ j → j < last → lines[j]? = some line → EndsWithMark marker line}
      first := by
  refine ⟨h.goes_on, ?_⟩
  intro i hi
  by_contra hBefore
  obtain ⟨j, rfl⟩ : ∃ j, first = j + 1 := ⟨first - 1, by omega⟩
  have hFirst := h.first_le
  have hAbove : lines[j]? = some lines[j] := List.getElem?_eq_getElem (by omega)
  exact h.begins j _ rfl hAbove (hi j _ (by omega) (by omega) hAbove)

namespace Block

variable (block : Block marker)

theorem drop_first_take_succ :
    (block.lines.take (block.last + 1)).drop block.first = block.own := by
  rw [take_lines_succ, first, List.drop_left]

theorem drop_first_take : (block.lines.take block.last).drop block.first = block.before := by
  rw [take_lines, first, List.drop_left]

theorem splitOn_own (hNewline : ∀ line ∈ block.lines, '\n' ∉ line) :
    Text.splitOn '\n' (['\n'].intercalate block.own) = block.own := by
  rw [Text.splitOn_eq_list]
  apply List.splitOn_intercalate
  · intro line hLine
    exact hNewline line (block.mem_lines_of_mem_own hLine)
  · simp [own]

theorem cursorIn_bounds {column : Int} (h : 0 ≤ column) :
    block.front.length ≤ cursorIn (['\n'].intercalate block.own) block.current column ∧
      cursorIn (['\n'].intercalate block.own) block.current column ≤
        block.front.length + block.current.length := by
  rw [cursorIn_eq]
  omega

end Block

/-- The logical line of a place in a document: it begins with the first line from which on all lines
above go on, its text is made of the lines from there, and before its cursor are the lines above and
then the line of the cursor up to the column. -/
theorem at?_joins_lines (hNewline : ∀ line ∈ lines, '\n' ∉ line) {line : Nat}
    (hLine : line < lines.length) (marker : Text) {column : Int} (hColumn : 0 ≤ column) :
    ∃ (content : LogicalLine) (first : Nat),
      at? lines marker line column = some content ∧ content.firstLine = first ∧
      IsLeast {i | ∀ j text, i ≤ j → j < line → lines[j]? = some text → EndsWithMark marker text}
        first ∧
      Text.splitOn '\n' content.text = (lines.take (line + 1)).drop first ∧
      content.text.take content.cursor.toNat =
        ((lines.take line).drop first).flatMap (· ++ ['\n']) ++ lines[line].take column.toNat ∧
      0 ≤ content.cursor ∧ content.cursor ≤ content.text.length ∧
      (((lines.take line).drop first).flatMap (· ++ ['\n'])).length ≤ content.cursor ∧
      content.cursor ≤
        (((lines.take line).drop first).flatMap (· ++ ['\n'])).length + lines[line].length := by
  obtain ⟨block, rfl, rfl⟩ := Block.exists_of_lt_length marker hLine
  have hCurrent : block.lines[block.last] = block.current := by
    rw [← Option.some_inj, ← List.getElem?_eq_getElem, block.getElem?_last]
  obtain ⟨hStart, hEnd⟩ := block.cursorIn_bounds hColumn
  have hLength : (['\n'].intercalate block.own).length =
      block.front.length + block.current.length := by
    rw [block.text_eq, List.length_append]
  refine ⟨_, block.first, block.at?_lines column, rfl, (block.isBlock hNewline).isLeast hLine, ?_⟩
  rw [block.drop_first_take, block.drop_first_take_succ, hCurrent]
  refine ⟨block.splitOn_own hNewline, block.take_cursor hColumn, ?_, ?_, hStart, hEnd⟩
  · dsimp only
    omega
  · dsimp only
    omega

theorem at?_joins_lines_of_click :
    let lines : List Text := ["x `", "a`", "1. click `", " b\t`", "cd", "e"]
    (∀ line ∈ lines, '\n' ∉ line) ∧ 4 < lines.length ∧
      at? lines "`" 4 9 = some ⟨"1. click `\n b\t`\ncd", 18, 2⟩ ∧
      IsLeast {i | ∀ j text, i ≤ j → j < 4 → lines[j]? = some text → EndsWithMark "`" text} 2 ∧
      Text.splitOn '\n' "1. click `\n b\t`\ncd" = (lines.take 5).drop 2 ∧
      ("1. click `\n b\t`\ncd" : Text).take 18 =
        ((lines.take 4).drop 2).flatMap (· ++ ['\n']) ++ ("cd" : Text).take 9 := by
  intro lines
  have hNewline : ∀ line ∈ lines, '\n' ∉ line := by decide
  have hAt : at? lines "`" 4 9 = some ⟨"1. click `\n b\t`\ncd", 18, 2⟩ := by decide
  obtain ⟨content, first, hContent, hFirst, hLeast, hSplit, hTake, -⟩ :=
    at?_joins_lines hNewline (show 4 < lines.length by decide) "`" (show (0 : Int) ≤ 9 by decide)
  obtain rfl := Option.some_inj.mp (hContent.symm.trans hAt)
  obtain rfl : first = 2 := Int.ofNat_inj.mp hFirst.symm
  exact ⟨hNewline, by decide, hAt, hLeast, hSplit, hTake⟩

end ScriptAssist.LogicalLine
