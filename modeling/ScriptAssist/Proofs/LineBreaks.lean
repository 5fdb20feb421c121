import Mathlib.Data.List.DropRight
import ScriptAssist.Proofs.CursorLine

/-!
# Lines and line breaks

The lines of a document can be put together again, and how they end does not matter as long as every
carriage return stands right before a line feed.
-/

namespace ScriptAssist.Text

theorem dropEndWhile_eq_rdropWhile (p : Char → Bool) (text : Text) :
    dropEndWhile p text = text.rdropWhile p :=
  rfl

theorem dropEndWhile_cons (p : Char → Bool) {c : Char} (h : p c = false) (rest : Text) :
    dropEndWhile p (c :: rest) = c :: dropEndWhile p rest := by
  rw [dropEndWhile, List.reverse_cons, List.dropWhile_append, dropEndWhile]
  split
  · rename_i hEmpty
    simp [List.isEmpty_iff.mp hEmpty, h]
  · simp

theorem splitOn_cons (separator c : Char) (rest : Text) :
    splitOn separator (c :: rest) =
      if c = separator then [] :: splitOn separator rest
      else (splitOn separator rest).modifyHead (c :: ·) := by
  rw [splitOn]
  cases hParts : splitOn separator rest with
  | nil => exact absurd hParts (splitOn_ne_nil separator rest)
  | cons part parts => rfl

theorem splitOn_eq_list (separator : Char) (text : Text) :
    splitOn separator text = List.splitOn separator text := by
  rw [List.splitOn_eq_splitOnP]
  induction text with
  | nil => rfl
  | cons c rest ih => simp only [splitOn_cons, List.splitOnP_cons_eq_if_modifyHead, beq_iff_eq, ih]

theorem before_dropEndWhile {p : Char → Bool} {text : Text} {column : Int}
    (h : column ≤ (dropEndWhile p text).length) :
    before (dropEndWhile p text) column = before text column := by
  obtain ⟨rest, hText⟩ := List.rdropWhile_prefix p (l := text)
  rw [← dropEndWhile_eq_rdropWhile] at hText
  have hLength : column.toNat ≤ (dropEndWhile p text).length := by omega
  calc before (dropEndWhile p text) column
      = (dropEndWhile p text ++ rest).take column.toNat :=
        (List.take_append_of_le_length hLength).symm
    _ = before text column := by rw [hText, before]

theorem dropEndWhile_of_mem_lines {text line : Text} (h : line ∈ lines text) :
    dropEndWhile (· == '\r') line = line := by
  obtain ⟨part, -, rfl⟩ := List.mem_map.mp h
  simp only [dropEndWhile_eq_rdropWhile, List.rdropWhile_idempotent]

/-- Lines are those of the document that they make up, if none holds a line feed or ends with a
carriage return. -/
theorem lines_intercalate {block : List Text} (hFeed : ∀ line ∈ block, '\n' ∉ line)
    (hReturn : ∀ line ∈ block, dropEndWhile (· == '\r') line = line) (hNe : block ≠ []) :
    lines (['\n'].intercalate block) = block := by
  rw [lines, splitOn_eq_list, List.splitOn_intercalate '\n' hFeed hNe]
  calc block.map (dropEndWhile (· == '\r'))
      = block.map id := List.map_congr_left hReturn
    _ = block := List.map_id block

theorem lines_intercalate_of_mem_lines {text : Text} {block : List Text}
    (hLines : ∀ line ∈ block, line ∈ lines text) (hNe : block ≠ []) :
    lines (['\n'].intercalate block) = block :=
  lines_intercalate (fun line hLine => newline_not_mem_of_mem_lines (hLines line hLine))
    (fun line hLine => dropEndWhile_of_mem_lines (hLines line hLine)) hNe

/-- Every carriage return stands right before a line feed. -/
def ReturnsBeforeFeeds (text : Text) : Prop :=
  ∀ i : Nat, text[i]? = some '\r' → text[i + 1]? = some '\n'

instance (text : Text) : Decidable text.ReturnsBeforeFeeds :=
  decidable_of_iff (∀ i < text.length, text[i]? = some '\r' → text[i + 1]? = some '\n')
    ⟨fun h i hi => h i (List.getElem?_eq_some_iff.mp hi).1 hi, fun h i _ => h i⟩

theorem ReturnsBeforeFeeds.tail {c : Char} {rest : Text} (h : ReturnsBeforeFeeds (c :: rest)) :
    ReturnsBeforeFeeds rest :=
  fun i hi => h (i + 1) hi

theorem ReturnsBeforeFeeds.exists_feed {rest : Text} (h : ReturnsBeforeFeeds ('\r' :: rest)) :
    ∃ more, rest = '\n' :: more := by
  have hNext := h 0 rfl
  cases rest with
  | nil => cases hNext
  | cons c more =>
    cases hNext
    exact ⟨more, rfl⟩

theorem lines_feed (rest : Text) : lines ('\n' :: rest) = [] :: lines rest := by
  rw [lines, splitOn_cons, if_pos rfl]
  rfl

theorem lines_return_feed (rest : Text) : lines ('\r' :: '\n' :: rest) = [] :: lines rest := by
  rw [lines, splitOn_cons, if_neg (by decide), splitOn_cons, if_pos rfl]
  rfl

theorem lines_cons {c : Char} (hFeed : c ≠ '\n') (hReturn : c ≠ '\r') (rest : Text) :
    lines (c :: rest) = (lines rest).modifyHead (c :: ·) := by
  have hKept : (c == '\r') = false := beq_eq_false_iff_ne.mpr hReturn
  rw [lines, splitOn_cons, if_neg hFeed, lines]
  cases splitOn '\n' rest with
  | nil => rfl
  | cons part parts =>
    rw [List.modifyHead_cons, List.map_cons, dropEndWhile_cons (· == '\r') hKept]
    rfl

theorem lines_unifyNewlines {text : Text} (h : ReturnsBeforeFeeds text) :
    lines (unifyNewlines text) = lines text := by
  induction text using unifyNewlines.induct with
  | case1 => rfl
  | case2 rest ih => rw [unifyNewlines, lines_feed, lines_return_feed, ih h.tail.tail]
  | case3 rest hFeed ih =>
    obtain ⟨more, hMore⟩ := h.exists_feed
    exact absurd hMore (hFeed more)
  | case4 c rest hNone hReturn ih =>
    rw [unifyNewlines.eq_4 c rest hNone hReturn]
    by_cases hFeed : c = '\n'
    · rw [hFeed, lines_feed, lines_feed, ih h.tail]
    · rw [lines_cons hFeed hReturn, lines_cons hFeed hReturn, ih h.tail]

end ScriptAssist.Text
