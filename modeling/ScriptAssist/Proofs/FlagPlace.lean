import ScriptAssist.Proofs.LookupsInRange

/-!
# The place of flags

What a logical line has before the cursor are its lines above, each with its line break, and then
the line of the cursor up to the column. A flag mark at the end of that text is one of the line of
the cursor: it cannot reach over a line break, and a line that goes on ends with the continuation
marker. So flags are offered only right after a mark.
-/

namespace ScriptAssist

section

variable {α : Type} {pattern front rest : List α} {c : α}

theorem suffix_of_suffix_append_cons (hc : c ∉ pattern) (h : pattern <:+ front ++ c :: rest) :
    pattern <:+ rest := by
  rcases List.suffix_or_suffix_of_suffix h (List.suffix_append front (c :: rest)) with
    hShorter | hLonger
  · rcases List.suffix_cons_iff.mp hShorter with rfl | hRest
    · exact absurd List.mem_cons_self hc
    · exact hRest
  · exact absurd (hLonger.subset List.mem_cons_self) hc

end

theorem Text.endsLineWith_of_suffix {pattern rest text : Text} (hRest : rest <:+ text)
    (h : endsLineWith pattern rest = true) : endsLineWith pattern text = true := by
  simp only [endsLineWith, Bool.or_eq_true, List.isSuffixOf_iff_suffix] at h ⊢
  exact h.imp (·.trans hRest) (·.trans hRest)

namespace LogicalLine

theorem intercalate_snoc (above : List Text) (current : Text) :
    ['\n'].intercalate (above ++ [current]) = above.flatMap (· ++ ['\n']) ++ current := by
  induction above with
  | nil => simp
  | cons line above ih =>
    rw [List.cons_append, List.intercalate_cons_of_ne_nil (by simp), ih]
    simp

namespace Block

variable {marker : Text} (block : Block marker)

def front : Text :=
  block.before.flatMap (· ++ ['\n'])

theorem text_eq : ['\n'].intercalate block.own = block.front ++ block.current :=
  intercalate_snoc block.before block.current

theorem cursorIn_eq (column : Int) :
    cursorIn (['\n'].intercalate block.own) block.current column =
      block.front.length + min column block.current.length := by
  rw [text_eq, cursorIn, List.length_append]
  omega

theorem take_cursor {column : Int} (h : 0 ≤ column) :
    (['\n'].intercalate block.own).take
        (cursorIn (['\n'].intercalate block.own) block.current column).toNat =
      block.front ++ Text.before block.current column := by
  have hCursor : (cursorIn (['\n'].intercalate block.own) block.current column).toNat =
      block.front.length + min column.toNat block.current.length := by
    rw [cursorIn_eq]
    omega
  rw [hCursor, text_eq, List.take_length_add_append, Text.before]
  simp [List.take_eq_take_iff]

theorem front_eq_nil_or_snoc :
    block.front = [] ∨
      ∃ front line, block.front = front ++ line ++ ['\n'] ∧ line ∈ block.before := by
  rcases List.eq_nil_or_concat block.before with hNil | ⟨lines, line, hLines⟩
  · exact .inl (by simp [front, hNil])
  · exact .inr ⟨lines.flatMap (· ++ ['\n']), line, by simp [front, hLines], by simp [hLines]⟩

/-- A mark at the end of the text before the cursor, or before a line break at its end, is one of
the line of the cursor. -/
theorem suffix_of_endsLineWith {mark : Text} (hSolid : ∀ c ∈ mark, Text.isBlank c = false)
    (hMarker : ¬mark <:+ marker) (hNewline : ∀ line ∈ block.own, '\n' ∉ line)
    {before : Text} (hBefore : before <+: block.current)
    (h : Text.endsLineWith mark (block.front ++ before) = true) : mark <:+ before := by
  have hBreak : '\n' ∉ mark := fun hMem => absurd (hSolid _ hMem) (by decide)
  have hInLine : '\n' ∉ before := fun hMem =>
    hNewline block.current (by simp [own]) (hBefore.subset hMem)
  simp only [Text.endsLineWith, Bool.or_eq_true, List.isSuffixOf_iff_suffix] at h
  rcases block.front_eq_nil_or_snoc with hFront | ⟨front, line, hFront, hLine⟩
  · rw [hFront, List.nil_append] at h
    rcases h with hMark | hMark
    · exact hMark
    · exact absurd (hMark.subset (by simp)) hInLine
  · rw [hFront, List.append_assoc, List.singleton_append] at h
    rcases h with hMark | hMark
    · exact suffix_of_suffix_append_cons hBreak hMark
    · rcases List.eq_nil_or_concat' before with rfl | ⟨init, c, rfl⟩
      · have hAbove : mark <:+ front ++ line := List.suffix_append_self_iff.mp hMark
        have hGoesOn : EndsWithMark marker line := by
          rw [← continues_iff_of_newline_not_mem (hNewline line (by simp [own, hLine]))]
          exact block.before_continues line hLine
        obtain ⟨start, blank, hBlank, rfl⟩ := hGoesOn
        rw [← List.append_assoc] at hAbove
        have hNotInMark : blank ∉ mark := fun hMem => by simp [hSolid blank hMem] at hBlank
        exact absurd (suffix_of_suffix_append_cons hNotInMark hAbove) hMarker
      · obtain ⟨more, hMore⟩ := hMark
        have hEnds : (more ++ mark) ++ ['\n'] = (front ++ line ++ '\n' :: init) ++ [c] := by
          simpa using hMore
        have hLast : '\n' = c := List.singleton_inj.mp (List.append_inj_right' hEnds rfl)
        exact absurd (List.mem_append_right init (List.mem_singleton.mpr hLast)) hInLine

end Block

end LogicalLine

namespace Cursor

theorem isBlank_of_mem_flagMark : ∀ c ∈ flagMark, Text.isBlank c = false := by
  simp only [flagMark, List.mem_cons, List.not_mem_nil, or_false, or_self, forall_eq]
  decide

theorem suffix_of_followsFlagMark {line : Text} {column : Int} (hNewline : '\n' ∉ line)
    (h : followsFlagMark line column = true) : flagMark <:+ Text.before line column := by
  have hBefore : '\n' ∉ Text.before line column := fun hMem =>
    hNewline (List.mem_of_mem_take hMem)
  simp only [followsFlagMark, Bool.or_eq_true, beq_iff_eq,
    continues_iff_of_newline_not_mem hBefore] at h
  rcases h with (hAlone | hBreak) | ⟨front, c, _, hEnds⟩
  · exact hAlone ▸ List.suffix_rfl
  · exact absurd (by simp [hBreak]) hBefore
  · exact hEnds ▸ List.suffix_append_of_suffix (List.suffix_cons c flagMark)

theorem endsLineWith_of_isAtFlagInBlock {content : LogicalLine}
    (h : isAtFlagInBlock content = true) :
    Text.endsLineWith flagMark (content.text.take content.cursor.toNat) = true := by
  rw [isAtFlagInBlock] at h
  split at h
  · cases h
  · rename_i scope _
    rw [Bool.and_eq_true] at h
    have hInside := h.2
    split at hInside
    · cases hInside
    · rename_i c rest hRest
      rw [Bool.and_eq_true] at hInside
      have hSuffix : rest <:+ content.text.take content.cursor.toNat :=
        (List.suffix_cons c rest).trans (hRest ▸ List.drop_suffix _ _)
      exact Text.endsLineWith_of_suffix hSuffix hInside.2

end Cursor

namespace Engine

variable {engine : Engine}

theorem suffix_of_macroAt? {current : Text} {column : Int} {found : Action}
    (h : engine.macroAt? current column = some found) :
    Cursor.flagMark <:+ Text.before current column := by
  by_contra hMark
  simp [macroAt?, hMark] at h

theorem suffix_of_flagsAt_ne_nil {content : LogicalLine} {current : Text} {column : Int}
    (h : engine.flagsAt content current column ≠ []) :
    Cursor.flagMark <:+ Text.before current column ∨
      Cursor.isAtFlagInBlock content = true ∨ Cursor.followsFlagMark current column = true := by
  rw [flagsAt] at h
  split at h
  · rename_i hMacro
    exact .inl (suffix_of_macroAt? hMacro)
  · split at h
    · exact absurd rfl h
    · split at h
      · rename_i hShown
        simp only [Bool.and_eq_true, Bool.or_eq_true] at hShown
        exact .inr hShown.2
      · exact absurd rfl h

theorem complete_of_outside {text : Text} {line : Int}
    (h : line < 0 ∨ (Text.lines text).length ≤ line) (column : Int) (kind : RequestKind) :
    engine.complete ⟨some text, line, column, kind⟩ = [] :=
  complete_of_candidates (engine.mode_of_outside h column kind) rfl

/-- Flags are offered only right after a flag mark on the line of the cursor, unless the
continuation marker ends with one. -/
theorem flags_only_after_mark
    (hMarker : ¬Cursor.flagMark <:+ engine.settings.continuationMarker) {text : Text}
    {line column : Int} (hColumn : 0 ≤ column)
    (h : engine.complete ⟨some text, line, column, .parameter⟩ ≠ []) :
    0 ≤ line ∧ ∃ current, (Text.lines text)[line.toNat]? = some current ∧
      Cursor.flagMark <:+ Text.before current column := by
  have hInside : ¬(line < 0 ∨ (Text.lines text).length ≤ line) := fun hOutside =>
    h (complete_of_outside hOutside column .parameter)
  obtain ⟨n, rfl⟩ := Int.eq_ofNat_of_zero_le (show 0 ≤ line by omega)
  have hLine : n < (Text.lines text).length := by omega
  obtain ⟨block, hLines, rfl⟩ :=
    LogicalLine.Block.exists_of_lt_length engine.settings.continuationMarker hLine
  have hNewline : ∀ line ∈ block.own, '\n' ∉ line := fun line hMem =>
    Text.newline_not_mem_of_mem_lines (hLines ▸ block.mem_lines_of_mem_own hMem)
  refine ⟨by omega, block.current, ?_, ?_⟩
  · rw [Int.toNat_natCast, ← hLines, block.getElem?_last]
  · rw [complete_block hLines.symm] at h
    rcases suffix_of_flagsAt_ne_nil h with hMark | hBlock | hFollows
    · exact hMark
    · have hEnds := Cursor.endsLineWith_of_isAtFlagInBlock hBlock
      rw [block.take_cursor hColumn] at hEnds
      exact block.suffix_of_endsLineWith Cursor.isBlank_of_mem_flagMark hMarker hNewline
        (List.take_prefix _ _) hEnds
    · have hCurrent : block.current ∈ block.own := by simp [LogicalLine.Block.own]
      exact Cursor.suffix_of_followsFlagMark (hNewline block.current hCurrent) hFollows

theorem flags_after_mark_of_continued_step :
    let click : Action := {
      key := "Click", literal := "click", flags := some (NamedTexts.ofEntries [("wait", "")]) }
    let engine : Engine := { catalog := { actions := [click] } }
    let text : Text := "1. click " ++ opener ++ " --a -- `\n  b--c " ++ closer
    (¬Cursor.flagMark <:+ engine.settings.continuationMarker) ∧
      engine.complete ⟨some text, 1, 5, .parameter⟩ ≠ [] ∧
      engine.complete ⟨some text, 1, 0, .parameter⟩ = [] ∧
      ∃ current, (Text.lines text)[1]? = some current ∧
        Cursor.flagMark <:+ Text.before current 5 := by
  intro click engine text
  have hMarker : ¬Cursor.flagMark <:+ engine.settings.continuationMarker := by decide
  have hFlags : engine.complete ⟨some text, 1, 5, .parameter⟩ ≠ [] := by decide
  exact ⟨hMarker, hFlags, by decide, (flags_only_after_mark hMarker (by decide) hFlags).2⟩

/-- A marker that ends with a mark does put one before the start of the next line. -/
example :
    let click : Action := {
      key := "Click", literal := "click", flags := some (NamedTexts.ofEntries [("wait", "")]) }
    let engine : Engine := {
      catalog := { actions := [click] }, settings := { continuationMarker := "--" } }
    let text : Text := "1. click " ++ opener ++ " a --\nb" ++ closer
    engine.complete ⟨some text, 1, 0, .parameter⟩ =
      [Candidate.plain .parameter "wait" "" "click"] := by
  decide

end Engine

end ScriptAssist
