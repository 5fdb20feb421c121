import ScriptAssist.Proofs.FlagPlace

/-!
# Columns before the line

Whatever reads the line of the cursor takes a negative column as the first one, so the mode never
depends on how far before the line a column is. The cursor in a logical line does depend on it: it
moves back into the lines above. Where such lines go on into the line of the cursor, a negative
column may therefore reach a flag mark in them.
-/

namespace ScriptAssist

namespace Text

theorem before_of_nonpos {column : Int} (h : column ≤ 0) (text : Text) :
    before text column = [] := by
  rw [before, Int.toNat_of_nonpos h, List.take_zero]

end Text

namespace Cursor

variable {column : Int} (h : column ≤ 0)
include h

theorem isPastBlock_of_nonpos (line : Text) : isPastBlock line column = false := by
  rw [isPastBlock]
  split
  · simp only [Bool.and_eq_false_imp, decide_eq_true_eq, decide_eq_false_iff_not]
    omega
  · rfl

theorem isAtHeading_of_nonpos (line : Text) : isAtHeading line column = false := by
  have hColumn : column ≠ 1 := by omega
  simp [isAtHeading, hColumn]

theorem isInMethodSlot_of_nonpos (line : Text) : isInMethodSlot line column = false := by
  rw [isInMethodSlot, Text.before_of_nonpos h]
  rfl

theorem followsFlagMark_of_nonpos (line : Text) : followsFlagMark line column = false := by
  rw [followsFlagMark, Text.before_of_nonpos h]
  rfl

end Cursor

theorem Cursor.isAtFlagInBlock_of_nonpos {content : LogicalLine} (h : content.cursor ≤ 0) :
    isAtFlagInBlock content = false := by
  rw [isAtFlagInBlock]
  split
  · rfl
  · rename_i scope _
    have hOutside : scope.encloses content.cursor = false := by
      simp only [Scope.encloses, Span.contains, Bool.and_eq_false_imp, decide_eq_true_eq,
        decide_eq_false_iff_not, show opener.length = 3 from rfl]
      omega
    rw [hOutside, Bool.false_and]

namespace LogicalLine.Block

variable {marker : Text} (block : Block marker)

theorem front_eq_nil_of_isBlock (hNewline : ∀ line ∈ block.lines, '\n' ∉ line)
    (h : IsBlock marker block.lines block.last block.last) : block.front = [] := by
  rcases block.before.eq_nil_or_concat with hNil | ⟨lines, line, hLines⟩
  · simp [front, hNil]
  · have hLast : block.last = block.first + lines.length + 1 := by
      rw [last, first, hLines, List.length_concat, Nat.add_assoc]
    have hLine : block.lines[block.first + lines.length]? = some line := by
      simp [Block.lines, first, hLines]
    have hGoesOn := (block.isBlock hNewline).goes_on _ line (by omega) (by omega) hLine
    exact absurd hGoesOn (h.begins _ line hLast.symm hLine)

end LogicalLine.Block

namespace Engine

variable {engine : Engine}

theorem macroAt?_of_nonpos {column : Int} (h : column ≤ 0) (current : Text) :
    engine.macroAt? current column = none := by
  simp [macroAt?, Text.before_of_nonpos h, Cursor.flagMark]

theorem resolve_column (lines : List Text) (line a b : Int) :
    engine.resolve lines line a = engine.resolve lines line b := by
  rw [resolve, resolve, logicalLine, logicalLine, LogicalLine.at?, LogicalLine.at?]
  cases LogicalLine.lineAt? lines line with
  | none => rfl
  | some current => by_cases hLine : 0 ≤ line <;> simp only [hLine] <;> rfl

theorem mode_of_negative {column : Int} (h : column < 0) (text : Text) (line : Int)
    (kind : RequestKind) :
    engine.mode ⟨some text, line, column, kind⟩ = engine.mode ⟨some text, line, 0, kind⟩ := by
  have hNonpos : column ≤ 0 := Int.le_of_lt h
  simp only [mode]
  split
  · rfl
  split
  · rfl
  cases kind with
  | heading => simp [modeAt, Cursor.isAtHeading_of_nonpos, hNonpos]
  | macroName => simp only [modeAt, Text.before_of_nonpos hNonpos, Text.before_of_nonpos Int.le_rfl]
  | assertionMethod => simp [modeAt, Cursor.isInMethodSlot_of_nonpos, hNonpos]
  | testParameter => rfl
  | action =>
    simp [modeAt, sectionMode, Cursor.isPastBlock_of_nonpos, Cursor.isInMethodSlot_of_nonpos,
      hNonpos]
  | parameter =>
    simp only [modeAt, flagMode, macroAt?_of_nonpos hNonpos, macroAt?_of_nonpos Int.le_rfl,
      engine.resolve_column _ line column 0]

theorem modeCandidates_column {mode : Mode} (h : mode.kind? ≠ some .parameter) (text : Text)
    (line a b : Int) (kind : RequestKind) :
    engine.modeCandidates ⟨some text, line, a, kind⟩ text mode =
      engine.modeCandidates ⟨some text, line, b, kind⟩ text mode := by
  cases mode with
  | flags action => exact absurd rfl h
  | _ => rfl

theorem complete_of_negative_of_ne {column : Int} (h : column < 0) (text : Text) (line : Int)
    {kind : RequestKind} (hKind : kind ≠ .parameter) :
    engine.complete ⟨some text, line, column, kind⟩ =
      engine.complete ⟨some text, line, 0, kind⟩ := by
  obtain ⟨mode, found, hMode, hFound⟩ := engine.exists_mode_and_candidates text line 0 kind
  have hOther : mode.kind? ≠ some .parameter := by
    rcases kind?_of_mode hMode with hNone | hSame
    · simp [hNone]
    · simpa [hSame] using hKind
  have hNegative := (mode_of_negative h text line kind).trans hMode
  have hSame := (modeCandidates_column hOther text line column 0 kind).trans hFound
  rw [complete_of_candidates hMode hFound, complete_of_candidates hNegative hSame]

/-- The flags of the action that a logical line writes, if the cursor is at a mark in its block. -/
def blockFlags (engine : Engine) (content : LogicalLine) : List Candidate :=
  match engine.resolveText content.text with
  | .error _ => []
  | .ok action =>
    if LiteralSearch.occurs action.literal content.text && Cursor.isAtFlagInBlock content then
      flagCandidates action action.literal
    else []

theorem flagsAt_of_nonpos {column : Int} (h : column ≤ 0) (content : LogicalLine)
    (current : Text) : engine.flagsAt content current column = engine.blockFlags content := by
  cases hResolve : engine.resolveText content.text with
  | error cause => simp only [flagsAt, blockFlags, macroAt?_of_nonpos h, hResolve]
  | ok action =>
    simp only [flagsAt, blockFlags, macroAt?_of_nonpos h, hResolve,
      Cursor.followsFlagMark_of_nonpos h, Bool.or_false]

theorem complete_block_of_nonpos {text : Text}
    {block : LogicalLine.Block engine.settings.continuationMarker}
    (hLines : Text.lines text = block.lines) {column : Int} (h : column ≤ 0) :
    engine.complete ⟨some text, block.last, column, .parameter⟩ =
      engine.blockFlags
        ⟨['\n'].intercalate block.own, block.front.length + column, block.first⟩ := by
  have hColumn : min column block.current.length = column := by omega
  rw [complete_block hLines, flagsAt_of_nonpos h, block.cursorIn_eq, hColumn]

theorem ite_nil_eq_iff (found : List Candidate) (shown a b : Bool) :
    (if shown && a then found else []) = (if shown && b then found else []) ↔
      (found ≠ [] → shown = true → a = b) := by
  cases shown <;> cases a <;> cases b <;> simp

/-- Two places of a logical line show the same flags exactly where both are at a mark in the block
or both are not, if there are flags to show. -/
theorem blockFlags_eq_iff (content : LogicalLine) (a b : Int) :
    engine.blockFlags { content with cursor := a } =
        engine.blockFlags { content with cursor := b } ↔
      ∀ action, engine.resolveText content.text = .ok action → action.flagEntries ≠ [] →
        LiteralSearch.occurs action.literal content.text = true →
        Cursor.isAtFlagInBlock { content with cursor := a } =
          Cursor.isAtFlagInBlock { content with cursor := b } := by
  simp only [blockFlags]
  cases engine.resolveText content.text with
  | error cause => simp
  | ok action =>
    have hEntries : flagCandidates action action.literal ≠ [] ↔ action.flagEntries ≠ [] := by
      simp [flagCandidates]
    simp only [Except.ok.injEq, forall_eq', ite_nil_eq_iff, hEntries]

section

variable {text : Text} {block : LogicalLine.Block engine.settings.continuationMarker}
  (hLines : Text.lines text = block.lines) {column : Int} (h : column ≤ 0)
include hLines h

theorem complete_block_eq_iff :
    engine.complete ⟨some text, block.last, column, .parameter⟩ =
        engine.complete ⟨some text, block.last, 0, .parameter⟩ ↔
      ∀ action, engine.resolveText (['\n'].intercalate block.own) = .ok action →
        action.flagEntries ≠ [] →
        LiteralSearch.occurs action.literal (['\n'].intercalate block.own) = true →
        Cursor.isAtFlagInBlock
            ⟨['\n'].intercalate block.own, block.front.length + column, block.first⟩ =
          Cursor.isAtFlagInBlock
            ⟨['\n'].intercalate block.own, block.front.length, block.first⟩ := by
  rw [complete_block_of_nonpos hLines h, complete_block_of_nonpos hLines Int.le_rfl, Int.add_zero]
  exact blockFlags_eq_iff ⟨['\n'].intercalate block.own, 0, block.first⟩ _ _

theorem complete_block_of_isBlock
    (hAlone : LogicalLine.IsBlock engine.settings.continuationMarker block.lines block.last
      block.last) :
    engine.complete ⟨some text, block.last, column, .parameter⟩ =
      engine.complete ⟨some text, block.last, 0, .parameter⟩ := by
  have hNewline : ∀ line ∈ block.lines, '\n' ∉ line := fun line hMem =>
    Text.newline_not_mem_of_mem_lines (hLines ▸ hMem)
  have hFront : (block.front.length : Int) = 0 := by
    rw [block.front_eq_nil_of_isBlock hNewline hAlone]
    rfl
  rw [complete_block_eq_iff hLines h]
  intro action _ _ _
  rw [Cursor.isAtFlagInBlock_of_nonpos, Cursor.isAtFlagInBlock_of_nonpos]
  · exact Int.le_of_eq hFront
  · simpa only [hFront, Int.zero_add] using h

end

/-- A negative column counts as the first one for the mode of every request, and for what is offered
by every request but that for flags. It does for flags too on a line that no other goes on into. On
any other line it does exactly if there are no flags to show or the cursor, moved back into the
lines above, is at a mark in the block just if it is at one at the start of the line. -/
theorem complete_of_negative_column (engine : Engine) (text : Text) (line : Int) {column : Int}
    (hColumn : column < 0) :
    (∀ kind, engine.mode ⟨some text, line, column, kind⟩ =
      engine.mode ⟨some text, line, 0, kind⟩) ∧
    (∀ kind, (kind = .parameter → line < (Text.lines text).length →
        LogicalLine.IsBlock engine.settings.continuationMarker (Text.lines text) line.toNat
          line.toNat) →
      engine.complete ⟨some text, line, column, kind⟩ =
        engine.complete ⟨some text, line, 0, kind⟩) ∧
    ∀ content, 0 ≤ line → engine.logicalLine (Text.lines text) line 0 = .ok content →
      (engine.complete ⟨some text, line, column, .parameter⟩ =
          engine.complete ⟨some text, line, 0, .parameter⟩ ↔
        ∀ action, engine.resolveText content.text = .ok action → action.flagEntries ≠ [] →
          LiteralSearch.occurs action.literal content.text = true →
          Cursor.isAtFlagInBlock { content with cursor := content.cursor + column } =
            Cursor.isAtFlagInBlock content) := by
  have hNonpos : column ≤ 0 := Int.le_of_lt hColumn
  refine ⟨fun kind => mode_of_negative hColumn text line kind, ?_, ?_⟩
  · intro kind hAlone
    by_cases hKind : kind = .parameter
    · subst hKind
      by_cases hOutside : line < 0 ∨ (Text.lines text).length ≤ line
      · rw [complete_of_outside hOutside, complete_of_outside hOutside]
      · obtain ⟨n, rfl⟩ := Int.eq_ofNat_of_zero_le (show 0 ≤ line by omega)
        have hBlock := hAlone rfl (by omega)
        obtain ⟨block, hLines, rfl⟩ := LogicalLine.Block.exists_of_lt_length
          engine.settings.continuationMarker (show n < (Text.lines text).length by omega)
        rw [Int.toNat_natCast, ← hLines] at hBlock
        exact complete_block_of_isBlock hLines.symm hNonpos hBlock
    · exact complete_of_negative_of_ne hColumn text line hKind
  · intro content hLine hContent
    obtain ⟨n, rfl⟩ := Int.eq_ofNat_of_zero_le hLine
    have hInside : n < (Text.lines text).length := by
      by_contra hBelow
      have hNone : (Text.lines text)[n]? = none := List.getElem?_eq_none (by omega)
      simp [logicalLine, LogicalLine.at?, hNone] at hContent
    obtain ⟨block, hLines, rfl⟩ := LogicalLine.Block.exists_of_lt_length
      engine.settings.continuationMarker hInside
    have hStart : min (0 : Int) block.current.length = 0 := by omega
    rw [logicalLine, ← hLines, block.at?_lines, block.cursorIn_eq, hStart, Int.add_zero] at hContent
    cases hContent
    exact complete_block_eq_iff hLines.symm hNonpos

theorem complete_before_continued_step :
    let click : Action := {
      key := "Click", literal := "click"
      flags := some (NamedTexts.ofEntries [("wait", "How long.")]) }
    let engine : Engine := { catalog := { actions := [click] } }
    let text : Text := "1. click " ++ opener ++ " -- `\nx" ++ closer
    (-1 : Int) < 0 ∧
      engine.logicalLine (Text.lines text) 1 0 = .ok ⟨text, 18, 0⟩ ∧
      engine.complete ⟨some text, 1, -1, .parameter⟩ =
        engine.complete ⟨some text, 1, 0, .parameter⟩ := by
  intro click engine text
  have hContent : engine.logicalLine (Text.lines text) 1 0 =
      .ok ⟨text, 18, 0⟩ := by decide
  obtain ⟨_, _, hFlags⟩ := complete_of_negative_column engine text 1 (show (-1 : Int) < 0 by decide)
  refine ⟨by decide, hContent, (hFlags _ (by decide) hContent).mpr ?_⟩
  intro action _ _ _
  decide

/-- A negative column that reaches a mark in the line above shows flags where the first column of
the line shows none. -/
theorem negative_column_reaches_mark :
    let click : Action := {
      key := "Click", literal := "click"
      flags := some (NamedTexts.ofEntries [("wait", "How long.")]) }
    let engine : Engine := { catalog := { actions := [click] } }
    let text : Text := "1. click " ++ opener ++ " -- `\nx" ++ closer
    engine.complete ⟨some text, 1, -3, .parameter⟩ =
        [Candidate.plain .parameter "wait" "How long." "click"] ∧
      engine.complete ⟨some text, 1, 0, .parameter⟩ = [] := by
  decide

end Engine

end ScriptAssist
