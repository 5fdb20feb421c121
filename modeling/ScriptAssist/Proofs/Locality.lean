import ScriptAssist.Proofs.FlagCompletion
import ScriptAssist.Proofs.LineBreaks

/-!
# What a completion reads

A completion reads the line of the cursor and lines above it. The table of parameters may stand
anywhere, so only the parameters of a test are asked of the whole document. Flags are even asked of
the lines that go on into the line of the cursor alone.
-/

namespace ScriptAssist

namespace LogicalLine

/-- The lines from `first` to `last` are one logical line. -/
structure IsBlock (marker : Text) (lines : List Text) (first last : Nat) : Prop where
  first_le : first ≤ last
  goes_on : ∀ i line, first ≤ i → i < last → lines[i]? = some line → EndsWithMark marker line
  begins : ∀ i line, i + 1 = first → lines[i]? = some line → ¬EndsWithMark marker line

/-- A document that is cut around the lines of one logical line. -/
structure Block (marker : Text) where
  above : List Text
  before : List Text
  current : Text
  below : List Text
  above_continues : ∀ line, above.getLast? = some line → continues marker line = false
  before_continues : ∀ line ∈ before, continues marker line = true

namespace Block

variable {marker : Text} (block : Block marker)

def lines : List Text :=
  block.above ++ (block.before ++ block.current :: block.below)

def first : Nat :=
  block.above.length

def last : Nat :=
  block.above.length + block.before.length

def own : List Text :=
  block.before ++ [block.current]

def alone : Block marker :=
  { block with above := [], below := [], above_continues := by simp }

theorem exists_of_lt_length (marker : Text) {lines : List Text} {i : Nat} (h : i < lines.length) :
    ∃ block : Block marker, block.lines = lines ∧ block.last = i := by
  have hAbove : (lines.take i).rdropWhile (continues marker) ++
      (lines.take i).rtakeWhile (continues marker) = lines.take i :=
    List.rdropWhile_append_rtakeWhile
  refine ⟨{
    above := (lines.take i).rdropWhile (continues marker)
    before := (lines.take i).rtakeWhile (continues marker)
    current := lines[i]
    below := lines.drop (i + 1)
    above_continues := ?_
    before_continues := fun line hLine => List.mem_rtakeWhile_imp hLine }, ?_, ?_⟩
  · intro line hLine
    obtain ⟨hNe, rfl⟩ := List.mem_getLast?_eq_getLast hLine
    simpa using List.rdropWhile_last_not _ _ hNe
  · rw [Block.lines, ← List.append_assoc, hAbove, ← List.drop_eq_getElem_cons h,
      List.take_append_drop]
  · rw [last, ← List.length_append, hAbove, List.length_take_of_le (Nat.le_of_lt h)]

theorem take_lines : block.lines.take block.last = block.above ++ block.before := by
  rw [lines, last, ← List.append_assoc, ← List.length_append, List.take_left]

theorem take_lines_succ : block.lines.take (block.last + 1) = block.above ++ block.own := by
  rw [lines, last, own, ← List.append_assoc, ← List.length_append, List.take_length_add_append]
  simp

theorem mem_lines_of_mem_own {line : Text} (h : line ∈ block.own) : line ∈ block.lines := by
  rw [lines, List.append_cons]
  exact List.mem_append_right _ (List.mem_append_left _ h)

theorem getElem?_last : block.lines[block.last]? = some block.current := by
  rw [lines, last, ← List.append_assoc, ← List.length_append]
  simp

theorem continuedBefore_lines :
    continuedBefore marker block.lines block.last = block.before.length := by
  have hAbove : block.above.reverse.takeWhile (continues marker) = [] := by
    rcases List.eq_nil_or_concat block.above with hNil | ⟨front, line, hLine⟩
    · simp [hNil]
    · simp [hLine, block.above_continues line (by simp [hLine])]
  have hBefore : ∀ line ∈ block.before.reverse, continues marker line = true := by
    intro line hLine
    exact block.before_continues line (List.mem_reverse.mp hLine)
  rw [continuedBefore, take_lines, List.reverse_append, List.takeWhile_append_of_pos hBefore,
    hAbove, List.append_nil, List.length_reverse]

theorem at?_lines (column : Int) :
    at? block.lines marker block.last column =
      some ⟨['\n'].intercalate block.own,
        cursorIn (['\n'].intercalate block.own) block.current column, block.first⟩ := by
  have hFirst : block.last - block.before.length = block.above.length := by
    rw [last]
    omega
  have hOwn : (block.lines.take (block.last + 1)).drop block.above.length = block.own := by
    rw [take_lines_succ, List.drop_left]
  simp [at?, getElem?_last, continuedBefore_lines, hFirst, hOwn, first]

theorem isBlock (hNewline : ∀ line ∈ block.lines, '\n' ∉ line) :
    IsBlock marker block.lines block.first block.last where
  first_le := Nat.le_add_right _ _
  goes_on i line hFirst hLast hLine := by
    rw [← continues_iff_of_newline_not_mem (hNewline line (List.mem_of_getElem? hLine))]
    apply block.before_continues
    rw [first] at hFirst
    rw [last] at hLast
    rw [lines, List.getElem?_append_right hFirst, List.getElem?_append_left (by omega)] at hLine
    exact List.mem_of_getElem? hLine
  begins i line hFirst hLine := by
    rw [← continues_iff_of_newline_not_mem (hNewline line (List.mem_of_getElem? hLine)),
      Bool.not_eq_true]
    apply block.above_continues
    rw [first] at hFirst
    rw [lines, List.getElem?_append_left (by omega)] at hLine
    rw [List.getLast?_eq_getElem?, ← hFirst, Nat.add_sub_cancel, hLine]

end Block

theorem at?_congr {a b : List Text} {line : Nat} (h : a.take (line + 1) = b.take (line + 1))
    (marker : Text) (column : Int) : at? a marker line column = at? b marker line column := by
  have hAbove : a.take line = b.take line := by
    simpa [List.take_take] using congrArg (List.take line) h
  have hCurrent : a[line]? = b[line]? := by
    simpa using congrArg (·[line]?) h
  simp [at?, continuedBefore, h, hAbove, hCurrent]

end LogicalLine

theorem Section.isUnder_congr {a b : List Text} {line : Nat}
    (h : a.take (line + 1) = b.take (line + 1)) (heading : Text) (keys : List Text) :
    isUnder a line heading keys = isUnder b line heading keys := by
  have hLine : ((line : Int) + 1).toNat = line + 1 := by omega
  rw [isUnder, isUnder, hLine, h]

def Mode.kind? : Mode → Option RequestKind
  | actions => some .action
  | assertions => some .action
  | methods => some .assertionMethod
  | flags _ => some .parameter
  | macroNames => some .macroName
  | macroFlags _ => some .parameter
  | headings => some .heading
  | testParameters => some .testParameter
  | nothing => none

namespace Engine

variable {engine : Engine}

/-- The flags at a place of a line: those of the macro that is typed, else those of the action that
the logical line writes. -/
def flagsAt (engine : Engine) (content : LogicalLine) (current : Text) (column : Int) :
    List Candidate :=
  match engine.macroAt? current column with
  | some found => flagCandidates found found.key
  | none =>
    match engine.resolveText content.text with
    | .error _ => []
    | .ok action =>
      if LiteralSearch.occurs action.literal content.text &&
          (Cursor.isAtFlagInBlock content || Cursor.followsFlagMark current column) then
        flagCandidates action action.literal
      else []

theorem mode_of_macroAt? {text current : Text} {line : Nat} {column : Int} {found : Action}
    (hLine : (Text.lines text)[line]? = some current)
    (hMacro : engine.macroAt? current column = some found) :
    engine.mode ⟨some text, line, column, .parameter⟩ = .ok (.macroFlags found) := by
  simp [mode, hLine, modeAt, flagMode, hMacro]

theorem mode_of_resolveText_eq_error {text current : Text} {line : Nat} {column : Int}
    {content : LogicalLine} {cause : Unresolved}
    (hLine : (Text.lines text)[line]? = some current)
    (hContent : engine.logicalLine (Text.lines text) line column = .ok content)
    (hMacro : engine.macroAt? current column = none)
    (hResolve : engine.resolveText content.text = .error cause) :
    engine.mode ⟨some text, line, column, .parameter⟩ = .ok .nothing := by
  have hFailure : engine.resolve (Text.lines text) line column =
      .error (.unresolved line cause) := by
    rw [resolve_of_logicalLine hContent, hResolve]
    rfl
  simp [mode, hLine, modeAt, flagMode, hMacro, hFailure]

theorem actionFlagCandidates_of_logicalLine {text current : Text} {line : Nat} {column : Int}
    {content : LogicalLine} (action : Action)
    (hLine : (Text.lines text)[line]? = some current)
    (hContent : engine.logicalLine (Text.lines text) line column = .ok content) :
    engine.actionFlagCandidates action text line column =
      .ok (if LiteralSearch.occurs action.literal content.text &&
          (Cursor.isAtFlagInBlock content || Cursor.followsFlagMark current column) then
        flagCandidates action action.literal
      else []) := by
  by_cases hFlags : action.flagEntries = []
  · have hNone : flagCandidates action action.literal = [] := by simp [flagCandidates, hFlags]
    rw [actionFlagCandidates, if_pos (by simp [hFlags]), hNone, ite_self]
  by_cases hOccurs : LiteralSearch.occurs action.literal content.text = true
  · rw [actionFlagCandidates_eq hFlags hLine hContent hOccurs, hOccurs, Bool.true_and]
  · rw [actionFlagCandidates, if_neg (by simpa using hFlags)]
    simp only [hContent, Bool.not_eq_true] at hOccurs ⊢
    change (if (!LiteralSearch.occurs action.literal content.text) = true then _ else _ :
      Except Failure (List Candidate)) = _
    rw [hOccurs]
    rfl

theorem complete_parameter {text current : Text} {line : Nat} {column : Int}
    {content : LogicalLine} (hLine : (Text.lines text)[line]? = some current)
    (hContent : engine.logicalLine (Text.lines text) line column = .ok content) :
    engine.complete ⟨some text, line, column, .parameter⟩ =
      engine.flagsAt content current column := by
  cases hMacro : engine.macroAt? current column with
  | some found =>
    rw [complete_of_candidates (mode_of_macroAt? hLine hMacro) rfl, dedupe_flagCandidates, flagsAt]
    simp only [hMacro]
  | none =>
    cases hResolve : engine.resolveText content.text with
    | error cause =>
      rw [complete_of_candidates (mode_of_resolveText_eq_error hLine hContent hMacro hResolve) rfl,
        flagsAt]
      simp only [hMacro, hResolve]
      rfl
    | ok action =>
      have hAction : engine.resolve (Text.lines text) line column = .ok action := by
        rw [resolve_of_logicalLine hContent, hResolve]
        rfl
      rw [complete_of_candidates (mode_parameter hLine hMacro hAction)
        (actionFlagCandidates_of_logicalLine action hLine hContent), flagsAt]
      simp only [hMacro, hResolve]
      split
      · exact dedupe_flagCandidates action action.literal
      · rfl

theorem kind?_sectionMode (lines : List Text) (line : Int) (current : Text) (column : Int) :
    (engine.sectionMode lines line current column).kind? = none ∨
      (engine.sectionMode lines line current column).kind? = some .action := by
  simp only [sectionMode]
  split
  · exact .inl rfl
  split
  · exact .inr rfl
  split
  · split
    · exact .inl rfl
    · exact .inr rfl
  · exact .inl rfl

theorem kind?_of_flagMode {lines : List Text} {line : Int} {current : Text} {column : Int}
    {mode : Mode} (h : engine.flagMode lines line current column = .ok mode) :
    mode.kind? = none ∨ mode.kind? = some .parameter := by
  rw [flagMode] at h
  split at h
  · cases h
    exact .inr rfl
  · split at h <;> cases h
    · exact .inr rfl
    · exact .inl rfl

theorem kind?_of_mode {query : Query} {mode : Mode} (h : engine.mode query = .ok mode) :
    mode.kind? = none ∨ mode.kind? = some query.kind := by
  obtain ⟨text, line, column, kind⟩ := query
  cases text with
  | none => cases h
  | some text =>
    simp only [Engine.mode] at h
    split at h
    · cases h
      exact .inl rfl
    split at h
    · cases h
      exact .inl rfl
    cases kind with
    | testParameter =>
      cases h
      exact .inr rfl
    | action =>
      cases h
      exact kind?_sectionMode _ _ _ _
    | parameter => exact kind?_of_flagMode h
    | heading | macroName | assertionMethod =>
      simp only [modeAt] at h
      split at h <;> cases h
      · exact .inr rfl
      · exact .inl rfl

theorem kind_of_mode_eq_testParameters {query : Query}
    (h : engine.mode query = .ok .testParameters) : query.kind = .testParameter := by
  rcases kind?_of_mode h with hNone | hKind
  · cases hNone
  · exact (Option.some.inj hKind).symm

section

variable (engine) {a b : Text} {line : Nat}

theorem mode_congr (h : (Text.lines a).take (line + 1) = (Text.lines b).take (line + 1))
    (column : Int) (kind : RequestKind) :
    engine.mode ⟨some a, line, column, kind⟩ = engine.mode ⟨some b, line, column, kind⟩ := by
  have hCurrent : (Text.lines a)[line]? = (Text.lines b)[line]? := by
    simpa using congrArg (·[line]?) h
  have hSection : ∀ current, engine.sectionMode (Text.lines a) line current column =
      engine.sectionMode (Text.lines b) line current column := by
    intro current
    simp only [sectionMode, Section.isUnder_congr h]
  have hFlag : ∀ current, engine.flagMode (Text.lines a) line current column =
      engine.flagMode (Text.lines b) line current column := by
    intro current
    simp only [flagMode, resolve, logicalLine, LogicalLine.at?_congr h]
  simp only [mode, Int.toNat_natCast, hCurrent, modeAt, hSection, hFlag]

theorem modeCandidates_congr (h : (Text.lines a).take (line + 1) = (Text.lines b).take (line + 1))
    (column : Int) (kind : RequestKind) {mode : Mode}
    (hWhole : mode = .testParameters → Text.lines a = Text.lines b) :
    engine.modeCandidates ⟨some a, line, column, kind⟩ a mode =
      engine.modeCandidates ⟨some b, line, column, kind⟩ b mode := by
  have hCurrent : (Text.lines a)[line]? = (Text.lines b)[line]? := by
    simpa using congrArg (·[line]?) h
  cases mode with
  | flags action =>
    simp only [modeCandidates, actionFlagCandidates, logicalLine, LogicalLine.at?_congr h,
      currentLine, LogicalLine.lineAt?_natCast, hCurrent]
  | testParameters => simp only [modeCandidates, testParameterCandidates, hWhole rfl]
  | _ => rfl

/-- Completions are alike in documents that agree up to the line of the cursor, or that have the
same lines where the parameters of a test are asked for. -/
theorem complete_congr (h : (Text.lines a).take (line + 1) = (Text.lines b).take (line + 1))
    (column : Int) {kind : RequestKind}
    (hWhole : kind = .testParameter → Text.lines a = Text.lines b) :
    engine.complete ⟨some a, line, column, kind⟩ =
      engine.complete ⟨some b, line, column, kind⟩ := by
  have hSame : engine.candidates ⟨some a, line, column, kind⟩ =
      engine.candidates ⟨some b, line, column, kind⟩ := by
    rw [candidates, candidates, mode_congr engine h]
    cases hMode : engine.mode ⟨some b, line, column, kind⟩ with
    | error failure => rfl
    | ok mode =>
      have hLines : mode = .testParameters → Text.lines a = Text.lines b := by
        rintro rfl
        exact hWhole (kind_of_mode_eq_testParameters hMode)
      simp only [bind, Except.bind, Option.getD_some, modeCandidates_congr engine h _ _ hLines]
  rw [complete, complete, hSame]

end

section

variable {text : Text} {block : LogicalLine.Block engine.settings.continuationMarker}

theorem complete_block (h : Text.lines text = block.lines) (column : Int) :
    engine.complete ⟨some text, block.last, column, .parameter⟩ =
      engine.flagsAt ⟨['\n'].intercalate block.own,
        LogicalLine.cursorIn (['\n'].intercalate block.own) block.current column, block.first⟩
        block.current column := by
  apply complete_parameter
  · rw [h, block.getElem?_last]
  · rw [logicalLine, h, block.at?_lines]

theorem complete_alone (h : Text.lines text = block.lines) (column : Int) :
    engine.complete ⟨some (['\n'].intercalate block.own), block.alone.last, column, .parameter⟩ =
      engine.complete ⟨some text, block.last, column, .parameter⟩ := by
  have hMem : ∀ line ∈ block.own, line ∈ Text.lines text := by
    intro line hLine
    rw [h]
    exact block.mem_lines_of_mem_own hLine
  have hOwn : Text.lines (['\n'].intercalate block.own) = block.alone.lines :=
    Text.lines_intercalate_of_mem_lines hMem (by simp [LogicalLine.Block.own])
  rw [complete_block h, complete_block hOwn]
  rfl

end

/-- A completion reads no line below the cursor, unless it is for the parameters of a test. One for
flags is the same in the document of the logical line alone. -/
theorem complete_local (engine : Engine) (line : Nat) (column : Int) :
    (∀ (kind : RequestKind) (a b : Text), kind ≠ .testParameter →
      line < (Text.lines a).length → line < (Text.lines b).length →
      (Text.lines a).take (line + 1) = (Text.lines b).take (line + 1) →
      engine.complete ⟨some a, line, column, kind⟩ =
        engine.complete ⟨some b, line, column, kind⟩) ∧
    ∀ text : Text, line < (Text.lines text).length → ∃ first,
      LogicalLine.IsBlock engine.settings.continuationMarker (Text.lines text) first line ∧
      engine.complete ⟨some text, line, column, .parameter⟩ =
        engine.complete ⟨some (['\n'].intercalate (((Text.lines text).take (line + 1)).drop first)),
          line - first, column, .parameter⟩ := by
  constructor
  · intro kind a b hKind _ _ hTake
    exact complete_congr engine hTake column (fun hTest => absurd hTest hKind)
  · intro text hLine
    obtain ⟨block, hLines, rfl⟩ :=
      LogicalLine.Block.exists_of_lt_length engine.settings.continuationMarker hLine
    refine ⟨block.first, ?_, ?_⟩
    · rw [← hLines]
      apply block.isBlock
      intro line hMem
      exact Text.newline_not_mem_of_mem_lines (hLines ▸ hMem)
    · have hAlone : (block.last : Int) - block.first = (block.alone.last : Nat) := by
        simp only [LogicalLine.Block.last, LogicalLine.Block.first, LogicalLine.Block.alone,
          List.length_nil]
        omega
      rw [← complete_alone hLines.symm, ← hLines, block.take_lines_succ, hAlone,
        LogicalLine.Block.first, List.drop_left]

theorem complete_local_of_continued_step :
    let click : Action := {
      key := "Click", literal := "click", flags := some (NamedTexts.ofEntries [("wait", "")]) }
    let engine : Engine := { catalog := { actions := [click] } }
    let a : Text := "2. `\n1. click `\r\n  --\r\n3. click"
    let b : Text := "2. `\r\n1. click `\n  --"
    engine.complete ⟨some a, 2, 4, .parameter⟩ = [Candidate.plain .parameter "wait" "" "click"] ∧
      engine.complete ⟨some a, 2, 4, .parameter⟩ = engine.complete ⟨some b, 2, 4, .parameter⟩ ∧
      ∃ first, LogicalLine.IsBlock engine.settings.continuationMarker (Text.lines a) first 2 ∧
        engine.complete ⟨some a, 2, 4, .parameter⟩ =
          engine.complete ⟨some (['\n'].intercalate (((Text.lines a).take 3).drop first)),
            2 - first, 4, .parameter⟩ := by
  intro click engine a b
  have hLocal := complete_local engine 2 4
  exact ⟨by decide, hLocal.1 .parameter a b (by decide) (by decide) (by decide) (by decide),
    hLocal.2 a (by decide)⟩

end Engine

end ScriptAssist
