import ScriptAssist.Event
import ScriptAssist.Proofs.InPlaceScan
import ScriptAssist.Proofs.Locality

/-!
# A query of a text has candidates

The walks behind a completion are written here by number: lines by their index, words by their first
character and rows by their cells. So is the scan that finds open blocks by their depth. Each
look-up may miss, which `none` stands for. None of them does, and the walks give what the completion
uses. The one failure on the way, a line that writes no action, is a mode of its own; so a query
fails only where its text is not known.
-/

namespace ScriptAssist

theorem reverse_take_succ {lines : List Text} {line : Nat} (h : line < lines.length) :
    (lines.take (line + 1)).reverse = lines[line] :: (lines.take line).reverse := by
  rw [List.take_succ_eq_append_getElem h, List.reverse_append]
  rfl

namespace LogicalLine

def firstLine? (marker : Text) (lines : List Text) : Nat → Option Nat
  | 0 => some 0
  | line + 1 => do
    let above ← lines[line]?
    if continues marker above then firstLine? marker lines line else pure (line + 1)

theorem firstLine?_eq (marker : Text) {lines : List Text} {line : Nat} (h : line ≤ lines.length) :
    firstLine? marker lines line = some (line - continuedBefore marker lines line) := by
  induction line with
  | zero => simp [firstLine?]
  | succ line ih =>
    have hLine : line < lines.length := h
    rw [firstLine?, List.getElem?_eq_getElem hLine, ih (Nat.le_of_lt hLine)]
    simp only [continuedBefore, reverse_take_succ hLine, List.takeWhile_cons]
    split <;> simp_all

end LogicalLine

namespace Section

def nearest? (keys : List Text) (lines : List Text) : Nat → Option (Option Text)
  | 0 => some none
  | line + 1 => do
    let current ← lines[line]?
    if opensAny keys current then pure (some current) else nearest? keys lines line

theorem nearest?_eq (keys : List Text) {lines : List Text} {line : Nat} (h : line ≤ lines.length) :
    nearest? keys lines line = some ((lines.take line).reverse.find? (opensAny keys)) := by
  induction line with
  | zero => simp [nearest?]
  | succ line ih =>
    have hLine : line < lines.length := h
    rw [nearest?, List.getElem?_eq_getElem hLine, ih (Nat.le_of_lt hLine), reverse_take_succ hLine,
      List.find?_cons]
    cases hOpens : opensAny keys lines[line] <;> simp [hOpens]

end Section

def capitalized? (word : Text) : Option Text := do
  let first ← word[0]?
  pure (Text.upperChar first ++ word.drop 1)

def keyOfWords? (words : List Text) : Option Text :=
  ((words.filter (!·.isEmpty)).mapM capitalized?).map List.flatten

theorem keyOfWords?_eq (words : List Text) :
    keyOfWords? words = some (words.flatMap capitalize) := by
  induction words with
  | nil => rfl
  | cons word rest ih =>
    obtain ⟨keys, hKeys, hRest⟩ := Option.map_eq_some_iff.mp ih
    cases word with
    | nil => simpa [keyOfWords?, capitalize] using ih
    | cons c word => simp [keyOfWords?, capitalize, capitalized?, hKeys, hRest]

namespace ParameterTable

def headCells? (rows : List Text) : Option (List Text) :=
  match rows.findIdx? isSeparator with
  | none => some []
  | some 0 => some []
  | some (row + 1) => (rows[row]?).map cells

theorem exists_separator {rows : List Text} (h : rows.any isSeparator = true) :
    ∃ front separator rest, rows = front ++ separator :: rest ∧ isSeparator separator = true ∧
      ∀ row ∈ front, isSeparator row = false := by
  have hSome : (rows.find? isSeparator).isSome := List.find?_isSome.mpr (by simpa using h)
  obtain ⟨separator, hFind⟩ := Option.isSome_iff_exists.mp hSome
  obtain ⟨hSeparator, front, rest, hRows, hFront⟩ := List.find?_eq_some_iff_append.mp hFind
  exact ⟨front, separator, rest, hRows, hSeparator, fun row hRow => by simpa using hFront row hRow⟩

theorem headCells?_eq (rows : List Text) : headCells? rows = some (columnNames rows) := by
  by_cases hAny : rows.any isSeparator = true
  · obtain ⟨front, separator, rest, rfl, hSeparator, hFront⟩ := exists_separator hAny
    have hHead : (front ++ separator :: rest).takeWhile (!isSeparator ·) = front := by
      rw [List.takeWhile_append_of_pos fun row hRow => by simp [hFront row hRow]]
      simp [hSeparator]
    have hIndex : (front ++ separator :: rest).findIdx? isSeparator = some front.length := by
      rw [List.findIdx?_append, List.findIdx?_eq_none_iff.mpr hFront]
      simp [List.findIdx?_cons, hSeparator]
    rw [headCells?, columnNames, hIndex, hHead, hAny]
    rcases List.eq_nil_or_concat front with rfl | ⟨init, head, rfl⟩
    · rfl
    · simp
  · have hNone : ∀ row ∈ rows, isSeparator row = false := by simpa using hAny
    rw [headCells?, columnNames, List.findIdx?_eq_none_iff.mpr hNone]
    cases (rows.takeWhile (!isSeparator ·)).getLast? <;> simp [hAny]

def cellCandidate? (cells : List Text) : Option (Option Candidate) :=
  if cells.length < 2 then some none
  else do
    let name ← cells[0]?
    let description ← cells[1]?
    let default ← if 2 < cells.length then (cells[2]?).map ([·]) else some []
    pure (some (Candidate.plain .testParameter name (documentation description default)
      "plugin parameter"))

theorem cellCandidate?_eq (row : Text) : cellCandidate? (cells row) = some (rowCandidate? row) := by
  rw [rowCandidate?]
  rcases cells row with _ | ⟨name, _ | ⟨description, _ | ⟨default, rest⟩⟩⟩
  · rfl
  · rfl
  · rfl
  · rfl

end ParameterTable

/-- No look-up of a line by its number misses, nor of the row at the head of a table. -/
structure LineLookupsHit (lines : List Text) : Prop where
  above : ∀ marker, ∀ line < lines.length, LogicalLine.firstLine? marker lines line =
    some (line - LogicalLine.continuedBefore marker lines line)
  headings : ∀ keys heading, ∀ line < lines.length,
    (Section.nearest? keys lines (line + 1)).map (·.any (Section.opens heading)) =
      some (Section.isUnder lines line heading keys)
  head : ParameterTable.headCells? lines = some (ParameterTable.columnNames lines)

theorem lineLookupsHit (lines : List Text) : LineLookupsHit lines where
  above marker line hLine := LogicalLine.firstLine?_eq marker (Nat.le_of_lt hLine)
  headings keys heading line hLine := by
    rw [Section.nearest?_eq keys hLine]
    rfl
  head := ParameterTable.headCells?_eq lines

/-- No look-up inside of a text misses: of the opener that a closer ends, of the first character of
a word, of a cell. -/
structure TextLookupsHit (text : Text) : Prop where
  blocks : Scope.findInPlace? (brackets 0 text) = some ((Scope.find? text).map Scope.listed)
  words : keyOfWords? (Text.splitOn ' ' (Text.lower text)) = some (keyOfLiteral text)
  cells : ParameterTable.cellCandidate? (ParameterTable.cells text) =
    some (ParameterTable.rowCandidate? text)

theorem textLookupsHit (text : Text) : TextLookupsHit text where
  blocks := Scope.findInPlace?_brackets text
  words := keyOfWords?_eq _
  cells := ParameterTable.cellCandidate?_eq text

namespace Engine

variable (engine : Engine)

theorem exists_logicalLine {lines : List Text} {line : Nat} (h : line < lines.length)
    (column : Int) : ∃ content, engine.logicalLine lines line column = .ok content := by
  obtain ⟨block, rfl, rfl⟩ :=
    LogicalLine.Block.exists_of_lt_length engine.settings.continuationMarker h
  rw [logicalLine, block.at?_lines]
  exact ⟨_, rfl⟩

theorem unresolved_of_resolve_eq_error {lines : List Text} {line : Nat} (h : line < lines.length)
    {column : Int} {failure : Failure}
    (hFailure : engine.resolve lines line column = .error failure) :
    ∃ cause, failure = .unresolved line cause := by
  obtain ⟨content, hContent⟩ := engine.exists_logicalLine h column
  rw [resolve_of_logicalLine hContent] at hFailure
  cases hResolve : engine.resolveText content.text with
  | ok action => rw [hResolve] at hFailure; cases hFailure
  | error cause =>
    rw [hResolve] at hFailure
    cases hFailure
    exact ⟨cause, rfl⟩

theorem exists_flagMode {lines : List Text} {line : Nat} (h : line < lines.length) (current : Text)
    (column : Int) : ∃ mode, engine.flagMode lines line current column = .ok mode := by
  rw [flagMode]
  cases engine.macroAt? current column with
  | some found => exact ⟨_, rfl⟩
  | none =>
    cases hResolve : engine.resolve lines line column with
    | ok action => exact ⟨_, rfl⟩
    | error failure =>
      obtain ⟨cause, rfl⟩ := engine.unresolved_of_resolve_eq_error h hResolve
      exact ⟨_, rfl⟩

theorem exists_modeCandidates {text : Text} {line : Nat} (h : line < (Text.lines text).length)
    (column : Int) (kind : RequestKind) (mode : Mode) :
    ∃ found, engine.modeCandidates ⟨some text, line, column, kind⟩ text mode = .ok found := by
  cases mode with
  | flags action =>
    obtain ⟨content, hContent⟩ := engine.exists_logicalLine h column
    exact ⟨_, actionFlagCandidates_of_logicalLine action (List.getElem?_eq_getElem h) hContent⟩
  | _ => exact ⟨_, rfl⟩

theorem exists_mode {text : Text} {line : Nat} (h : line < (Text.lines text).length) (column : Int)
    (kind : RequestKind) : ∃ mode, engine.mode ⟨some text, line, column, kind⟩ = .ok mode := by
  have hMode : engine.mode ⟨some text, line, column, kind⟩ =
      engine.modeAt (Text.lines text) ⟨some text, line, column, kind⟩ (Text.lines text)[line] := by
    have hLine : ¬(line : Int) < 0 := by omega
    simp [mode, hLine, h]
  rw [hMode]
  cases kind with
  | parameter => exact engine.exists_flagMode h _ column
  | action | heading | macroName | assertionMethod | testParameter => exact ⟨_, rfl⟩

theorem mode_of_outside {text : Text} {line : Int}
    (h : line < 0 ∨ (Text.lines text).length ≤ line) (column : Int) (kind : RequestKind) :
    engine.mode ⟨some text, line, column, kind⟩ = .ok .nothing := by
  rcases h with hNegative | hBelow
  · simp [mode, hNegative]
  · have hLine : (Text.lines text)[line.toNat]? = none := List.getElem?_eq_none (by omega)
    simp [mode, hLine]

theorem exists_mode_and_candidates (text : Text) (line column : Int) (kind : RequestKind) :
    ∃ mode found, engine.mode ⟨some text, line, column, kind⟩ = .ok mode ∧
      engine.modeCandidates ⟨some text, line, column, kind⟩ text mode = .ok found := by
  by_cases hOutside : line < 0 ∨ (Text.lines text).length ≤ line
  · exact ⟨.nothing, [], engine.mode_of_outside hOutside column kind, rfl⟩
  · obtain ⟨n, rfl⟩ := Int.eq_ofNat_of_zero_le (show 0 ≤ line by omega)
    have hLine : n < (Text.lines text).length := by omega
    obtain ⟨mode, hMode⟩ := engine.exists_mode hLine column kind
    obtain ⟨found, hFound⟩ := engine.exists_modeCandidates hLine column kind mode
    exact ⟨mode, found, hMode, hFound⟩

/-- A query of a text always has candidates, wherever its place is; the failure of a completion is
never met and never noted. -/
theorem complete_never_fails (text : Text) (line column : Int) (kind : RequestKind) :
    let query : Query := ⟨some text, line, column, kind⟩
    (∃ mode found, engine.mode query = .ok mode ∧
      engine.modeCandidates query text mode = .ok found ∧
      engine.candidates query = .ok (Keyed.dedupe Candidate.label found) ∧
      engine.complete query = Keyed.dedupe Candidate.label found) ∧
    (∀ atLine atColumn failure,
      .completionFailed atLine atColumn failure ∉ engine.completionEvents query) ∧
    (∀ lines, LineLookupsHit lines) ∧ ∀ content, TextLookupsHit content := by
  intro query
  obtain ⟨mode, found, hMode, hFound⟩ := engine.exists_mode_and_candidates text line column kind
  have hCandidates : engine.candidates query = .ok (Keyed.dedupe Candidate.label found) :=
    candidates_of_mode hMode hFound
  refine ⟨⟨mode, found, hMode, hFound, hCandidates, complete_of_candidates hMode hFound⟩, ?_,
    lineLookupsHit, textLookupsHit⟩
  intro atLine atColumn failure hEvent
  rw [completionEvents, hCandidates] at hEvent
  dsimp only at hEvent
  split at hEvent
  · simp [Synthesis.events] at hEvent
  · cases hEvent

end Engine

end ScriptAssist
