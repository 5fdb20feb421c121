import ScriptAssist.Proofs.FlagCompletion
import ScriptAssist.Proofs.LastOfEach
import ScriptAssist.Proofs.LineBreaks
import ScriptAssist.Proofs.SectionRun

/-!
# Parameters read back from their tables

A script that declares its parameters by two tables is written out and read again. The lines of a
table begin and end with a bar, so none of them opens a section; the bars of a row have spaces after
them, so no row is taken for the rule below the head, whatever its cells are.
-/

namespace ScriptAssist

namespace Text

def pad (text : Text) : Text :=
  ' ' :: text ++ [' ']

theorem not_mem_pad {text : Text} {c : Char} (hSpace : c ≠ ' ') (h : c ∉ text) : c ∉ pad text := by
  simp [pad, hSpace, h]

theorem strip_pad (text : Text) : strip (pad text) = strip text := by
  have hSpace : isBlank ' ' = true := by decide
  rw [strip, strip, pad, List.cons_append, List.dropWhile_cons_of_pos hSpace,
    List.dropWhile_append]
  split
  · rename_i hBlank
    rw [List.isEmpty_iff.mp hBlank, List.dropWhile_cons_of_pos hSpace]
    rfl
  · rw [dropEndWhile, List.reverse_append, List.reverse_singleton, List.singleton_append,
      List.dropWhile_cons_of_pos hSpace, dropEndWhile]

end Text

namespace ParameterTable

def row (cells : List Text) : Text :=
  cells.flatMap (fun cell => '|' :: Text.pad cell) ++ ['|']

def rule (columns : Nat) : Text :=
  (List.replicate columns ['|', '-', '-', '-']).flatten ++ ['|']

/-- What the lines of a table have in common. -/
structure IsTableLine (line : Text) : Prop where
  first : line.head? = some '|'
  last : line.getLast? = some '|'
  unbroken : '\n' ∉ line

theorem isTableLine_row {cells : List Text} (h : ∀ cell ∈ cells, '\n' ∉ cell) :
    IsTableLine (row cells) where
  first := by cases cells <;> rfl
  last := by simp [row]
  unbroken := by
    intro hMem
    rcases List.mem_append.mp hMem with hCells | hBar
    · obtain ⟨cell, hCell, hChar⟩ := List.mem_flatMap.mp hCells
      rcases List.mem_cons.mp hChar with hBar | hPad
      · cases hBar
      · exact Text.not_mem_pad (by decide) (h cell hCell) hPad
    · cases List.mem_singleton.mp hBar

theorem isTableLine_rule (columns : Nat) : IsTableLine (rule columns) where
  first := by cases columns <;> rfl
  last := by simp [rule]
  unbroken := by simp [rule]

namespace IsTableLine

variable {line : Text} (h : IsTableLine line)
include h

theorem ne_nil : line ≠ [] := by
  rintro rfl
  cases h.first

theorem strip_eq : Text.strip line = line := by
  apply Text.strip_eq_self
  · intro c hc
    cases hc.symm.trans h.first
    decide
  · intro c hc
    cases hc.symm.trans h.last
    decide

theorem not_opens (key : Text) : Section.opens key line = false := by
  cases line with
  | nil => rfl
  | cons c rest =>
    cases h.first
    rfl

theorem not_opensAny (keys : List Text) : Section.opensAny keys line = false := by
  simp [Section.opensAny, h.not_opens]

theorem dropEndWhile_return : Text.dropEndWhile (· == '\r') line = line := by
  apply Text.dropEndWhile_eq_self
  intro c hc
  cases hc.symm.trans h.last
  rfl

end IsTableLine

/-! ### Cells and rules -/

theorem splitOn_row {cells : List Text} (h : ∀ cell ∈ cells, '|' ∉ cell) :
    Text.splitOn '|' (row cells) = [] :: (cells.map Text.pad ++ [[]]) := by
  have hRow : row cells = ['|'].intercalate ([] :: (cells.map Text.pad ++ [[]])) := by
    rw [Text.intercalate_cons]
    simp [row, List.flatMap_map]
  rw [hRow, Text.splitOn_eq_list]
  apply List.splitOn_intercalate
  · intro part hPart
    simp only [List.mem_cons, List.mem_append, List.mem_map, List.not_mem_nil, or_false] at hPart
    rcases hPart with rfl | ⟨cell, hCell, rfl⟩ | rfl
    · exact List.not_mem_nil
    · exact Text.not_mem_pad (by decide) (h cell hCell)
    · exact List.not_mem_nil
  · simp

/-- The cells of a row are read without the blanks around them, and blank ones are left out. -/
theorem cells_row {texts : List Text} (h : ∀ text ∈ texts, '|' ∉ text) :
    cells (row texts) = (texts.map Text.strip).filter (!·.isEmpty) := by
  have hBlank : Text.strip [] = [] := rfl
  have hPad : Text.strip ∘ Text.pad = Text.strip := funext Text.strip_pad
  simp [cells, splitOn_row h, hBlank, hPad]

theorem startsWithRule_cons {c : Char} (h : c ≠ '|') (rest : Text) :
    startsWithRule (c :: rest) = false := by
  rw [startsWithRule.eq_def]
  split
  · rename_i hCons
    cases hCons
    exact absurd rfl h
  · rfl

theorem isSeparator_append {front : Text} (h : '|' ∉ front) (rest : Text) :
    isSeparator (front ++ rest) = isSeparator rest := by
  induction front with
  | nil => rfl
  | cons c front ih =>
    rw [List.mem_cons, not_or] at h
    rw [List.cons_append, isSeparator, startsWithRule_cons (Ne.symm h.1), ih h.2, Bool.false_or]

theorem isSeparator_row {cells : List Text} (h : ∀ cell ∈ cells, '|' ∉ cell) :
    isSeparator (row cells) = false := by
  induction cells with
  | nil => rfl
  | cons cell rest ih =>
    have hRow : row (cell :: rest) = '|' :: (Text.pad cell ++ row rest) := by simp [row]
    have hCell : '|' ∉ Text.pad cell :=
      Text.not_mem_pad (by decide) (h cell List.mem_cons_self)
    have hSpace : startsWithRule ('|' :: (Text.pad cell ++ row rest)) = false := rfl
    rw [hRow, isSeparator, hSpace, isSeparator_append hCell,
      ih fun other hOther => h other (List.mem_cons_of_mem _ hOther), Bool.false_or]

theorem isSeparator_rule {columns : Nat} (h : 0 < columns) : isSeparator (rule columns) = true := by
  rcases columns with _ | _ | columns
  · cases h
  · rfl
  · rfl

theorem columnNames_table {head line : Text} (hHead : isSeparator head = false)
    (hLine : isSeparator line = true) (rest : List Text) :
    columnNames (head :: line :: rest) = cells head := by
  simp [columnNames, hHead, hLine]

theorem body_table {head line : Text} (hHead : isSeparator head = false)
    (hLine : isSeparator line = true) (rest : List Text) : body (head :: line :: rest) = rest := by
  simp [body, hHead, hLine]

theorem rows_lines {heading : Text} {keys : List Text} (cut : Section.Cut heading keys)
    (h : ∀ line ∈ cut.body, IsTableLine line) : rows cut.lines heading keys = cut.body := by
  have hStrip : cut.body.map Text.strip = cut.body := by
    calc cut.body.map Text.strip
        = cut.body.map id := List.map_congr_left fun line hLine => (h line hLine).strip_eq
      _ = cut.body := List.map_id _
  rw [rows, cut.linesOf_lines, List.drop_one, List.tail_cons, hStrip, List.filter_eq_self]
  intro line hLine
  simpa using (h line hLine).ne_nil

/-! ### What is declared -/

/-- A text that a cell can hold: on one line, without bars, and without blanks around it. -/
structure Cell where
  text : Text
  ne_nil : text ≠ []
  stripped : Text.strip text = text
  noBar : '|' ∉ text
  unbroken : '\n' ∉ text

structure Parameter where
  name : Cell
  description : Cell
  default : Option Cell

/-- The columns of the test data with some rows of data, and the parameters. -/
structure Declarations where
  columns : List Cell
  records : List (List Cell)
  parameters : List Parameter

def Parameter.documentation (parameter : Parameter) : Text :=
  match parameter.default with
  | none => parameter.description.text
  | some value => parameter.description.text ++ "  \n\n**Default Value:** `" ++ value.text ++ "`"

def Parameter.candidate (parameter : Parameter) : Candidate :=
  Candidate.plain .testParameter parameter.name.text parameter.documentation "plugin parameter"

def Cell.candidate (column : Cell) : Candidate :=
  Candidate.plain .testParameter column.text [] "dynamic parameter"

def rowOf (cells : List Cell) : Text :=
  row (cells.map Cell.text)

def Parameter.row (parameter : Parameter) : Text :=
  rowOf (parameter.name :: parameter.description :: parameter.default.toList)

def header (key : Text) : Text :=
  '[' :: key ++ [']']

namespace Declarations

def dataTable (declared : Declarations) (ruled : Nat) : List Text :=
  rowOf declared.columns :: rule ruled :: declared.records.map rowOf

def parameterTable (declared : Declarations) : List Text :=
  row ["Parameter", "Description", "Default"] :: rule 3 :: declared.parameters.map Parameter.row

def lines (declared : Declarations) (ruled : Nat) (data parameters : Text) : List Text :=
  header data :: (declared.dataTable ruled ++ header parameters :: declared.parameterTable)

def text (declared : Declarations) (ruled : Nat) (data parameters : Text) : Text :=
  ['\n'].intercalate (declared.lines ruled data parameters)

def candidates (declared : Declarations) : List Candidate :=
  declared.columns.map Cell.candidate ++ declared.parameters.map Parameter.candidate

end Declarations

theorem isTableLine_rowOf (cells : List Cell) : IsTableLine (rowOf cells) :=
  isTableLine_row (List.forall_mem_map.mpr fun cell _ => cell.unbroken)

theorem isSeparator_rowOf (cells : List Cell) : isSeparator (rowOf cells) = false :=
  isSeparator_row (List.forall_mem_map.mpr fun cell _ => cell.noBar)

theorem cells_rowOf (cells : List Cell) :
    ParameterTable.cells (rowOf cells) = cells.map Cell.text := by
  have hStrip : (cells.map Cell.text).map Text.strip = cells.map Cell.text := by
    rw [List.map_map]
    exact List.map_congr_left fun cell _ => cell.stripped
  rw [rowOf, cells_row (List.forall_mem_map.mpr fun cell _ => cell.noBar), hStrip,
    List.filter_eq_self, List.forall_mem_map]
  intro cell _
  simpa using cell.ne_nil

theorem rowCandidate?_row (parameter : Parameter) :
    rowCandidate? parameter.row = some parameter.candidate := by
  rw [rowCandidate?, Parameter.row, cells_rowOf, Parameter.candidate, Parameter.documentation]
  cases parameter.default <;> rfl

/-! ### The two sections -/

/-- The headings of the two tables: different keys that are known and that a line can open. -/
structure TableHeadings (keys : List Text) (data parameters : Text) : Prop where
  ne : data ≠ parameters
  data_known : data ∈ keys
  parameters_known : parameters ∈ keys
  data_ne_nil : data ≠ []
  parameters_ne_nil : parameters ≠ []
  data_closed : ']' ∉ data
  parameters_closed : ']' ∉ parameters

theorem opens_header (key : Text) : Section.opens key (header key) = true := by
  simp [Section.opens, header]

namespace Declarations

variable (declared : Declarations) {ruled : Nat} {keys : List Text} {data parameters : Text}

theorem isTableLine_of_mem_dataTable {line : Text} (h : line ∈ declared.dataTable ruled) :
    IsTableLine line := by
  simp only [dataTable, List.mem_cons, List.mem_map] at h
  rcases h with rfl | rfl | ⟨cells, -, rfl⟩
  · exact isTableLine_rowOf _
  · exact isTableLine_rule _
  · exact isTableLine_rowOf _

theorem isTableLine_of_mem_parameterTable {line : Text} (h : line ∈ declared.parameterTable) :
    IsTableLine line := by
  simp only [parameterTable, List.mem_cons, List.mem_map] at h
  rcases h with rfl | rfl | ⟨parameter, -, rfl⟩
  · exact isTableLine_row (by decide)
  · exact isTableLine_rule _
  · exact isTableLine_rowOf _

def dataCut (h : TableHeadings keys data parameters) (ruled : Nat) : Section.Cut data keys where
  above := []
  header := header data
  body := declared.dataTable ruled
  below := header parameters :: declared.parameterTable
  above_opens := by simp
  header_opens := opens_header data
  body_opens line hLine := (declared.isTableLine_of_mem_dataTable hLine).not_opensAny _
  below_opens := by
    rintro _ ⟨⟩
    refine List.any_eq_true.mpr ⟨parameters, ?_, ?_⟩
    · exact List.mem_filter.mpr ⟨h.parameters_known, by simpa using h.ne.symm⟩
    · simp [h.parameters_ne_nil, opens_header]

def parametersCut (h : TableHeadings keys data parameters) (ruled : Nat) :
    Section.Cut parameters keys where
  above := header data :: declared.dataTable ruled
  header := header parameters
  body := declared.parameterTable
  below := []
  above_opens := by
    intro line hLine
    rcases List.mem_cons.mp hLine with rfl | hTable
    · rw [Bool.eq_false_iff]
      intro hOpens
      exact h.ne (Section.eq_of_opens h.data_closed h.parameters_closed (opens_header data) hOpens)
    · exact (declared.isTableLine_of_mem_dataTable hTable).not_opens _
  header_opens := opens_header parameters
  body_opens line hLine := (declared.isTableLine_of_mem_parameterTable hLine).not_opensAny _
  below_opens := by simp

theorem dataCandidates_lines (h : TableHeadings keys data parameters) (hRuled : 0 < ruled) :
    dataCandidates (declared.lines ruled data parameters) data keys =
      declared.columns.map Cell.candidate := by
  have hRows : rows (declared.lines ruled data parameters) data keys = declared.dataTable ruled :=
    rows_lines (declared.dataCut h ruled) fun line => declared.isTableLine_of_mem_dataTable
  rw [dataCandidates, hRows, dataTable,
    columnNames_table (isSeparator_rowOf _) (isSeparator_rule hRuled), cells_rowOf, List.map_map]
  rfl

theorem parameterCandidates_lines (h : TableHeadings keys data parameters) :
    parameterCandidates (declared.lines ruled data parameters) parameters keys =
      declared.parameters.map Parameter.candidate := by
  have hLines : declared.lines ruled data parameters = (declared.parametersCut h ruled).lines := by
    simp [lines, parametersCut, Section.Cut.lines]
  have hRows : rows (declared.lines ruled data parameters) parameters keys =
      declared.parameterTable := by
    rw [hLines]
    exact rows_lines (declared.parametersCut h ruled) fun line =>
      declared.isTableLine_of_mem_parameterTable
  have hHead : isSeparator (row ["Parameter", "Description", "Default"]) = false := by decide
  rw [parameterCandidates, hRows, parameterTable,
    body_table hHead (isSeparator_rule (by decide)), List.filterMap_map]
  calc declared.parameters.filterMap (rowCandidate? ∘ Parameter.row)
      = declared.parameters.filterMap (some ∘ Parameter.candidate) :=
        List.filterMap_congr fun parameter _ => rowCandidate?_row parameter
    _ = declared.parameters.map Parameter.candidate := by rw [List.filterMap_eq_map]

theorem lines_text (hData : '\n' ∉ data) (hParameters : '\n' ∉ parameters) :
    Text.lines (declared.text ruled data parameters) = declared.lines ruled data parameters := by
  have hHeader : ∀ key : Text, '\n' ∉ key → '\n' ∉ header key ∧
      Text.dropEndWhile (· == '\r') (header key) = header key := by
    intro key hKey
    have hLast : (header key).getLast? = some ']' := List.getLast?_concat
    refine ⟨by simp [header, hKey], Text.dropEndWhile_eq_self ?_⟩
    intro c hc
    cases hc.symm.trans hLast
    rfl
  have hLines : ∀ line ∈ declared.lines ruled data parameters, '\n' ∉ line ∧
      Text.dropEndWhile (· == '\r') line = line := by
    intro line hLine
    simp only [lines, List.mem_cons, List.mem_append] at hLine
    rcases hLine with rfl | hTable | rfl | hTable
    · exact hHeader data hData
    · have hBars := declared.isTableLine_of_mem_dataTable hTable
      exact ⟨hBars.unbroken, hBars.dropEndWhile_return⟩
    · exact hHeader parameters hParameters
    · have hBars := declared.isTableLine_of_mem_parameterTable hTable
      exact ⟨hBars.unbroken, hBars.dropEndWhile_return⟩
  exact Text.lines_intercalate (fun line hLine => (hLines line hLine).1)
    (fun line hLine => (hLines line hLine).2) (by simp [lines])

end Declarations

end ParameterTable

namespace Engine

open ParameterTable (Cell Declarations TableHeadings)

theorem complete_testParameter (engine : Engine) {text : Text} {line : Nat}
    (h : line < (Text.lines text).length) (column : Int) :
    engine.complete ⟨some text, line, column, .testParameter⟩ =
      Keyed.lastOfEach Candidate.label (engine.testParameterCandidates text) := by
  have hMode : engine.mode ⟨some text, line, column, .testParameter⟩ = .ok .testParameters := by
    simp [mode, List.getElem?_eq_getElem h, modeAt]
  rw [complete_of_candidates hMode rfl, Keyed.dedupe_eq_lastOfEach]
  rfl

def scriptOf (engine : Engine) (declared : Declarations) (ruled : Nat) : Text :=
  declared.text ruled engine.settings.dataHeading engine.settings.parametersHeading

def HasTableHeadings (engine : Engine) : Prop :=
  TableHeadings engine.catalog.headingKeys engine.settings.dataHeading
    engine.settings.parametersHeading

/-- What the tables of a script declare is offered on each of its lines: one candidate for every
name, in the order in which the names first come up, and of those with one name the last. -/
theorem complete_declared_parameters (engine : Engine) (declared : Declarations) {ruled : Nat}
    (hRuled : 0 < ruled) (h : engine.HasTableHeadings)
    (hData : '\n' ∉ engine.settings.dataHeading)
    (hParameters : '\n' ∉ engine.settings.parametersHeading) {line : Nat}
    (hLine : line < (Text.lines (engine.scriptOf declared ruled)).length) (column : Int) :
    engine.complete ⟨some (engine.scriptOf declared ruled), line, column, .testParameter⟩ =
      Keyed.lastOfEach Candidate.label declared.candidates := by
  rw [engine.complete_testParameter hLine, testParameterCandidates, scriptOf,
    declared.lines_text hData hParameters, declared.dataCandidates_lines h hRuled,
    declared.parameterCandidates_lines h]
  rfl

theorem complete_declared_parameters_of_dashes :
    let user : Cell := ⟨"user", by decide, by decide, by decide, by decide⟩
    let dashes : Cell := ⟨"---", by decide, by decide, by decide, by decide⟩
    let opening : Cell := ⟨"[p] -", by decide, by decide, by decide, by decide⟩
    let declared : Declarations := {
      columns := [user, dashes]
      records := [[opening]]
      parameters := [⟨opening, dashes, none⟩, ⟨user, opening, some dashes⟩] }
    let engine : Engine := {
      catalog := { headings := [⟨"p", [], []⟩, ⟨"[p", [], []⟩] }
      settings := { dataHeading := "[p", parametersHeading := "p" } }
    engine.HasTableHeadings ∧
      declared.lines 2 "[p" "p" =
        ["[[p]", "| user | --- |", "|---|---|", "| [p] - |", "[p]",
          "| Parameter | Description | Default |", "|---|---|---|", "| [p] - | --- |",
          "| user | [p] - | --- |"].map String.toList ∧
      engine.complete ⟨some (engine.scriptOf declared 2), 4, 0, .testParameter⟩ =
        [Candidate.plain .testParameter "user" "[p] -  \n\n**Default Value:** `---`"
            "plugin parameter",
          Candidate.plain .testParameter "---" "" "dynamic parameter",
          Candidate.plain .testParameter "[p] -" "---" "plugin parameter"] := by
  intro user dashes opening declared engine
  have hHeadings : engine.HasTableHeadings := by constructor <;> decide
  have hLine : 4 < (Text.lines (engine.scriptOf declared 2)).length := by decide
  have hOffered := complete_declared_parameters engine declared (by decide) hHeadings (by decide)
    (by decide) hLine 0
  exact ⟨hHeadings, by decide, hOffered.trans (by decide)⟩

/-- A heading with a line break in it opens no section, and the columns of its table are not
offered. -/
theorem broken_heading_hides_columns :
    ¬∀ (engine : Engine) (declared : Declarations) (ruled line : Nat) (column : Int),
      declared.columns ≠ [] → 0 < ruled → engine.HasTableHeadings →
      line < (Text.lines (engine.scriptOf declared ruled)).length →
      engine.complete ⟨some (engine.scriptOf declared ruled), line, column, .testParameter⟩ =
        Keyed.lastOfEach Candidate.label declared.candidates := by
  intro h
  let user : Cell := ⟨"user", by decide, by decide, by decide, by decide⟩
  let password : Cell := ⟨"password", by decide, by decide, by decide, by decide⟩
  let declared : Declarations := ⟨[user, password], [], []⟩
  let engine : Engine := {
    catalog := { headings := [⟨"a\nb", [], []⟩, ⟨"p", [], []⟩] }
    settings := { dataHeading := "a\nb", parametersHeading := "p" } }
  have hHeadings : engine.HasTableHeadings := by constructor <;> decide
  have hOffered := h engine declared 2 0 0 (by decide) (by decide) hHeadings (by decide)
  have hNothing :
      engine.complete ⟨some (engine.scriptOf declared 2), 0, 0, .testParameter⟩ = [] := by decide
  have hColumns : Keyed.lastOfEach Candidate.label declared.candidates ≠ [] := by decide
  exact hColumns (hOffered.symm.trans hNothing)

end Engine

end ScriptAssist
