import ScriptAssist.Proofs.ParameterTables

/-!
# Blank cells of a table of parameters

The cells of a row are told apart by their place among those that are not blank. A blank default
value is the last cell, so the others keep their places. A blank description does not: the default
value takes its place, and is shown for it.
-/

namespace ScriptAssist.ParameterTable

def rowsOf (lines : List Text) : List Text :=
  (lines.map Text.strip).filter (!·.isEmpty)

def belowSeparator (lines : List Text) : List Text :=
  (lines.dropWhile fun line => !isSeparator (Text.strip line)).drop 1

def candidatesOf (lines : List Text) : List Candidate :=
  (rowsOf lines).filterMap rowCandidate?

theorem rowsOf_append (front back : List Text) :
    rowsOf (front ++ back) = rowsOf front ++ rowsOf back := by
  simp [rowsOf]

theorem rowsOf_cons_of_ne {line : Text} (h : Text.strip line ≠ []) (rest : List Text) :
    rowsOf (line :: rest) = Text.strip line :: rowsOf rest := by
  simp [rowsOf, h]

theorem rowsOf_cons_of_blank {line : Text} (h : Text.strip line = []) (rest : List Text) :
    rowsOf (line :: rest) = rowsOf rest := by
  simp [rowsOf, h]

theorem candidatesOf_cons {line : Text} (h : Text.strip line ≠ []) (rest : List Text) :
    candidatesOf (line :: rest) =
      (rowCandidate? (Text.strip line)).toList ++ candidatesOf rest := by
  rw [candidatesOf, rowsOf_cons_of_ne h]
  cases hFound : rowCandidate? (Text.strip line) <;> simp [hFound, candidatesOf]

theorem ne_nil_of_isSeparator {row : Text} (h : isSeparator row = true) : row ≠ [] := by
  rintro rfl
  cases h

theorem any_isSeparator_rowsOf {lines : List Text}
    (h : ∃ line ∈ lines, isSeparator (Text.strip line) = true) :
    (rowsOf lines).any isSeparator = true := by
  obtain ⟨line, hLine, hSeparator⟩ := h
  have hNe : Text.strip line ≠ [] := ne_nil_of_isSeparator hSeparator
  refine List.any_eq_true.mpr ⟨Text.strip line, ?_, hSeparator⟩
  exact List.mem_filter.mpr ⟨List.mem_map_of_mem hLine, by simpa using hNe⟩

theorem body_cons {row : Text} {rest : List Text} (h : isSeparator row = false)
    (hRest : rest.any isSeparator = true) : body (row :: rest) = body rest := by
  simp only [body, List.any_cons, h, hRest, Bool.false_or, if_true, Bool.not_false,
    List.dropWhile_cons_of_pos]

theorem body_rowsOf_append {above : List Text}
    (h : ∃ line ∈ above, isSeparator (Text.strip line) = true) (rest : List Text) :
    body (rowsOf above ++ rest) = rowsOf (belowSeparator above) ++ rest := by
  induction above with
  | nil =>
    obtain ⟨line, hLine, -⟩ := h
    cases hLine
  | cons line lines ih =>
    by_cases hHere : isSeparator (Text.strip line) = true
    · simp [rowsOf_cons_of_ne (ne_nil_of_isSeparator hHere), body, belowSeparator, hHere]
    · have hPlain : isSeparator (Text.strip line) = false := by simpa using hHere
      have hLater : ∃ other ∈ lines, isSeparator (Text.strip other) = true := by
        obtain ⟨other, hOther, hSeparator⟩ := h
        rcases List.mem_cons.mp hOther with rfl | hLines
        · exact absurd hSeparator hHere
        · exact ⟨other, hLines, hSeparator⟩
      have hBelow : belowSeparator (line :: lines) = belowSeparator lines := by
        simp [belowSeparator, hPlain]
      by_cases hBlank : Text.strip line = []
      · rw [rowsOf_cons_of_blank hBlank, ih hLater, hBelow]
      · have hAny : (rowsOf lines ++ rest).any isSeparator = true := by
          rw [List.any_append, any_isSeparator_rowsOf hLater, Bool.true_or]
        rw [rowsOf_cons_of_ne hBlank, List.cons_append, body_cons hPlain hAny, ih hLater, hBelow]

/-! ### Rows of three cells -/

/-- What a row is to be offered as: nothing without a description, and the default value only where
there is one. -/
def declared? (name description default : Text) : Option Candidate :=
  if Text.strip description = [] then none
  else some (Candidate.plain .testParameter (Text.strip name)
    (documentation (Text.strip description)
      (if Text.strip default = [] then [] else [Text.strip default]))
    "plugin parameter")

section

variable {name description default : Text}
  (hBars : ∀ cell ∈ [name, description, default], '|' ∉ cell) (hName : Text.strip name ≠ [])
include hBars hName

theorem cells_row_of_named : cells (row [name, description, default]) =
    Text.strip name ::
      ([Text.strip description, Text.strip default].filter (!·.isEmpty)) := by
  rw [cells_row hBars, List.map_cons, List.filter_cons_of_pos (by simpa using hName)]
  rfl

theorem rowCandidate?_of_aligned (h : Text.strip description = [] → Text.strip default = []) :
    rowCandidate? (row [name, description, default]) = declared? name description default := by
  rw [rowCandidate?, cells_row_of_named hBars hName, declared?]
  by_cases hDescription : Text.strip description = []
  · simp [hDescription, h hDescription]
  · by_cases hDefault : Text.strip default = [] <;> simp [hDescription, hDefault]

theorem rowCandidate?_of_shifted (hDescription : Text.strip description = [])
    (hDefault : Text.strip default ≠ []) :
    rowCandidate? (row [name, description, default]) =
      some (Candidate.plain .testParameter (Text.strip name) (Text.strip default)
        "plugin parameter") := by
  rw [rowCandidate?, cells_row_of_named hBars hName]
  simp [hDescription, hDefault, documentation]

end

/-- A row below the separator has one place among the candidates. What is offered there is what the
row declares, unless its description is blank and its default value is not: then the default value
is shown as the description. -/
theorem parameterCandidates_of_row {lines keys above below : List Text}
    {heading header line name description default : Text}
    (hSection : Section.linesOf lines heading keys = header :: (above ++ line :: below))
    (hSeparator : ∃ other ∈ above, isSeparator (Text.strip other) = true)
    (hRow : Text.strip line = row [name, description, default])
    (hBars : ∀ cell ∈ [name, description, default], '|' ∉ cell) (hName : Text.strip name ≠ []) :
    let offered := rowCandidate? (row [name, description, default])
    parameterCandidates lines heading keys =
      candidatesOf (belowSeparator above) ++ offered.toList ++ candidatesOf below ∧
    (offered = declared? name description default ↔
      (Text.strip description = [] → Text.strip default = [])) ∧
    (Text.strip description = [] → Text.strip default ≠ [] →
      offered = some (Candidate.plain .testParameter (Text.strip name) (Text.strip default)
        "plugin parameter")) := by
  intro offered
  have hNe : Text.strip line ≠ [] := by simp [hRow, row]
  have hRows : rows lines heading keys = rowsOf above ++ rowsOf (line :: below) := by
    rw [rows, hSection, List.drop_one, ← rowsOf_append]
    rfl
  refine ⟨?_, ⟨?_, rowCandidate?_of_aligned hBars hName⟩, rowCandidate?_of_shifted hBars hName⟩
  · calc parameterCandidates lines heading keys
        = candidatesOf (belowSeparator above) ++ candidatesOf (line :: below) := by
          rw [parameterCandidates, hRows, body_rowsOf_append hSeparator, List.filterMap_append]
          rfl
      _ = candidatesOf (belowSeparator above) ++ offered.toList ++ candidatesOf below := by
          rw [candidatesOf_cons hNe, hRow, List.append_assoc]
  · intro hDeclared hDescription
    by_contra hDefault
    have hShifted := rowCandidate?_of_shifted hBars hName hDescription hDefault
    rw [declared?, if_pos hDescription] at hDeclared
    cases hShifted.symm.trans hDeclared

theorem parameterCandidates_of_retries :
    let above : List Text :=
      ["| Parameter | Description | Default |", "", "|---|---|---|", "| timeout | Wait | 5 |"]
    let line : Text := "\t| retries | Attempts  |  | "
    let below : List Text := ["|---|-|", "| timeout |"]
    let header : Text := "[p]"
    let next : Text := "[q]"
    let lines := header :: (above ++ line :: below ++ [next])
    rowCandidate? (row ["retries", "Attempts ", ""]) = declared? "retries" "Attempts " "" ∧
      parameterCandidates lines "p" ["p", "q"] = [
        Candidate.plain .testParameter "timeout" "Wait  \n\n**Default Value:** `5`"
          "plugin parameter",
        Candidate.plain .testParameter "retries" "Attempts" "plugin parameter",
        Candidate.plain .testParameter "---" "-" "plugin parameter"] := by
  intro above line below header next lines
  have hSection : Section.linesOf lines "p" ["p", "q"] = header :: (above ++ line :: below) := by
    decide
  have hSeparator : ∃ other ∈ above, isSeparator (Text.strip other) = true := by decide
  have hRow : Text.strip line = row ["retries", "Attempts ", ""] := by decide
  obtain ⟨hOffered, hDeclared, -⟩ :=
    parameterCandidates_of_row hSection hSeparator hRow (by decide) (by decide)
  exact ⟨hDeclared.mpr fun _ => by decide, hOffered.trans (by decide)⟩

/-- Without a description a row is offered with its default value as one. -/
theorem default_shown_as_description :
    let lines : List Text := ["[p]", "|---|---|---|", "| timeout |  | 5000 |"]
    parameterCandidates lines "p" ["p"] =
        [Candidate.plain .testParameter "timeout" "5000" "plugin parameter"] ∧
      ¬∀ (lines keys above below : List Text) (heading header name description default : Text),
        Section.linesOf lines heading keys =
            header :: (above ++ row [name, description, default] :: below) →
        (∃ other ∈ above, isSeparator (Text.strip other) = true) →
        (∀ cell ∈ [name, description, default], '|' ∉ cell) → Text.strip name ≠ [] →
        parameterCandidates lines heading keys =
          candidatesOf (belowSeparator above) ++
            (declared? name description default).toList ++ candidatesOf below := by
  intro lines
  have hShown : parameterCandidates lines "p" ["p"] =
      [Candidate.plain .testParameter "timeout" "5000" "plugin parameter"] := by decide
  refine ⟨hShown, ?_⟩
  intro h
  have hNothing := h lines ["p"] ["|---|---|---|"] [] "p" "[p]" "timeout" "" "5000" (by decide)
    (by decide) (by decide) (by decide)
  have hNone : declared? "timeout" "" "5000" = none := by decide
  rw [hShown, hNone] at hNothing
  exact absurd hNothing (by decide)

end ScriptAssist.ParameterTable
