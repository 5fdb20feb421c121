import Mathlib.Data.Nat.Find
import ScriptAssist.Proofs.FlagCompletion

/-!
# Steps with blocks

Inside a block that a step echoes no snippets are offered. Only the first opener of a line is looked
at, and one that starts the line does not count. So the later blocks of such a line are not seen:
what is offered there is what the section has to offer.
-/

namespace ScriptAssist

namespace Text

theorem zero_eq_iff_of_starts {pattern text : Text} (h : pattern <+: text) {i : Nat} :
    0 = i ↔ pattern <+: text.drop i ∧ ∀ j < i, ¬pattern <+: text.drop j := by
  constructor
  · rintro rfl
    exact ⟨h, fun j hj => absurd hj (Nat.not_lt_zero j)⟩
  · rintro ⟨-, hBefore⟩
    by_contra hNe
    exact hBefore 0 (by omega) h

theorem indexOf?_eq_some_iff {pattern text : Text} {i : Nat} :
    indexOf? pattern text = some i ↔
      pattern <+: text.drop i ∧ ∀ j < i, ¬pattern <+: text.drop j := by
  induction text generalizing i with
  | nil =>
    cases pattern with
    | nil => exact Option.some_inj.trans (zero_eq_iff_of_starts List.nil_prefix)
    | cons c rest => simp [indexOf?]
  | cons c rest ih =>
    simp only [indexOf?, List.isPrefixOf_iff_prefix]
    by_cases hHere : pattern <+: c :: rest
    · rw [if_pos hHere, Option.some_inj]
      exact zero_eq_iff_of_starts hHere
    · rw [if_neg hHere]
      cases i with
      | zero => simp [hHere]
      | succ i =>
        simp only [Option.map_eq_some_iff, Nat.add_right_cancel_iff, exists_eq_right, ih,
          List.drop_succ_cons]
        apply and_congr_right
        intro _
        constructor
        · intro hBefore j hj
          cases j with
          | zero => exact hHere
          | succ j => exact hBefore j (Nat.lt_of_succ_lt_succ hj)
        · intro hBefore j hj
          exact hBefore (j + 1) (Nat.succ_lt_succ hj)

theorem exists_indexOf? {pattern text : Text} {i : Nat} (h : pattern <+: text.drop i) :
    ∃ j ≤ i, indexOf? pattern text = some j := by
  have hSome : ∃ j, pattern <+: text.drop j := ⟨i, h⟩
  refine ⟨Nat.find hSome, Nat.find_min' hSome h, indexOf?_eq_some_iff.mpr ?_⟩
  exact ⟨Nat.find_spec hSome, fun j => Nat.find_min hSome⟩

end Text

namespace Cursor

/-- The cursor is past an opener that does not start the line. -/
def IsInEcho (line : Text) (column : Int) : Prop :=
  ∃ p : Nat, 0 < p ∧ (p : Int) < column ∧ opener <+: line.drop p

theorem isPastBlock_iff {line : Text} {column : Int} :
    isPastBlock line column = true ↔ IsInEcho line column ∧ ¬opener <+: line := by
  rw [isPastBlock]
  constructor
  · intro h
    cases hIndex : Text.indexOf? opener line with
    | none =>
      rw [hIndex] at h
      cases h
    | some start =>
      simp only [hIndex, Bool.and_eq_true, decide_eq_true_eq] at h
      obtain ⟨hFound, hBefore⟩ := Text.indexOf?_eq_some_iff.mp hIndex
      exact ⟨⟨start, h.1, h.2, hFound⟩, hBefore 0 h.1⟩
  · rintro ⟨⟨p, hp, hColumn, hFound⟩, hStart⟩
    obtain ⟨start, hLe, hIndex⟩ := Text.exists_indexOf? hFound
    have hPos : 0 < start := by
      apply Nat.pos_of_ne_zero
      rintro rfl
      exact hStart (Text.indexOf?_eq_some_iff.mp hIndex).1
    simp only [hIndex, Bool.and_eq_true, decide_eq_true_eq]
    omega

theorem isInMethodSlot_of_opener {line : Text} (h : opener <+: line) (column : Int) :
    isInMethodSlot line column = false := by
  obtain ⟨rest, rfl⟩ := h
  have hSlot : afterMethodSlot? (Text.before (opener ++ rest) column) = none := by
    rw [Text.before]
    cases column.toNat with
    | zero => rfl
    | succ n => rfl
  rw [isInMethodSlot, hSlot]
  rfl

end Cursor

namespace Engine

variable (engine : Engine)

def sectionCandidates (lines : List Text) (line : Int) : List Candidate :=
  let keys := engine.catalog.headingKeys
  if Section.isUnder lines line engine.settings.actionsHeading keys then
    Keyed.dedupe Candidate.label engine.actionCandidates
  else if Section.isUnder lines line engine.settings.assertionsHeading keys then
    Keyed.dedupe Candidate.label engine.assertionCandidates
  else []

section

variable {text current : Text} {line : Nat} (hLine : (Text.lines text)[line]? = some current)
include hLine

theorem mode_action (column : Int) : engine.mode ⟨some text, line, column, .action⟩ =
    .ok (engine.sectionMode (Text.lines text) line current column) := by
  have hInside : ¬(line : Int) < 0 := by omega
  simp [mode, hInside, hLine, modeAt]

theorem complete_of_isPastBlock {column : Int} (h : Cursor.isPastBlock current column = true) :
    engine.complete ⟨some text, line, column, .action⟩ = [] := by
  have hMode := engine.mode_action hLine column
  rw [sectionMode, if_pos h] at hMode
  exact complete_of_candidates hMode rfl

theorem complete_of_opener (h : opener <+: current) (column : Int) :
    engine.complete ⟨some text, line, column, .action⟩ =
      engine.sectionCandidates (Text.lines text) line := by
  have hPast : ¬Cursor.isPastBlock current column = true := by
    rw [Cursor.isPastBlock_iff]
    rintro ⟨-, hStart⟩
    exact hStart h
  have hMode := engine.mode_action hLine column
  simp only [sectionMode, if_neg hPast, Cursor.isInMethodSlot_of_opener h] at hMode
  simp only [sectionCandidates]
  split
  · rename_i hActions
    rw [if_pos hActions] at hMode
    exact complete_of_candidates hMode rfl
  · rename_i hActions
    rw [if_neg hActions] at hMode
    split
    · rename_i hAssertions
      rw [if_pos hAssertions] at hMode
      exact complete_of_candidates hMode rfl
    · rename_i hAssertions
      rw [if_neg hAssertions] at hMode
      exact complete_of_candidates hMode rfl

end

/-- Past an opener inside of a line nothing is offered, unless the line starts with an opener too:
then the section decides. -/
theorem complete_in_echo {text current : Text} {line : Nat} {column : Int}
    (hLine : (Text.lines text)[line]? = some current) (hEcho : Cursor.IsInEcho current column) :
    let query : Query := ⟨some text, line, column, .action⟩
    (engine.complete query = [] ↔
      (opener <+: current → engine.sectionCandidates (Text.lines text) line = [])) ∧
    (opener <+: current →
      engine.complete query = engine.sectionCandidates (Text.lines text) line) := by
  intro query
  by_cases hStart : opener <+: current
  · have hSection : engine.complete query = engine.sectionCandidates (Text.lines text) line :=
      engine.complete_of_opener hLine hStart column
    refine ⟨?_, fun _ => hSection⟩
    rw [hSection]
    exact ⟨fun h _ => h, fun h => h hStart⟩
  · have hNothing : engine.complete query = [] :=
      engine.complete_of_isPastBlock hLine (Cursor.isPastBlock_iff.mpr ⟨hEcho, hStart⟩)
    exact ⟨⟨fun _ h => absurd h hStart, fun _ => hNothing⟩, fun h => absurd h hStart⟩

theorem complete_in_echo_of_two_blocks :
    let click : Action := { key := "Click", literal := "click", takesArgument := true }
    let engine : Engine := {
      catalog := { actions := [click], headings := [⟨"test-actions", [], []⟩] } }
    let step : Text := "1. click " ++ opener ++ " --a " ++ opener ++ "date" ++ closer ++ " "
    let query : Query :=
      ⟨some ("[test-actions]\n".toList ++ step), 1, 24, .action⟩
    (Text.lines ("[test-actions]\n".toList ++ step))[1]? = some step ∧
      engine.complete query = [] := by
  intro click engine step query
  have hLine : (Text.lines ("[test-actions]\n".toList ++ step))[1]? = some step := by decide
  have hEcho : Cursor.IsInEcho step 24 := ⟨17, by decide, by decide, by decide⟩
  have hStart : ¬opener <+: step := by decide
  have hComplete := (engine.complete_in_echo hLine hEcho).1
  exact ⟨hLine, hComplete.mpr fun h => absurd h hStart⟩

/-- On a line that starts with a block the next block is not seen. -/
theorem snippets_in_second_block :
    let click : Action := { key := "Click", literal := "click", takesArgument := true }
    let engine : Engine := {
      catalog := { actions := [click], headings := [⟨"test-actions", [], []⟩] } }
    let step : Text := opener ++ "date" ++ closer ++ " click " ++ opener ++ " "
    let query : Query := ⟨some ("[test-actions]\n".toList ++ step), 1, 19, .action⟩
    (engine.complete query).map Candidate.label = ["click w/ argument".toList] ∧
      ¬∀ (engine : Engine) (text current : Text) (line : Nat) (column : Int),
        (Text.lines text)[line]? = some current → Cursor.IsInEcho current column →
        engine.complete ⟨some text, line, column, .action⟩ = [] := by
  intro click engine step query
  have hOffered : (engine.complete query).map Candidate.label = ["click w/ argument".toList] := by
    decide
  refine ⟨hOffered, ?_⟩
  intro h
  have hNothing : engine.complete query = [] :=
    h engine _ step 1 19 (by decide) ⟨16, by decide, by decide, by decide⟩
  rw [hNothing] at hOffered
  cases hOffered

end Engine

end ScriptAssist
