import ScriptAssist.Engine.Completion
import ScriptAssist.Proofs.ActionResolution
import ScriptAssist.Proofs.ArgumentBlock
import ScriptAssist.Proofs.CursorLine

/-!
# Flags of an action in its block

A step of a script has a number, the words of an action and a block. In such a line the words are
the first literal, whatever other actions there are, and the block is the first one; so the flags of
that action are offered right after a flag mark, inside the block or after a blank.
-/

namespace ScriptAssist

open LiteralSearch (Found IsFirst StandsAt)

/-- A catalog as it is usually written: keys and aliases in the usual form, no key twice, and each
literal made from its key. -/
structure Catalog.IsCanonical (catalog : Catalog) : Prop where
  keys : ∀ action ∈ catalog.actions, IsPascal action.key
  aliases : ∀ action ∈ catalog.actions, ∀ key ∈ action.aliases.getD [], IsPascal key
  distinct : (catalog.actions.map Action.key).Nodup
  literals : ∀ action ∈ catalog.actions, action.literal = literalOfKey action.key

theorem Catalog.IsCanonical.exists_key {catalog : Catalog} (h : catalog.IsCanonical)
    {action : Action} (hAction : action ∈ catalog.actions) {literal : Text}
    (hLiteral : literal ∈ action.literals) : ∃ key, IsPascal key ∧ literal = literalOfKey key := by
  rcases List.mem_cons.mp hLiteral with rfl | hAlias
  · exact ⟨action.key, h.keys action hAction, h.literals action hAction⟩
  · obtain ⟨key, hKey, rfl⟩ := List.mem_map.mp hAlias
    exact ⟨key, h.aliases action hAction key hKey, rfl⟩

theorem noBraces_literalOfKey {key : Text} (h : IsPascal key) : NoBraces (literalOfKey key) :=
  noBraces_of_forall (fun _ hc => mem_literalOfKey h hc) (by decide) (by decide)

namespace LiteralSearch

theorem charBefore_append (front rest : Text) :
    charBefore none (front ++ rest) front.length = front.getLast? := by
  rcases List.eq_nil_or_concat front with rfl | ⟨init, c, rfl⟩
  · rfl
  · simp [charBefore]

theorem length_le_of_starts {key literal rest : Text} (hKey : IsPascal key)
    (hStarts : literalOfKey key <+: literal ++ ' ' :: '{' :: rest) :
    (literalOfKey key).length ≤ literal.length := by
  by_contra hLonger
  obtain ⟨more, hMore⟩ : literal <+: literalOfKey key :=
    List.prefix_of_prefix_length_le (List.prefix_append _ _) hStarts (by omega)
  rw [← hMore, List.prefix_append_right_inj] at hStarts
  cases more with
  | nil => simp [← hMore] at hLonger
  | cons c more =>
    obtain ⟨rfl, hBrace⟩ := List.cons_prefix_cons.mp hStarts
    cases more with
    | nil =>
      have hLast : (literalOfKey key).getLast? = some ' ' := by simp [← hMore]
      exact absurd (isBlank_of_getLast?_literalOfKey hKey.isKey hLast) (by decide)
    | cons d more =>
      obtain ⟨rfl, _⟩ := List.cons_prefix_cons.mp hBrace
      exact (noBraces_literalOfKey hKey).1 (by simp [← hMore])

theorem isFirst_of_words {literals : List Text}
    (hWords : ∀ other ∈ literals, ∃ key, IsPascal key ∧ other = literalOfKey key)
    {literal : Text} (hMem : literal ∈ literals) {front : Text}
    (hFront : ∀ c ∈ front, c.isLower = false) (hQuote : front.getLast? ≠ some '\x27')
    (rest : Text) :
    IsFirst literals none (front ++ (literal ++ ' ' :: '{' :: rest))
      ⟨front.length, literal⟩ where
  declared := hMem
  nonempty := by
    obtain ⟨key, hKey, rfl⟩ := hWords literal hMem
    obtain ⟨c, more, hCons, _⟩ := exists_isLower_literalOfKey hKey.isKey
    simp [hCons]
  stands := ⟨by rwa [charBefore_append], by simp⟩
  leftmost := by
    intro other hOther _ start hStart hStands
    obtain ⟨key, hKey, rfl⟩ := hWords other hOther
    obtain ⟨c, more, hCons, hLower⟩ := exists_isLower_literalOfKey hKey.isKey
    have hHead := hStands.starts
    rw [hCons, List.drop_append_of_le_length (Nat.le_of_lt hStart),
      List.drop_eq_getElem_cons hStart, List.cons_append, List.cons_prefix_cons] at hHead
    have hInFront := hFront front[start] (List.getElem_mem hStart)
    rw [← hHead.1, hLower] at hInFront
    cases hInFront
  longest := by
    intro other hOther hStands
    obtain ⟨key, hKey, rfl⟩ := hWords other hOther
    have hStarts := hStands.starts
    rw [List.drop_left] at hStarts
    exact length_le_of_starts hKey hStarts

end LiteralSearch

theorem isLower_of_isDecimalDigit {c : Char} (h : Text.isDecimalDigit c) : c.isLower = false := by
  by_contra hLower
  have hAscii : c.toNat < 128 :=
    toNat_lt_of_isAlphanum (isAlphanum_of_isLower ((Bool.not_eq_false _).mp hLower))
  have hDigit : c.isDigit := by
    simpa [Text.isDecimalDigit, Text.digitValue?, hAscii] using h
  exact hLower (Text.forall_ascii (P := fun c => c.isDigit → c.isLower = false) (by decide)
    hAscii hDigit)

/-- A step whose block holds a flag mark, with a blank at the start of the block. -/
structure MarkedStep where
  number : Text
  literal : Text
  blanks : Text
  before : Text
  after : Text
  digits : ∀ c ∈ number, Text.isDecimalDigit c
  nonempty : blanks ≠ []
  blank : ∀ c ∈ blanks, Text.isBlank c
  noBraces_before : NoBraces before
  noBraces_after : NoBraces after

namespace MarkedStep

def inside (step : MarkedStep) : Text :=
  step.blanks ++ step.before

def label (step : MarkedStep) : Text :=
  step.number ++ ['.', ' ']

def upToMark (step : MarkedStep) : Text :=
  step.label ++ (step.literal ++ ' ' :: (opener ++ (step.inside ++ Cursor.flagMark)))

def line (step : MarkedStep) : Text :=
  step.upToMark ++ step.after ++ closer

/-- Something is left in the block after the mark, or a blank is before it. -/
def ShowsFlags (step : MarkedStep) : Prop :=
  step.after ≠ [] ∨ ∃ c, step.inside.getLast? = some c ∧ Text.isBlank c

theorem inside_eq_cons (step : MarkedStep) :
    ∃ c rest, Text.isBlank c ∧ step.inside = c :: rest := by
  obtain ⟨c, rest, hBlanks⟩ := List.exists_cons_of_ne_nil step.nonempty
  exact ⟨c, rest ++ step.before, step.blank c (by simp [hBlanks]), by simp [inside, hBlanks]⟩

theorem noBraces_inside (step : MarkedStep) : NoBraces step.inside :=
  (noBraces_of_forall step.blank (by decide) (by decide)).append step.noBraces_before

theorem noBraces_label (step : MarkedStep) : NoBraces step.label :=
  (noBraces_of_forall step.digits (by decide) (by decide)).append (by decide)

theorem isLower_label (step : MarkedStep) : ∀ c ∈ step.label, c.isLower = false := by
  intro c hc
  rcases List.mem_append.mp hc with hDigit | hPoint
  · exact isLower_of_isDecimalDigit (step.digits c hDigit)
  · simp only [List.mem_cons, List.not_mem_nil, or_false] at hPoint
    rcases hPoint with rfl | rfl <;> decide

theorem before_mark (step : MarkedStep) :
    Text.before step.line step.upToMark.length = step.upToMark := by
  rw [Text.before, Int.toNat_natCast, line, List.append_assoc, List.take_left]

theorem macroAt?_eq_none (step : MarkedStep) (engine : Engine) :
    engine.macroAt? step.line step.upToMark.length = none := by
  obtain ⟨c, rest, hBlank, hInside⟩ := step.inside_eq_cons
  have hBefore : Text.before step.line step.upToMark.length =
      (step.label ++ (step.literal ++ [' '])) ++ (opener ++ c :: (rest ++ Cursor.flagMark)) := by
    rw [before_mark]
    simp [upToMark, hInside]
  have hNoBraces : NoBraces (c :: (rest ++ Cursor.flagMark)) := by
    rw [← List.cons_append, ← hInside]
    exact step.noBraces_inside.append (by decide)
  rw [Engine.macroAt?, Cursor.macroName?_eq_none hBefore hBlank hNoBraces]
  split <;> rfl

theorem isAtFlagInBlock_iff (step : MarkedStep) (hLiteral : NoBraces step.literal) (start : Nat) :
    Cursor.isAtFlagInBlock ⟨step.line, step.upToMark.length, start⟩ = true ↔ step.after ≠ [] := by
  obtain ⟨c, rest, hBlank, hInside⟩ := step.inside_eq_cons
  have hFront : NoBraces (step.label ++ (step.literal ++ [' '])) :=
    step.noBraces_label.append (hLiteral.append (by decide))
  apply Cursor.isAtFlagInBlock_iff hFront (hInside ▸ step.noBraces_inside) step.noBraces_after
    hBlank
  · simp [line, upToMark, hInside]
  · simp [upToMark, hInside]

theorem followsFlagMark_iff (step : MarkedStep) (hNewline : '\n' ∉ step.line) :
    Cursor.followsFlagMark step.line step.upToMark.length = true ↔
      ∃ c, step.inside.getLast? = some c ∧ Text.isBlank c := by
  obtain ⟨c, rest, _, hInside⟩ := step.inside_eq_cons
  let front := step.label ++ (step.literal ++ ' ' :: (opener ++ step.inside))
  have hBefore : Text.before step.line step.upToMark.length = front ++ Cursor.flagMark := by
    rw [before_mark]
    simp [upToMark, front]
  have hFront : '\n' ∉ front := by
    intro hMem
    apply hNewline
    rw [line, ← before_mark, hBefore]
    simp [hMem]
  have hLast : front.getLast? = step.inside.getLast? := by
    simp [front, hInside, List.getLast?_cons]
  rw [Cursor.followsFlagMark_iff hBefore (by simp [front]) hFront, hLast]

end MarkedStep

namespace Engine

variable {engine : Engine}

theorem logicalLine_of_not_marked {text current : Text} {above below : List Text}
    (hLines : Text.lines text = above ++ current :: below)
    (hAbove : ∀ line, above.getLast? = some line →
      ¬ EndsWithMark engine.settings.continuationMarker line)
    {column : Nat} (hColumn : column ≤ current.length) :
    engine.logicalLine (Text.lines text) above.length column =
      .ok ⟨current, column, above.length⟩ := by
  have hContinues : ∀ line, above.getLast? = some line →
      continues engine.settings.continuationMarker line = false := by
    intro line hLast
    have hMem : line ∈ Text.lines text := by
      rw [hLines]
      exact List.mem_append_left _ (List.mem_of_getLast? hLast)
    have hNewline := Text.newline_not_mem_of_mem_lines hMem
    rw [← Bool.not_eq_true, continues_iff_of_newline_not_mem hNewline]
    exact hAbove line hLast
  have hMin : min (column : Int) current.length = column := by omega
  rw [logicalLine, hLines, LogicalLine.at?_of_not_continued current below column hContinues, hMin]

theorem isFirst_markedStep (hCatalog : engine.catalog.IsCanonical) {action : Action}
    (hAction : action ∈ engine.catalog.actions) {step : MarkedStep}
    (hLiteral : step.literal = action.literal) :
    IsFirst engine.literals none step.line ⟨step.label.length, action.literal⟩ := by
  have hWords : ∀ other ∈ engine.literals, ∃ key, IsPascal key ∧ other = literalOfKey key := by
    intro other hOther
    obtain ⟨owner, hOwner, hDeclared⟩ := exists_action_of_mem_literals hCatalog.distinct hOther
    exact hCatalog.exists_key hOwner hDeclared
  have hNonempty : action.literal ≠ [] := by
    obtain ⟨c, more, hCons, _⟩ :=
      exists_isLower_literalOfKey (hCatalog.keys action hAction).isKey
    simp [hCatalog.literals action hAction, hCons]
  have hMem : action.literal ∈ engine.literals :=
    mem_literals_of_mem hCatalog.distinct hAction List.mem_cons_self hNonempty
  have hQuote : step.label.getLast? ≠ some '\x27' := by simp [MarkedStep.label]
  have hFirst := LiteralSearch.isFirst_of_words hWords hMem step.isLower_label hQuote
    ('{' :: '$' :: (step.inside ++ Cursor.flagMark ++ step.after ++ closer))
  simpa [MarkedStep.line, MarkedStep.upToMark, hLiteral, opener] using hFirst

theorem resolve_markedStep (hCatalog : engine.catalog.IsCanonical) {action : Action}
    (hAction : action ∈ engine.catalog.actions) {lines : List Text} {line column : Int}
    {content : LogicalLine} (hContent : engine.logicalLine lines line column = .ok content)
    {start : Nat} (hFirst : IsFirst engine.literals none content.text ⟨start, action.literal⟩) :
    engine.resolve lines line column = .ok action := by
  rw [resolve_eq_ok_iff hCatalog.distinct hContent hFirst]
  refine ⟨hAction, ?_⟩
  rw [hCatalog.literals action hAction,
    keyOfLiteral_literalOfKey (hCatalog.keys action hAction).isKey]

theorem mode_parameter {text current : Text} {line : Nat} {column : Int} {action : Action}
    (hLine : (Text.lines text)[line]? = some current)
    (hMacro : engine.macroAt? current column = none)
    (hResolve : engine.resolve (Text.lines text) line column = .ok action) :
    engine.mode ⟨some text, line, column, .parameter⟩ = .ok (.flags action) := by
  simp [mode, hLine, modeAt, flagMode, hMacro, hResolve]

theorem actionFlagCandidates_eq {text current : Text} {line : Nat} {column : Int} {action : Action}
    {content : LogicalLine} (hFlags : action.flagEntries ≠ [])
    (hLine : (Text.lines text)[line]? = some current)
    (hContent : engine.logicalLine (Text.lines text) line column = .ok content)
    (hOccurs : LiteralSearch.occurs action.literal content.text = true) :
    engine.actionFlagCandidates action text line column =
      .ok (if Cursor.isAtFlagInBlock content || Cursor.followsFlagMark current column then
        flagCandidates action action.literal
      else []) := by
  have hCurrent : currentLine (Text.lines text) line = .ok current := by
    simp [currentLine, hLine]
  rw [actionFlagCandidates, if_neg (by simpa using hFlags)]
  simp only [hContent, hCurrent]
  change (if (!LiteralSearch.occurs action.literal content.text) = true then _ else _ :
    Except Failure (List Candidate)) = _
  rw [if_neg (by simp [hOccurs])]
  change (if _ then _ else _ : Except Failure (List Candidate)) = _
  split <;> rfl

theorem candidates_of_mode {query : Query} {mode : Mode} {found : List Candidate}
    (hMode : engine.mode query = .ok mode)
    (hFound : engine.modeCandidates query (query.text.getD []) mode = .ok found) :
    engine.candidates query = .ok (Keyed.dedupe Candidate.label found) := by
  rw [candidates, hMode]
  change engine.modeCandidates query (query.text.getD []) mode >>= _ = _
  rw [hFound]
  rfl

theorem complete_of_candidates {query : Query} {mode : Mode} {found : List Candidate}
    (hMode : engine.mode query = .ok mode)
    (hFound : engine.modeCandidates query (query.text.getD []) mode = .ok found) :
    engine.complete query = Keyed.dedupe Candidate.label found := by
  rw [complete, candidates_of_mode hMode hFound]

theorem dedupe_flagCandidates (action : Action) (detail : Text) :
    Keyed.dedupe Candidate.label (flagCandidates action detail) = flagCandidates action detail := by
  apply Keyed.dedupe_of_nodup
  have hLabels : (flagCandidates action detail).map Candidate.label =
      action.flagEntries.map Prod.fst := by
    simp [flagCandidates, Candidate.plain, Function.comp_def]
  rw [hLabels, Action.flagEntries]
  split
  · exact NamedTexts.distinct _
  · exact List.nodup_nil

/-- Right after the flag mark of a step the flags of its action are offered, whatever the other
actions, the macros and the settings are, unless nothing is left in the block and no blank is before
the mark. -/
theorem complete_marked_step (hCatalog : engine.catalog.IsCanonical) {action : Action}
    (hAction : action ∈ engine.catalog.actions) (hFlags : action.flagEntries ≠ [])
    {step : MarkedStep} (hLiteral : step.literal = action.literal) {text : Text}
    {above below : List Text} (hLines : Text.lines text = above ++ step.line :: below)
    (hAbove : ∀ line, above.getLast? = some line →
      ¬ EndsWithMark engine.settings.continuationMarker line) :
    let found := engine.complete ⟨some text, above.length, step.upToMark.length, .parameter⟩
    (step.ShowsFlags → found = action.flagEntries.map fun (name, description) =>
      Candidate.plain .parameter name description action.literal) ∧
    (¬ step.ShowsFlags → found = []) := by
  have hColumn : step.upToMark.length ≤ step.line.length := by
    simp only [MarkedStep.line, List.length_append]
    omega
  have hContent := logicalLine_of_not_marked hLines hAbove hColumn
  have hLine : (Text.lines text)[above.length]? = some step.line := by
    simp [hLines]
  have hFirst := isFirst_markedStep hCatalog hAction hLiteral
  have hResolve := resolve_markedStep hCatalog hAction hContent hFirst
  have hMode := mode_parameter hLine (step.macroAt?_eq_none engine) hResolve
  have hFound := actionFlagCandidates_eq hFlags hLine hContent hFirst.occurs
  have hNewline : '\n' ∉ step.line := by
    apply Text.newline_not_mem_of_mem_lines
    rw [hLines]
    simp
  have hShows : (Cursor.isAtFlagInBlock ⟨step.line, step.upToMark.length, above.length⟩ ||
      Cursor.followsFlagMark step.line step.upToMark.length) = true ↔ step.ShowsFlags := by
    rw [Bool.or_eq_true, step.followsFlagMark_iff hNewline, step.isAtFlagInBlock_iff]
    · exact Iff.rfl
    · rw [hLiteral, hCatalog.literals action hAction]
      exact noBraces_literalOfKey (hCatalog.keys action hAction)
  intro found
  have hComplete := complete_of_candidates hMode hFound
  constructor
  · intro hStep
    rw [if_pos (hShows.mpr hStep), dedupe_flagCandidates] at hComplete
    exact hComplete
  · intro hStep
    rw [if_neg (mt hShows.mp hStep)] at hComplete
    exact hComplete

theorem complete_send_keys_step :
    let send : Action := { key := "Send", literal := "send", aliases := some ["SendNow"] }
    let sendKeys : Action := {
      key := "SendKeys", literal := "send keys",
      flags := some (NamedTexts.ofEntries [("text", "What to type."), ("delay", "")]) }
    let engine : Engine := { catalog := { actions := [send, sendKeys], macros := [send] } }
    let step : MarkedStep := {
      number := "12", literal := "send keys", blanks := "\t ", before := "a,", after := "b"
      digits := List.all_eq_true.mp (by decide), nonempty := by decide
      blank := List.all_eq_true.mp (by decide)
      noBraces_before := by decide, noBraces_after := by decide }
    engine.catalog.IsCanonical ∧ step.ShowsFlags ∧
      engine.complete ⟨some ("[steps]\n".toList ++ step.line), 1, 23, .parameter⟩ =
        [Candidate.plain .parameter "text" "What to type." "send keys",
          Candidate.plain .parameter "delay" "" "send keys"] := by
  intro send sendKeys engine step
  have hCatalog : engine.catalog.IsCanonical := ⟨by decide, by decide, by decide, by decide⟩
  have hShows : step.ShowsFlags := .inl (by decide)
  have hLines : Text.lines ("[steps]\n".toList ++ step.line) =
      ["[steps]".toList] ++ step.line :: [] := by decide
  have hAbove : ∀ line, ["[steps]".toList].getLast? = some line →
      ¬ EndsWithMark engine.settings.continuationMarker line := by
    rintro line ⟨⟩ hEnds
    rw [← continues_iff_of_newline_not_mem (by decide)] at hEnds
    exact absurd hEnds (by decide)
  have hAction : sendKeys ∈ engine.catalog.actions := by simp [engine]
  exact ⟨hCatalog, hShows,
    (complete_marked_step hCatalog hAction (by decide) rfl hLines hAbove).1 hShows⟩

end Engine

end ScriptAssist
