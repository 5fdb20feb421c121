import ScriptAssist.Document.Section
import ScriptAssist.Engine.Mode
import ScriptAssist.Snippet.Assertion
import ScriptAssist.Snippet.Synthesis

/-!
# Completions

The candidates of a query. Where candidates share a label the last one stays, at the place of the
first. A query that fails has no candidates.
-/

namespace ScriptAssist.Engine

def actionCandidates (engine : Engine) : List Candidate :=
  (Synthesis.allSnippets engine.actions engine.catalog.locatorNames
    engine.catalog.attributeNames).map (Snippet.candidate .action)

def assertionCandidates (engine : Engine) : List Candidate :=
  (AssertionSnippet.all engine.catalog.locatorNames engine.catalog.attributeNames
    engine.catalog.operatorNames).map (Snippet.candidate .assertion)

def methodCandidates (engine : Engine) : List Candidate :=
  engine.catalog.assertions.map fun method =>
    Candidate.plain .assertionMethod method.literal method.description "code"

def flagCandidates (action : Action) (detail : Text) : List Candidate :=
  action.flagEntries.map fun (name, description) =>
    Candidate.plain .parameter name description detail

/-- The flags of an action are offered where its literal is on the logical line and a flag mark is
right before the cursor: either in the outer block of the line, or after a blank anywhere. -/
def actionFlagCandidates (engine : Engine) (action : Action) (text : Text) (line column : Int) :
    Except Failure (List Candidate) :=
  if action.flagEntries.isEmpty then .ok []
  else do
    let lines := Text.lines text
    let content ← engine.logicalLine lines line column
    if !LiteralSearch.occurs action.literal content.text then pure []
    else
      let current ← currentLine lines line
      if Cursor.isAtFlagInBlock content || Cursor.followsFlagMark current column then
        pure (flagCandidates action action.literal)
      else pure []

def macroCandidates (engine : Engine) : List Candidate :=
  (Text.sortOn Action.key engine.catalog.macros).map fun found =>
    Candidate.plain .macroName found.key found.description "code"

def headingCandidates (engine : Engine) : List Candidate :=
  engine.catalog.headings.map fun heading =>
    Candidate.plain .heading heading.key heading.description heading.literal

def testParameterCandidates (engine : Engine) (text : Text) : List Candidate :=
  let lines := Text.lines text
  let keys := engine.catalog.headingKeys
  ParameterTable.dataCandidates lines engine.settings.dataHeading keys ++
    ParameterTable.parameterCandidates lines engine.settings.parametersHeading keys

def modeCandidates (engine : Engine) (query : Query) (text : Text) :
    Mode → Except Failure (List Candidate)
  | .actions => .ok engine.actionCandidates
  | .assertions => .ok engine.assertionCandidates
  | .methods => .ok engine.methodCandidates
  | .flags action => engine.actionFlagCandidates action text query.line query.column
  | .macroNames => .ok engine.macroCandidates
  | .macroFlags action => .ok (flagCandidates action action.key)
  | .headings => .ok engine.headingCandidates
  | .testParameters => .ok (engine.testParameterCandidates text)
  | .nothing => .ok []

def candidates (engine : Engine) (query : Query) : Except Failure (List Candidate) := do
  let mode ← engine.mode query
  let found ← engine.modeCandidates query (query.text.getD []) mode
  pure (Keyed.dedupe Candidate.label found)

def complete (engine : Engine) (query : Query) : List Candidate :=
  match engine.candidates query with
  | .ok found => found
  | .error _ => []

def sectionLines (engine : Engine) (text heading : Text) : List Text :=
  Section.linesOf (Text.lines text) heading engine.catalog.headingKeys

end ScriptAssist.Engine
