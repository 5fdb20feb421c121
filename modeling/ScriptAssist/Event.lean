import ScriptAssist.Engine.Completion
import ScriptAssist.Workspace.Load

/-!
# Events

What is worth a warning or an error message while a workspace is loaded or a query is answered. The
answers do not depend on it.
-/

namespace ScriptAssist

open Json (Value)

inductive Event
  | skippedRecord (file : Option Path) (skipped : Action.Skipped)
  | skippedLayer (layer : Synthesis.SkippedLayer)
  | catalogMissing (directory : Path)
  | completionFailed (line column : Int) (failure : Failure)
  | loadFailed (error : LoadError)
  | reloadFailed (error : LoadError)
  deriving DecidableEq, Repr

namespace Event

def level : Event → Level
  | skippedRecord _ _ => .warning
  | skippedLayer _ => .warning
  | catalogMissing _ => .warning
  | completionFailed _ _ _ => .error
  | loadFailed _ => .error
  | reloadFailed _ => .error

def message : Event → Text
  | skippedRecord _ skipped => "Skipping malformed manifest " ++ skipped.key
  | skippedLayer layer =>
    "Skipping '" ++ layer.suffix ++ "' for " ++ layer.key ++ ": " ++ layer.cause.message
  | catalogMissing directory => "Catalog directory not found: " ++ directory.text
  | completionFailed line column _ =>
    "Completion failed at " ++ Text.ofInt (line + 1) ++ ":" ++ Text.ofInt (column + 1)
  | loadFailed _ => "Failed to load workspace"
  | reloadFailed _ => "Error reloading catalog"

/-- A threshold lets pass what is at least as urgent. -/
def passes (threshold : Option Level) (event : Event) : Bool :=
  threshold.all (·.urgency ≤ event.level.urgency)

end Event

def Action.skippedEvents (file : Option Path) (payloads : List Value) : List Event :=
  (Action.skipped payloads).map (.skippedRecord file)

namespace Catalog

def recordEvents (records : Records) : List Event :=
  Action.skippedEvents none records.actions ++
    match Action.readPayloads records.actions with
    | .ok _ => Action.skippedEvents none records.macros
    | .error _ => []

def actionEvents (files : Files) (file : Path) : List Event :=
  match readRecords files file with
  | .ok records => Action.skippedEvents (some file) records
  | .error _ => []

def loadEvents (files : Files) (directory : Path) : List Event :=
  match files.find directory with
  | .error _ => []
  | .ok (some .directory) =>
    actionEvents files (directory.file actionsFile) ++
      match readActions files (directory.file actionsFile) with
      | .ok _ => actionEvents files (directory.file macrosFile)
      | .error _ => []
  | .ok _ => [.catalogMissing directory]

end Catalog

def Synthesis.events (actions : List Action) (locators : List Text) : List Event :=
  actions.flatMap fun action => (skippedLayers action locators).map .skippedLayer

def Engine.completionEvents (engine : Engine) (query : Query) : List Event :=
  match engine.candidates query with
  | .error failure => [.completionFailed query.line query.column failure]
  | .ok _ =>
    match engine.mode query with
    | .ok .actions => Synthesis.events engine.actions engine.catalog.locatorNames
    | _ => []

end ScriptAssist
