import ScriptAssist.Workspace.Path

/-!
# The configuration of a project
-/

namespace ScriptAssist

inductive Level
  | critical
  | error
  | warning
  | info
  | debug
  deriving DecidableEq, Repr

namespace Level

def name : Level → Text
  | critical => "CRITICAL"
  | error => "ERROR"
  | warning => "WARNING"
  | info => "INFO"
  | debug => "DEBUG"

def all : List Level :=
  [critical, error, warning, info, debug]

def urgency : Level → Nat
  | critical => 5
  | error => 4
  | warning => 3
  | info => 2
  | debug => 1

def ofName? (name : Text) : Option Level :=
  all.find? (·.name == name)

end Level

/-- The names of sections that matter to completion, and the mark of a line that goes on. -/
structure Settings where
  actionsHeading : Text := "test-actions"
  assertionsHeading : Text := "test-expected-results"
  dataHeading : Text := "test-data-provider"
  parametersHeading : Text := "test-parameters"
  continuationMarker : Text := "`"
  deriving DecidableEq, Repr

structure Config where
  root : Path
  catalogPath : Text := ".rhino"
  settings : Settings := {}
  level : Level := .info
  deriving DecidableEq, Repr

def Config.catalogDirectory (config : Config) : Path :=
  config.root.join (Path.ofText config.catalogPath)

end ScriptAssist
