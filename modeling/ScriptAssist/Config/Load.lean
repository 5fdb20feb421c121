import ScriptAssist.Config.Basic
import ScriptAssist.Text.Case
import ScriptAssist.Toml.Value

/-!
# Loading the configuration

A project keeps its options in a TOML file in its root. Without that file every option has its
default.
-/

namespace ScriptAssist

inductive ConfigFault
  | invalidToml
  | notTable (name : Text)
  | notText (name : Text)
  | emptyMarker
  | unknownLevel
  deriving DecidableEq, Repr

namespace ConfigFault

def key? : ConfigFault → Option Text
  | invalidToml => none
  | notTable name => some name
  | notText name => some name
  | emptyMarker => some "continuation_marker"
  | unknownLevel => some "log_level"

def message : ConfigFault → Text
  | invalidToml => "Invalid TOML"
  | notTable name => "[" ++ name ++ "] must be a table"
  | notText name => "'" ++ name ++ "' must be a string"
  | emptyMarker => "'continuation_marker' must not be empty"
  | unknownLevel =>
    "'log_level' must be one of " ++ [',', ' '].intercalate (Level.all.map Level.name)

end ConfigFault

namespace Config

def sectionOf (document : Toml.Table) (name : Text) : Except ConfigFault Toml.Table :=
  match document.lookup name with
  | none => .ok []
  | some (.table entries) => .ok entries
  | some _ => .error (.notTable name)

def textOption (table : Toml.Table) (name default : Text) : Except ConfigFault Text :=
  match table.lookup name with
  | none => .ok default
  | some (.text s) => .ok s
  | some _ => .error (.notText name)

/-- The options of a document. The sections are checked before any option. -/
def ofDocument (root : Path) (document : Toml.Table) : Except ConfigFault Config := do
  let catalog ← sectionOf document "catalog"
  let completion ← sectionOf document "completion"
  let server ← sectionOf document "lsp"
  let defaults : Config := { root }
  let catalogPath ← textOption catalog "path" defaults.catalogPath
  let actionsHeading ←
    textOption completion "actions_annotation" defaults.settings.actionsHeading
  let assertionsHeading ←
    textOption completion "assertions_annotation" defaults.settings.assertionsHeading
  let dataHeading ← textOption completion "data_annotation" defaults.settings.dataHeading
  let parametersHeading ←
    textOption completion "parameters_annotation" defaults.settings.parametersHeading
  let continuationMarker ←
    textOption completion "continuation_marker" defaults.settings.continuationMarker
  if continuationMarker.isEmpty then throw .emptyMarker
  let level ← textOption server "log_level" defaults.level.name
  match Level.ofName? (Text.upper level) with
  | none => throw .unknownLevel
  | some level =>
    let settings : Settings :=
      { actionsHeading, assertionsHeading, dataHeading, parametersHeading,
        continuationMarker }
    pure { root, catalogPath, settings, level }

def fileName : Text := "rhino.toml"

end Config

end ScriptAssist
