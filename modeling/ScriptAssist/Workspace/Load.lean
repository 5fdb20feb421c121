import ScriptAssist.Catalog.Record
import ScriptAssist.Config.Load
import ScriptAssist.Json.Reader
import ScriptAssist.Place
import ScriptAssist.Toml.Reader
import ScriptAssist.Workspace.Files

/-!
# Loading a workspace

The configuration comes first; it says where the catalog is. The documents of the catalog are read
in a fixed order, and the first failure ends the loading. A document that is not there has no
records.
-/

namespace ScriptAssist

open Json (Value)

inductive CatalogFault
  | invalidJson (complaint : Json.Complaint) (line : Nat)
  | notList
  | invalidRecord (error : RecordError)
  deriving DecidableEq, Repr

def CatalogFault.message : CatalogFault → Text
  | invalidJson complaint line =>
    "Invalid JSON: " ++ complaint.message ++ " (line " ++ Text.ofNat line ++ ")"
  | notList => "Expected a JSON list of records"
  | invalidRecord (.invalid _ _) => "Invalid record"
  | invalidRecord error => "Invalid record: " ++ error.message

inductive LoadError
  | catalog (file : Path) (fault : CatalogFault)
  | config (file : Path) (fault : ConfigFault)
  /-- An error in a record of an action that is not passed over. -/
  | record (error : RecordError)
  | unreadable (failure : ReadFailure)
  | beyond (limit : Limit)
  deriving DecidableEq, Repr

namespace LoadError

/-- Errors of the catalog and of the configuration are reported; the others are not expected. -/
def isReported : LoadError → Bool
  | catalog _ _ => true
  | config _ _ => true
  | _ => false

def message : LoadError → Text
  | catalog file fault => Place.report (some { file := some file.text }) fault.message
  | config file fault =>
    Place.report (some { file := some file.text, key := fault.key? }) fault.message
  | record error => error.message
  | unreadable failure => failure.message
  | beyond limit => limit.message

end LoadError

def textIfThere (files : Files) (file : Path) : Except LoadError (Option Text) :=
  match files.find file with
  | .error failure => .error (.unreadable failure)
  | .ok none => .ok none
  | .ok (some _) =>
    match files.readText file with
    | .error failure => .error (.unreadable failure)
    | .ok text => .ok (some text)

namespace Config

def ofText (root file : Path) (text : Text) : Except LoadError Config :=
  match Toml.read text with
  | .error .malformed => .error (.config file .invalidToml)
  | .error (.beyond limit) => .error (.beyond limit)
  | .ok document =>
    match ofDocument root document with
    | .error fault => .error (.config file fault)
    | .ok config => .ok config

def load (files : Files) (root : Path) : Except LoadError Config := do
  let file := root.file fileName
  match ← textIfThere files file with
  | none => pure { root }
  | some text => ofText root file text

end Config

namespace Catalog

def recordsOf (file : Path) (text : Text) : Except LoadError (List Value) :=
  match Json.read text with
  | .error (.malformed complaint left) =>
    .error (.catalog file (.invalidJson complaint (Json.lineOf text left)))
  | .error (.beyond limit) => .error (.beyond limit)
  | .ok (.list records) => .ok records
  | .ok _ => .error (.catalog file .notList)

def readRecords (files : Files) (file : Path) : Except LoadError (List Value) := do
  match ← textIfThere files file with
  | none => pure []
  | some text => recordsOf file text

def readActions (files : Files) (file : Path) : Except LoadError (List Action) := do
  let records ← readRecords files file
  match Action.readPayloads records with
  | .error error => .error (.record error)
  | .ok actions => .ok actions

def readItems {α : Type} (ofRecord : Value → Except RecordError α) (files : Files) (file : Path) :
    Except LoadError (List α) := do
  let records ← readRecords files file
  match readAll ofRecord records with
  | .error error => .error (.catalog file (.invalidRecord error))
  | .ok items => .ok items

def actionsFile : Text := "manifests.json"
def macrosFile : Text := "macros.json"
def locatorsFile : Text := "locators.json"
def attributesFile : Text := "attributes.json"
def operatorsFile : Text := "operators.json"
def assertionsFile : Text := "assertions.json"
def headingsFile : Text := "annotations.json"

def fileNames : List Text :=
  [actionsFile, macrosFile, locatorsFile, attributesFile, operatorsFile, assertionsFile,
    headingsFile]

def readDocuments (files : Files) (directory : Path) : Except LoadError Catalog := do
  let actions ← readActions files (directory.file actionsFile)
  let macros ← readActions files (directory.file macrosFile)
  let locators ← readItems Locator.ofRecord files (directory.file locatorsFile)
  let attributes ← readItems ElementAttribute.ofRecord files (directory.file attributesFile)
  let operators ← readItems Operator.ofRecord files (directory.file operatorsFile)
  let assertions ← readItems AssertionMethod.ofRecord files (directory.file assertionsFile)
  let headings ← readItems Heading.ofRecord files (directory.file headingsFile)
  pure { actions, macros, locators, attributes, operators, assertions, headings }

/-- The catalog in a directory. A directory that is not there holds the empty catalog. -/
def load (files : Files) (directory : Path) : Except LoadError Catalog :=
  match files.find directory with
  | .error failure => .error (.unreadable failure)
  | .ok (some .directory) => readDocuments files directory
  | .ok _ => .ok {}

end Catalog

end ScriptAssist
