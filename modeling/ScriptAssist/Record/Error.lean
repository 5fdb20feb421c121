import ScriptAssist.Text.Basic

/-!
# Why a record is refused
-/

namespace ScriptAssist

inductive Shape
  | action
  | locator
  | elementAttribute
  | heading
  | assertionMethod
  | operator
  deriving DecidableEq, Repr

def Shape.name : Shape → Text
  | action => "ActionManifest"
  | locator => "Locator"
  | elementAttribute => "ElementAttribute"
  | heading => "Annotation"
  | assertionMethod => "AssertionMethod"
  | operator => "Operator"

inductive Issue
  | missing
  | notText
  | notList
  | notObject
  | notBoolean
  /-- A number or a word that stands for no truth value. -/
  | unclearBoolean
  | emptyKey
  | notRecord
  deriving DecidableEq, Repr

inductive Step
  | field (name : Text)
  | item (index : Nat)
  deriving DecidableEq, Repr

structure Fault where
  steps : List Step
  issue : Issue
  deriving DecidableEq, Repr

inductive RecordError
  | notObject
  | invalid (shape : Shape) (faults : List Fault)
  | lacksOperation (kind operation : Text)
  | notSearchable (kind : Text)
  deriving DecidableEq, Repr

/-- A reader of actions passes over records with such an error. -/
def RecordError.isSkipped : RecordError → Bool
  | notSearchable _ => false
  | _ => true

def Issue.message (shape : Shape) : Issue → Text
  | missing => "Field required"
  | notText => "Input should be a valid string"
  | notList => "Input should be a valid list"
  | notObject => "Input should be a valid dictionary"
  | notBoolean => "Input should be a valid boolean"
  | unclearBoolean => "Input should be a valid boolean, unable to interpret input"
  | emptyKey => "Value error, Manifest key must not be empty"
  | notRecord => "Input should be a valid dictionary or instance of " ++ shape.name

def RecordError.message : RecordError → Text
  | notObject => "Manifest record must be an object"
  | invalid _ _ => []
  | lacksOperation kind operation =>
    "'" ++ kind ++ "' object has no attribute '" ++ operation ++ "'"
  | notSearchable kind => "argument of type '" ++ kind ++ "' is not iterable"

end ScriptAssist
