import ScriptAssist.Json.Value
import ScriptAssist.Keyed
import ScriptAssist.Record.Error

/-!
# Fields of a record

Checking a record collects the faults of all its fields, in the order of the fields.
-/

namespace ScriptAssist

open Json (Value)

inductive Checked (α : Type)
  | valid (value : α)
  | faulty (faults : List Fault)

namespace Checked

variable {α β : Type}

def map (f : α → β) : Checked α → Checked β
  | valid value => valid (f value)
  | faulty faults => faulty faults

/-- Both have to be valid; the faults of both are kept. -/
def seq (f : Checked (α → β)) (x : Checked α) : Checked β :=
  match f, x with
  | valid f, valid value => valid (f value)
  | valid _, faulty faults => faulty faults
  | faulty faults, valid _ => faulty faults
  | faulty faults, faulty more => faulty (faults ++ more)

instance : Applicative Checked where
  pure := valid
  map := map
  seq f x := seq f (x ())

def all : List (Checked α) → Checked (List α)
  | [] => valid []
  | item :: rest => seq (map List.cons item) (all rest)

def toExcept (shape : Shape) : Checked α → Except RecordError α
  | valid value => .ok value
  | faulty faults => .error (.invalid shape faults)

end Checked

abbrev Fields := List (Text × Value)

namespace Fields

def get? (fields : Fields) (name : Text) : Option Value :=
  fields.lookup name

def set (name : Text) (value : Value) (fields : Fields) : Fields :=
  (name, value) :: fields

def isGiven (fields : Fields) (name : Text) : Bool :=
  (fields.get? name).any Value.isGiven

def fault {α : Type} (steps : List Step) (issue : Issue) : Checked α :=
  .faulty [⟨steps, issue⟩]

def textValue (steps : List Step) : Value → Checked Text
  | .text s => .valid s
  | _ => fault steps .notText

def text (fields : Fields) (name : Text) : Checked Text :=
  match fields.get? name with
  | none => fault [.field name] .missing
  | some value => textValue [.field name] value

def textOrEmpty (fields : Fields) (name : Text) : Checked Text :=
  match fields.get? name with
  | none => .valid []
  | some value => textValue [.field name] value

def optionalText (fields : Fields) (name : Text) : Checked (Option Text) :=
  match fields.get? name with
  | none => .valid none
  | some .null => .valid none
  | some value => (textValue [.field name] value).map some

def optionalTexts (fields : Fields) (name : Text) : Checked (Option (List Text)) :=
  match fields.get? name with
  | none => .valid none
  | some .null => .valid none
  | some (.list items) =>
    (Checked.all (items.zipIdx.map fun (item, i) =>
      textValue [.field name, .item i] item)).map some
  | some _ => fault [.field name] .notList

def optionalNamedTexts (fields : Fields) (name : Text) : Checked (Option NamedTexts) :=
  match fields.get? name with
  | none => .valid none
  | some .null => .valid none
  | some (.object members) =>
    (Checked.all (members.map fun (key, value) =>
      (textValue [.field name, .field key] value).map fun s => (key, s))).map fun entries =>
        some (NamedTexts.ofEntries entries)
  | some _ => fault [.field name] .notObject

def falseWords : List Text := ["0", "f", "n", "no", "off", "false"]

def trueWords : List Text := ["1", "t", "y", "on", "yes", "true"]

def wholeBound : Int := Nat.pow 2 63

def booleanOfInt (steps : List Step) (n : Int) : Checked Bool :=
  if n = 0 then .valid false
  else if n = 1 then .valid true
  else fault steps .unclearBoolean

def booleanOfWord (steps : List Step) (word : Text) : Checked Bool :=
  if falseWords.contains (word.map Char.toLower) then .valid false
  else if trueWords.contains (word.map Char.toLower) then .valid true
  else fault steps .unclearBoolean

/-- A truth value, or a word or a whole number that stands for one. A number that 64 bits cannot
hold is none of them; of the floats, neither is the least number that they can. -/
def booleanValue (steps : List Step) : Value → Checked Bool
  | .bool b => .valid b
  | .int n =>
    if -wholeBound ≤ n && n < wholeBound then booleanOfInt steps n else fault steps .notBoolean
  | .float x =>
    match x.whole? with
    | some n =>
      if -wholeBound < n && n < wholeBound then booleanOfInt steps n else fault steps .notBoolean
    | none => fault steps .notBoolean
  | .text s => booleanOfWord steps s
  | _ => fault steps .notBoolean

def boolean (fields : Fields) (name : Text) : Checked Bool :=
  match fields.get? name with
  | none => .valid false
  | some value => booleanValue [.field name] value

def ofValue (shape : Shape) : Value → Except RecordError Fields
  | .object members => .ok members
  | _ => .error (.invalid shape [⟨[], .notRecord⟩])

end Fields

end ScriptAssist
