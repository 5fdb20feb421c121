import ScriptAssist.Decimal.Shortest
import ScriptAssist.Text.Basic
import ScriptAssist.Text.Printable

/-!
# JSON values

Records reach the program as JSON values of any shape. The members of an object keep their order.
-/

namespace ScriptAssist.Json

inductive Value
  | null
  | bool (b : Bool)
  | int (n : Int)
  | float (x : Double)
  | text (s : Text)
  | list (items : List Value)
  | object (members : List (Text × Value))
  deriving BEq, Repr, Inhabited

namespace Value

def kindName : Value → Text
  | null => "NoneType"
  | bool _ => "bool"
  | int _ => "int"
  | float _ => "float"
  | text _ => "str"
  | list _ => "list"
  | object _ => "dict"

/-- Whether a value counts as given: null, false, zero and everything empty do not. -/
def isGiven : Value → Bool
  | null => false
  | bool b => b
  | int n => n != 0
  | float x => !x.isZero
  | text s => !s.isEmpty
  | list items => !items.isEmpty
  | object members => !members.isEmpty

def member? (name : Text) : Value → Option Value
  | object members => members.lookup name
  | _ => none

/-- Numbers from 10⁻⁴ up to 10¹⁶ are written without an exponent, the others with one of at least
two digits. -/
def floatLayout : Double.Layout := ⟨-3, 16, 2⟩

mutual

def inner : Value → Text
  | null => "None"
  | bool b => if b then "True" else "False"
  | int n => Text.ofInt n
  | float x => floatLayout.text x
  | text s => Text.quoted s
  | list items => '[' :: innerItems items ++ [']']
  | object members => '{' :: innerMembers members ++ ['}']

def innerItems : List Value → Text
  | [] => []
  | [item] => inner item
  | item :: rest => inner item ++ [',', ' '] ++ innerItems rest

def innerMembers : List (Text × Value) → Text
  | [] => []
  | [(name, value)] => Text.quoted name ++ [':', ' '] ++ inner value
  | (name, value) :: rest =>
    Text.quoted name ++ [':', ' '] ++ inner value ++ [',', ' '] ++ innerMembers rest

end

def shown : Value → Text
  | text s => s
  | value => value.inner

end Value

end ScriptAssist.Json
