import ScriptAssist.Text.Basic

/-!
# Arguments of a command

Switches may stand anywhere before a lone double dash. A switch with a value takes it from its own
argument or from the next one; short switches may share an argument.
-/

namespace ScriptAssist.Command

structure Switch where
  long : Text
  short : Option Char := none
  takesValue : Bool := true

structure Arguments where
  given : List (Text × Text) := []
  plain : List Text := []

namespace Arguments

def value? (arguments : Arguments) (long : Text) : Option Text :=
  arguments.given.reverse.lookup long

def has (arguments : Arguments) (long : Text) : Bool :=
  (arguments.value? long).isSome

end Arguments

def takeNext (long : Text) : List Text → Option (List (Text × Text) × List Text)
  | value :: rest => some ([(long, value)], rest)
  | [] => none

def readShort (switches : List Switch) (rest : List Text) :
    Text → Option (List (Text × Text) × List Text)
  | [] => some ([], rest)
  | c :: letters => do
    let switch ← switches.find? (·.short == some c)
    if switch.takesValue then
      if letters.isEmpty then takeNext switch.long rest else some ([(switch.long, letters)], rest)
    else
      let (given, rest) ← readShort switches rest letters
      pure ((switch.long, []) :: given, rest)

def readLong (switches : List Switch) (rest : List Text) (argument : Text) :
    Option (List (Text × Text) × List Text) := do
  let (name, value) := argument.span (· != '=')
  let switch ← switches.find? (·.long == name)
  match switch.takesValue, value with
  | true, _ :: value => some ([(switch.long, value)], rest)
  | true, [] => takeNext switch.long rest
  | false, [] => some ([(switch.long, [])], rest)
  | false, _ => none

def readSwitch (switches : List Switch) (rest : List Text) (argument : Text) :
    Option (List (Text × Text) × List Text) :=
  match argument with
  | '-' :: '-' :: name => readLong switches rest ('-' :: '-' :: name)
  | _ => readShort switches rest (argument.drop 1)

def isSwitch : Text → Bool
  | '-' :: _ :: _ => true
  | _ => false

/-- Reads arguments; unless they are mixed, the first plain one ends the switches. -/
def readArguments (switches : List Switch) (mixed : Bool) : Nat → List Text → Option Arguments
  | 0, _ => none
  | _ + 1, [] => some {}
  | fuel + 1, argument :: rest =>
    if argument = ['-', '-'] then some { plain := rest }
    else if isSwitch argument then do
      let (given, rest) ← readSwitch switches rest argument
      let arguments ← readArguments switches mixed fuel rest
      pure { arguments with given := given ++ arguments.given }
    else if mixed then do
      let arguments ← readArguments switches mixed fuel rest
      pure { arguments with plain := argument :: arguments.plain }
    else some { plain := argument :: rest }

end ScriptAssist.Command
