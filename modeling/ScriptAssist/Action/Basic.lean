import ScriptAssist.Keyed
import ScriptAssist.Text.Case

/-!
# Actions

An action of the script language, as its provider publishes it. A macro has the same form. Scripts
do not write the key of an action, such as `SendKeys`, but its words, `send keys`.
-/

namespace ScriptAssist

def spaceCapitals (key : Text) : Text :=
  key.flatMap fun c => if c.isUpper then [' ', c] else [c]

/-- The words that a script writes for a key. -/
def literalOfKey (key : Text) : Text :=
  Text.lower (Text.strip (spaceCapitals key))

def capitalize : Text → Text
  | [] => []
  | c :: rest => Text.upperChar c ++ rest

def keyOfLiteral (literal : Text) : Text :=
  (Text.splitOn ' ' (Text.lower literal)).flatMap capitalize

structure Action where
  key : Text
  /-- The words that find the action on a line. -/
  literal : Text
  aliases : Option (List Text) := none
  /-- The word before the element that the action works on. -/
  verb : Option Text := none
  description : Text := []
  source : Text := []
  flags : Option NamedTexts := none
  takesArgument : Bool := false
  onElement : Bool := false
  onAttribute : Bool := false
  usesRegex : Bool := false
  deriving DecidableEq, Repr

namespace Action

def takesFlags (action : Action) : Bool :=
  action.flags.isSome

def flagEntries (action : Action) : List (Text × Text) :=
  match action.flags with
  | some flags => flags.entries
  | none => []

def hasCapabilities (action : Action) : Bool :=
  action.takesFlags || action.takesArgument || action.onElement || action.onAttribute ||
    action.usesRegex

def literals (action : Action) : List Text :=
  action.literal :: (action.aliases.getD []).map literalOfKey

def index (actions : List Action) : List Action :=
  Keyed.dedupe Action.key actions

end Action

end ScriptAssist
