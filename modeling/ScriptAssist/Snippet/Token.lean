import ScriptAssist.Action.Basic

/-!
# Parts of a template

A tab stop holds a text to be typed over, or a choice of texts. Each part of a template shows one
capability of an action. The choice of the action and its argument share a tab stop.
-/

namespace ScriptAssist

def braced (text : Text) : Text :=
  '{' :: text ++ ['}']

def placeholder (stop : Int) (default : Text) : Text :=
  '$' :: braced (Text.ofInt stop ++ ':' :: default)

/-- A choice of the texts that are not empty; if there is none, the fallback to be typed over. -/
def choicePlaceholder (stop : Int) (choices : List Text) (fallback : Text) : Text :=
  match choices.filter (!·.isEmpty) with
  | [] => placeholder stop fallback
  | choices => '$' :: braced (Text.ofInt stop ++ '|' :: [','].intercalate choices ++ ['|'])

namespace Token

def aliasLiterals (action : Action) : List Text :=
  Text.sortedSet
    ((((action.aliases.getD []).filter (!·.isEmpty)).map literalOfKey).filter
      (· != literalOfKey action.key))

/-- The action itself, by the literal of its key. With aliases it is a choice that begins with that
literal. -/
def action (action : Action) : Text :=
  let literal := literalOfKey action.key
  match aliasLiterals action with
  | [] => literal
  | aliases => braced (choicePlaceholder 1 (literal :: aliases) literal)

def argument : Text :=
  braced (placeholder 1 "argument value")

def flagBlock : Text :=
  braced (braced ("$ " ++ placeholder 1 "parameters values"))

def distinct (texts : List Text) : List Text :=
  texts.foldl (fun done text => if done.contains text then done else done ++ [text]) []

inductive Malformed
  | elementWithoutVerb
  deriving DecidableEq, Repr

def Malformed.message : Malformed → Text
  | elementWithoutVerb => "Element targeting requires a verb"

def element (action : Action) (locators : List Text) : Except Malformed Text :=
  match action.verb.getD [] with
  | [] => .error .elementWithoutVerb
  | verb =>
    .ok (verb ++ [' '] ++ braced (placeholder 5 "locator value") ++ " by " ++
      braced (choicePlaceholder 6 (distinct locators) "locator"))

def elementAttribute (attributes : List Text) : Text :=
  "from " ++ braced (choicePlaceholder 7 (Text.sortedSet attributes) "attribute")

def regex : Text :=
  "with regex " ++ braced (placeholder 8 ".*")

end Token

end ScriptAssist
