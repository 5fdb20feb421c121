import ScriptAssist.Text.Basic

/-!
# Where an error came from
-/

namespace ScriptAssist

structure Place where
  file : Option Text := none
  key : Option Text := none
  line : Option Int := none
  deriving DecidableEq, Repr

namespace Place

/-- For example `catalog/actions.json:3 (SendKeys)`. An empty key is left out. -/
def text (place : Place) : Text :=
  let file := place.file.getD "<memory>"
  let line := match place.line with
    | some n => ':' :: Text.ofInt n
    | none => []
  let key := match place.key with
    | some (c :: rest) => [' ', '('] ++ c :: rest ++ [')']
    | _ => []
  file ++ line ++ key

def report (place : Option Place) (message : Text) : Text :=
  match place with
  | some place => place.text ++ '\n' :: message
  | none => message

end Place

end ScriptAssist
