import ScriptAssist.Json.Value
import ScriptAssist.Keyed

/-!
# Values as keys

Numbers of one size are one key, whatever their kind, and the truth values count as zero and one.
Lists and objects are no keys.
-/

namespace ScriptAssist.Json

inductive Key
  | null
  | whole (n : Int)
  | fraction (x : Double)
  | text (s : Text)
  deriving DecidableEq, Repr

structure NotKey where
  kindName : Text
  deriving DecidableEq, Repr

def NotKey.message (error : NotKey) : Text :=
  "unhashable type: " ++ Text.quoted error.kindName

def Value.key : Value → Except NotKey Key
  | null => .ok .null
  | bool b => .ok (.whole (if b then 1 else 0))
  | int n => .ok (.whole n)
  | float x => .ok (x.whole?.elim (.fraction x) .whole)
  | text s => .ok (.text s)
  | value => .error ⟨value.kindName⟩

def dedupe (entries : List (Value × Value)) : Except NotKey (List (Value × Value)) := do
  let keyed ← entries.mapM fun entry => return (← entry.1.key, entry)
  pure ((Keyed.dedupe Prod.fst keyed).map Prod.snd)

end ScriptAssist.Json
