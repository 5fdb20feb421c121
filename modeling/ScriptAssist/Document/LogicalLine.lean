import ScriptAssist.Text.Basic

/-!
# Logical lines

An action may be written on several lines: a line goes on where it ends with a blank and the
continuation marker.
-/

namespace ScriptAssist

def continues (marker : Text) : Text → Bool
  | [] => false
  | c :: rest =>
    (Text.isBlank c && (rest == marker || rest == marker ++ ['\n'])) || continues marker rest

structure LogicalLine where
  text : Text
  cursor : Int
  firstLine : Int
  deriving DecidableEq, Repr

namespace LogicalLine

def continuedBefore (marker : Text) (lines : List Text) (line : Nat) : Nat :=
  ((lines.take line).reverse.takeWhile (continues marker)).length

def cursorIn (text line : Text) (column : Int) : Int :=
  text.length - line.length + min column line.length

/-- A line of the document. A negative number counts lines from the end of the document. -/
def lineAt? (lines : List Text) (line : Int) : Option Text :=
  if 0 ≤ line then lines[line.toNat]?
  else if -line ≤ lines.length then lines[(lines.length + line).toNat]?
  else none

@[simp]
theorem lineAt?_natCast (lines : List Text) (line : Nat) : lineAt? lines line = lines[line]? := by
  simp [lineAt?]

/-- The logical line that ends with a line of the document. Nothing is joined to a line that is
counted from the end, and the last line, counted so, has no text. -/
def at? (lines : List Text) (marker : Text) (line column : Int) : Option LogicalLine := do
  let current ← lineAt? lines line
  if 0 ≤ line then
    let number := line.toNat
    let first := number - continuedBefore marker lines number
    let text := ['\n'].intercalate ((lines.take (number + 1)).drop first)
    pure ⟨text, cursorIn text current column, first⟩
  else
    let text := if line = -1 then [] else current
    pure ⟨text, cursorIn text current column, line⟩

end LogicalLine

end ScriptAssist
