import ScriptAssist.Document.LogicalLine
import ScriptAssist.Document.Scope
import ScriptAssist.Text.Digits

/-!
# Around the cursor

What the text of a line before and after a column tells about the place of the cursor.
-/

namespace ScriptAssist.Cursor

/-- The cursor is past the first block of the line, and that does not start the line. -/
def isPastBlock (line : Text) (column : Int) : Bool :=
  match Text.indexOf? opener line with
  | some start => 0 < start && (start : Int) < column
  | none => false

def flagMark : Text := ['-', '-']

def followsFlagMark (line : Text) (column : Int) : Bool :=
  let before := Text.before line column
  before == flagMark || before == flagMark ++ ['\n'] || continues flagMark before

/-- The cursor is in the outer block of a logical line, and a flag mark right before it. A blank
stands after the opener, before the mark. -/
def isAtFlagInBlock (content : LogicalLine) : Bool :=
  match Scope.find? content.text with
  | none => false
  | some scope =>
    scope.encloses content.cursor &&
      match (content.text.take content.cursor.toNat).drop (scope.outer.start + opener.length) with
      | [] => false
      | c :: rest => Text.isBlank c && Text.endsLineWith flagMark rest

def dropSome? (p : Char → Bool) : Text → Option Text
  | c :: rest => if p c then some (rest.dropWhile p) else none
  | [] => none

def dropPart? (part text : Text) : Option Text :=
  if part.isPrefixOf text then some (text.drop part.length) else none

def afterMethodSlot? (text : Text) : Option Text := do
  let rest ← dropPart? ['['] text
  let rest ← dropSome? Text.isDecimalDigit rest
  let rest ← dropPart? [']'] rest
  let rest ← dropSome? Text.isBlank rest
  let rest ← (dropPart? "verify that" rest).or (dropPart? "assert" rest)
  let rest ← dropSome? Text.isBlank rest
  dropPart? ['{'] rest

def isInMethodSlot (line : Text) (column : Int) : Bool :=
  (afterMethodSlot? (Text.before line column)).isSome && (Text.after line column).contains '}'

def nameAfterOpener (text : Text) : Text :=
  (text.drop opener.length).takeWhile fun c => !Text.isBlank c && c != '}'

/-- The name of the macro whose opener is the last one before the cursor. An opener before a blank
has none. -/
def macroName? (line : Text) (column : Int) : Option Text := do
  let found ← Text.fromLast? opener (Text.before line column)
  let name := nameAfterOpener (line.drop ((Text.before line column).length - found.length))
  if name.isEmpty then none else some name

def isAtHeading (line : Text) (column : Int) : Bool :=
  column == 1 && (['['] : Text).isPrefixOf line

end ScriptAssist.Cursor
