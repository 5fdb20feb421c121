import ScriptAssist.Json.Value

/-!
# Writing JSON

Values are written on one line, or with two blanks of indentation for every level. Characters
beyond ASCII stand for themselves.
-/

namespace ScriptAssist.Json

def escapedChar (c : Char) : Text :=
  if c = '\x22' || c = '\\' then ['\\', c]
  else if c = '\n' then ['\\', 'n']
  else if c = '\r' then ['\\', 'r']
  else if c = '\t' then ['\\', 't']
  else if c = '\x08' then ['\\', 'b']
  else if c = '\x0c' then ['\\', 'f']
  else if c.toNat < 32 then ['\\', 'u'] ++ Text.hexDigits 4 c.toNat
  else [c]

def quotedText (text : Text) : Text :=
  '\x22' :: text.flatMap escapedChar ++ ['\x22']

def scalarText : Value → Text
  | .null => "null"
  | .bool b => if b then "true" else "false"
  | .int n => Text.ofInt n
  | .float .nan => "NaN"
  | .float (.infinite negative) => if negative then "-Infinity" else "Infinity"
  | .float x => Value.floatLayout.text x
  | .text s => quotedText s
  | .list _ => "[]"
  | .object _ => ['{', '}']

mutual

def compact : Value → Text
  | .list items => '[' :: compactItems items ++ [']']
  | .object members => '{' :: compactMembers members ++ ['}']
  | value => scalarText value

def compactItems : List Value → Text
  | [] => []
  | [item] => compact item
  | item :: rest => compact item ++ ',' :: compactItems rest

def compactMembers : List (Text × Value) → Text
  | [] => []
  | [(name, value)] => quotedText name ++ ':' :: compact value
  | (name, value) :: rest =>
    quotedText name ++ ':' :: compact value ++ ',' :: compactMembers rest

end

def newLine (level : Nat) : Text :=
  '\n' :: List.replicate (2 * level) ' '

mutual

def indented (level : Nat) : Value → Text
  | .list [] => "[]"
  | .list items => '[' :: indentedItems (level + 1) items ++ newLine level ++ [']']
  | .object [] => ['{', '}']
  | .object members => '{' :: indentedMembers (level + 1) members ++ newLine level ++ ['}']
  | value => scalarText value

def indentedItems (level : Nat) : List Value → Text
  | [] => []
  | [item] => newLine level ++ indented level item
  | item :: rest => newLine level ++ indented level item ++ ',' :: indentedItems level rest

def indentedMembers (level : Nat) : List (Text × Value) → Text
  | [] => []
  | [(name, value)] => newLine level ++ quotedText name ++ [':', ' '] ++ indented level value
  | (name, value) :: rest =>
    newLine level ++ quotedText name ++ [':', ' '] ++ indented level value ++
      ',' :: indentedMembers level rest

end

end ScriptAssist.Json
