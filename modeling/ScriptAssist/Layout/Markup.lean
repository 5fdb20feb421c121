import ScriptAssist.Layout.Emoji
import ScriptAssist.Layout.Handler
import ScriptAssist.Layout.Style

/-!
# Markup in messages

Messages are printed through a markup in which a word in brackets is a tag: it changes the style and
is not shown. A word is a tag if it starts with a small letter or with one of three signs.
Backslashes before a tag show it as it is. A closing tag has to have its opening one.
-/

namespace ScriptAssist.Layout

inductive MarkupFault
  | unmatched
  | badParameters
  | badColor
  deriving DecidableEq, Repr

namespace Markup

def isTagStart (c : Char) : Bool :=
  c.isLower || c == '#' || c == '/' || c == '@'

def tagAt? : Text → Option Text
  | '[' :: c :: rest =>
    if isTagStart c then
      match rest.span fun d => d != '[' && d != ']' with
      | (word, ']' :: _) => some (c :: word)
      | _ => none
    else none
  | _ => none

inductive Piece
  | text (written : Text)
  | tag (words : Text)
  deriving DecidableEq, Repr

def textPiece (written : Text) : List Piece :=
  if written.isEmpty then [] else [.text written]

/-- Half of the backslashes before a tag are shown. An odd one shows the tag itself. -/
def afterBackslashes (count : Nat) (words : Text) : List Piece :=
  textPiece (List.replicate (count / 2) '\\') ++
    if count % 2 == 0 then [.tag words] else [.text ('[' :: words ++ [']'])]

/-- The pieces of a text, after the characters of one in reverse. The last `count` characters before
the text are backslashes that may belong to a tag; its first `taken` ones belong to a tag. -/
def piecesFrom (before : Text) (count taken : Nat) : Text → List Piece
  | [] => textPiece (before.reverse ++ List.replicate count '\\')
  | c :: rest =>
    match taken with
    | taken + 1 => piecesFrom [] 0 taken rest
    | 0 =>
      if c = '\\' then piecesFrom before (count + 1) 0 rest
      else
        match tagAt? (c :: rest) with
        | some words =>
          textPiece before.reverse ++ afterBackslashes count words ++
            piecesFrom [] 0 (words.length + 1) rest
        | none => piecesFrom (c :: List.replicate count '\\' ++ before) 0 0 rest

def pieces (text : Text) : List Piece :=
  piecesFrom [] 0 0 text

def unescape : Text → Text
  | '\\' :: '[' :: rest => '[' :: unescape rest
  | c :: rest => c :: unescape rest
  | [] => []

structure Tag where
  name : Text
  parameters : Option Text

namespace Tag

def style (tag : Tag) : Text :=
  match tag.parameters with
  | some parameters => tag.name ++ ' ' :: parameters
  | none => tag.name

def canClose (tag : Tag) : Bool :=
  tag.name.head? != some '@' || tag.parameters.all fun parameters =>
    parameters.isEmpty || Handler.isLiteral parameters

end Tag

def nameOf (words : Text) : Except MarkupFault Text :=
  (Style.normalForm words).mapError fun _ => .badColor

def closeNamed (name : Text) : List Tag → Option (Tag × List Tag)
  | [] => none
  | tag :: rest =>
    if tag.name = name then some (tag, rest)
    else (closeNamed name rest).map fun (closed, left) => (closed, tag :: left)

def close (words : Text) (tags : List Tag) : Except MarkupFault (List Tag) := do
  let closed ←
    match Text.strip words, tags with
    | [], [] => pure none
    | [], tag :: rest => pure (some (tag, rest))
    | name, tags => pure (closeNamed (← nameOf name) tags)
  match closed with
  | none => .error .unmatched
  | some (tag, rest) => if tag.canClose then pure rest else .error .badParameters

def openTag (words : Text) : Except MarkupFault Tag :=
  match words.span (· != '=') with
  | (name, _ :: parameters) => return ⟨← nameOf name, some parameters⟩
  | (name, []) => return ⟨← nameOf name, none⟩

/-- The shown text. `tags` are open, `styles` have been asked for. -/
def shownFrom (tags : List Tag) (styles : List Text) : List Piece → Except MarkupFault Text
  | [] => if styles.any Style.isBroken then .error .badColor else .ok []
  | .text written :: rest => do
    let shown ← shownFrom tags styles rest
    pure (Emoji.replace (unescape written) ++ shown)
  | .tag ('/' :: words) :: rest => do
    let tags ← close (words.takeWhile (· != '=')) tags
    shownFrom tags styles rest
  | .tag words :: rest => do
    let tag ← openTag words
    shownFrom (tag :: tags) (tag.style :: styles) rest

def shown (text : Text) : Except MarkupFault Text :=
  shownFrom [] [] (pieces text)

def escapeFrom (count taken : Nat) : Text → Text
  | [] => List.replicate (if count == 1 then 2 else count) '\\'
  | c :: rest =>
    match taken with
    | taken + 1 => c :: escapeFrom 0 taken rest
    | 0 =>
      if c = '\\' then escapeFrom (count + 1) 0 rest
      else
        match tagAt? (c :: rest) with
        | some words =>
          List.replicate (2 * count + 1) '\\' ++ c :: escapeFrom 0 (words.length + 1) rest
        | none => List.replicate count '\\' ++ c :: escapeFrom 0 0 rest

def escape (text : Text) : Text :=
  escapeFrom 0 0 text

end Markup

end ScriptAssist.Layout
