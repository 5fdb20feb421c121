import ScriptAssist.Layout.CellTable
import ScriptAssist.Text.Basic

/-!
# Cells of a terminal

A text is measured in the cells of its glyphs. A glyph is a character with the marks that follow it;
a joiner adds the next character to it. A picture mark widens some characters of one cell.
-/

namespace ScriptAssist.Layout

def charWidth (c : Char) : Nat :=
  if 32 ≤ c.toNat && c.toNat < 127 then 1
  else if CodeRange.anyCovers zeroWidth c then 0
  else if CodeRange.anyCovers doubleWidth c then 2
  else 1

structure Glyph where
  chars : Text
  width : Nat
  deriving DecidableEq, Repr

def joiner : Char := '‍'

def pictureMark : Char := '️'

/-- The glyphs of the characters so far, the last one first. `base` is the last character that took
cells, unless a picture mark came after it; after a joiner the next character is `joined`. -/
structure Measuring where
  glyphs : List Glyph := []
  base : Option Char := none
  joined : Bool := false

def extendLast (c : Char) (width : Nat) : List Glyph → List Glyph
  | [] => [⟨[c], width⟩]
  | glyph :: rest => ⟨glyph.chars ++ [c], glyph.width + width⟩ :: rest

def Measuring.add (measuring : Measuring) (c : Char) : Measuring :=
  let { glyphs, base, joined } := measuring
  if joined then { glyphs := extendLast c 0 glyphs, base }
  else if c = joiner then { glyphs := extendLast c 0 glyphs, base, joined := true }
  else if c = pictureMark then
    let width := if base.any (CodeRange.anyCovers widenedByPicture) then 1 else 0
    { glyphs := extendLast c width glyphs }
  else
    match charWidth c with
    | 0 => { glyphs := extendLast c 0 glyphs, base }
    | width => { glyphs := ⟨[c], width⟩ :: glyphs, base := some c }

def glyphs (text : Text) : List Glyph :=
  (text.foldl Measuring.add {}).glyphs.reverse

def glyphsWidth (glyphs : List Glyph) : Nat :=
  glyphs.foldl (fun total glyph => total + glyph.width) 0

def width (text : Text) : Nat :=
  glyphsWidth (glyphs text)

def addBlanks (cells : Nat) (text : Text) : Text :=
  text ++ List.replicate (cells - width text) ' '

/-- The text with blanks up to a number of cells. The second step replaces the blank that a joiner
at the end of the text has taken. -/
def padRight (cells : Nat) (text : Text) : Text :=
  addBlanks cells (addBlanks cells text)

/-- The glyphs that have room; a space takes the place of half a glyph. -/
def cropGlyphs (room : Nat) : List Glyph → Text
  | [] => []
  | glyph :: rest =>
    if glyph.width ≤ room then glyph.chars ++ cropGlyphs (room - glyph.width) rest
    else List.replicate room ' '

def crop (cells : Nat) (text : Text) : Text :=
  if width text ≤ cells then text else cropGlyphs cells (glyphs text)

def chopGlyphs (cells : Nat) (line : Text) (used : Nat) : List Glyph → List Text
  | [] => [line]
  | glyph :: rest =>
    if used + glyph.width ≤ cells then
      chopGlyphs cells (line ++ glyph.chars) (used + glyph.width) rest
    else line :: chopGlyphs cells glyph.chars glyph.width rest

def chop (cells : Nat) (text : Text) : List Text :=
  chopGlyphs cells [] 0 (glyphs text)

end ScriptAssist.Layout
