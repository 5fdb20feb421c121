/-!
# Texts

A text is its sequence of code points: every column, offset and length counts them. A property of
characters is given by the ranges of code points that have it.

A blank is a space of any width, a tab, a line or page break, or one of the four separator controls.
A text file may end its lines by a line feed, a carriage return, or both.
-/

namespace ScriptAssist

abbrev Text := List Char

instance : Coe String Text := ⟨String.toList⟩

/-- The code points from `first` to `last`, both included. -/
structure CodeRange where
  first : Nat
  last : Nat

namespace CodeRange

def covers (range : CodeRange) (c : Char) : Bool :=
  range.first ≤ c.toNat && c.toNat ≤ range.last

def anyCovers (ranges : List CodeRange) (c : Char) : Bool :=
  ranges.any (·.covers c)

end CodeRange

namespace Text

def ofNat (n : Nat) : Text :=
  Nat.toDigits 10 n

def ofInt : Int → Text
  | .ofNat n => ofNat n
  | .negSucc n => '-' :: ofNat (n + 1)

/-- The parts between the separators. A text without a separator is its only part. -/
def splitOn (separator : Char) : Text → List Text
  | [] => [[]]
  | c :: rest =>
    if c = separator then [] :: splitOn separator rest
    else
      match splitOn separator rest with
      | [] => [[c]]
      | part :: parts => (c :: part) :: parts

def dropEndWhile (p : Char → Bool) (text : Text) : Text :=
  (text.reverse.dropWhile p).reverse

/-- The characters before a column; there are none before a negative one. -/
def before (text : Text) (column : Int) : Text :=
  text.take column.toNat

def after (text : Text) (column : Int) : Text :=
  text.drop column.toNat

def indexOf? (pattern : Text) : Text → Option Nat
  | [] => if pattern.isEmpty then some 0 else none
  | c :: rest =>
    if pattern.isPrefixOf (c :: rest) then some 0
    else (indexOf? pattern rest).map (· + 1)

def occursIn (pattern text : Text) : Bool :=
  (indexOf? pattern text).isSome

/-- What follows the start of the last occurrence of a pattern, that occurrence included. -/
def fromLast? (pattern : Text) : Text → Option Text
  | [] => if pattern.isEmpty then some [] else none
  | c :: rest =>
    match fromLast? pattern rest with
    | some found => some found
    | none => if pattern.isPrefixOf (c :: rest) then some (c :: rest) else none

def insertSorted (text : Text) : List Text → List Text
  | [] => [text]
  | other :: rest =>
    if text < other then text :: other :: rest
    else if text = other then other :: rest
    else other :: insertSorted text rest

def sortedSet (texts : List Text) : List Text :=
  texts.foldr insertSorted []

def insertOn {α : Type} (text : α → Text) (item : α) : List α → List α
  | [] => [item]
  | other :: rest =>
    if text item ≤ text other then item :: other :: rest else other :: insertOn text item rest

def sortOn {α : Type} (text : α → Text) (items : List α) : List α :=
  items.foldr (insertOn text) []

/-! ### Blanks and lines -/

def isBlank (c : Char) : Bool :=
  let n := c.toNat
  (9 ≤ n && n ≤ 13) || (28 ≤ n && n ≤ 32) || n == 0x85 || n == 0xa0 || n == 0x1680 ||
    (0x2000 ≤ n && n ≤ 0x200a) || n == 0x2028 || n == 0x2029 || n == 0x202f || n == 0x205f ||
    n == 0x3000

def strip (text : Text) : Text :=
  dropEndWhile isBlank (text.dropWhile isBlank)

def words (text : Text) : List Text :=
  (splitOn ' ' (text.map fun c => if isBlank c then ' ' else c)).filter (!·.isEmpty)

/-- The text ends with the pattern, or with the pattern and one line break. -/
def endsLineWith (pattern text : Text) : Bool :=
  pattern.isSuffixOf text || (pattern ++ ['\n']).isSuffixOf text

def unifyNewlines : Text → Text
  | [] => []
  | '\r' :: '\n' :: rest => '\n' :: unifyNewlines rest
  | '\r' :: rest => '\n' :: unifyNewlines rest
  | c :: rest => c :: unifyNewlines rest

/-- The lines of a text, without the carriage returns that end them. -/
def lines (text : Text) : List Text :=
  (splitOn '\n' text).map (dropEndWhile (· == '\r'))

end Text

end ScriptAssist
