import ScriptAssist.Layout.Cells
import ScriptAssist.Text.Basic

/-!
# Lines of limited width

A line is broken before a word that has no room. What happens to a word that is wider than a whole
line is up to the overflow: it goes on in further lines, or it is cut and ends with an ellipsis.
-/

namespace ScriptAssist.Layout

inductive Overflow
  | fold
  | ellipsis
  deriving DecidableEq, Repr

def expandTabs (text : Text) : Text :=
  let parts := Text.splitOn '\t' text
  parts.dropLast.flatMap (fun part =>
    let cells := width (part ++ [' '])
    part ++ [' '] ++ List.replicate ((8 - cells % 8) % 8) ' ') ++ parts.getLast?.getD []

/-- The words of a text with the blanks after each; the first has those before it too. -/
def wordsFrom (word : Text) : Text → List Text
  | [] => if word.all Text.isBlank then [] else [word.reverse]
  | c :: rest =>
    -- a word ends where the next one starts
    if !Text.isBlank c && word.head?.any Text.isBlank && !word.all Text.isBlank then
      word.reverse :: wordsFrom [c] rest
    else wordsFrom (c :: word) rest

structure Filling where
  lines : List Text := []
  used : Nat := 0

namespace Filling

def start (filling : Filling) (texts : List Text) : Filling :=
  ⟨texts.reverse ++ filling.lines, width (texts.getLast?.getD [])⟩

def continueLine (filling : Filling) (word : Text) : Filling :=
  match filling.lines with
  | [] => ⟨[word], width word⟩
  | line :: lines => ⟨(line ++ word) :: lines, filling.used + width word⟩

def add (cells : Nat) (overflow : Overflow) (filling : Filling) (word : Text) : Filling :=
  let needed := width (Text.dropEndWhile Text.isBlank word)
  if filling.used + needed ≤ cells then filling.continueLine word
  else if needed ≤ cells || overflow == .ellipsis then filling.start [word]
  else filling.start (chop cells word)

end Filling

/-- A line cut before words, or inside words that are folded. The pieces together are the line. -/
def breakLine (cells : Nat) (overflow : Overflow) (line : Text) : List Text :=
  match ((wordsFrom [] line).foldl (Filling.add cells overflow) {}).lines with
  | [] => [line]
  | lines => lines.reverse

/-- Takes blanks away from the end of a line that has more characters than it has cells. -/
def dropSpareBlanks (cells : Nat) (line : Text) : Text :=
  let blanks := (line.reverse.takeWhile Text.isBlank).length
  line.take (line.length - min blanks (line.length - cells))

def truncate (cells : Nat) (overflow : Overflow) (line : Text) : Text :=
  if width line ≤ cells then line
  else
    match overflow with
    | .fold => crop cells line
    | .ellipsis => crop (cells - 1) line ++ ['…']

def wrap (cells : Nat) (overflow : Overflow) (text : Text) : List Text :=
  (Text.splitOn '\n' text).flatMap fun line =>
    (breakLine cells overflow (expandTabs line)).map fun piece =>
      truncate cells overflow (dropSpareBlanks cells piece)

end ScriptAssist.Layout
