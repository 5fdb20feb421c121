import ScriptAssist.Layout.Emoji
import ScriptAssist.Layout.Wrap

/-!
# Lines on a terminal

The controls that move the cursor are left out, names of pictures become pictures, and lines are
wrapped at the width of the terminal.
-/

namespace ScriptAssist.Layout

def isCursorControl (c : Char) : Bool :=
  [7, 8, 11, 12, 13].contains c.toNat

def withoutControls (text : Text) : Text :=
  text.filter (!isCursorControl ·)

def terminalWidth : Nat := 5000

def printed (text : Text) : Text :=
  (wrap terminalWidth .fold (withoutControls text)).flatMap (· ++ ['\n'])

def sequenceLength? : Text → Option Nat
  | '[' :: rest =>
    match rest.span fun c => c.isDigit || c == ';' || c == '?' with
    | (numbers, c :: _) => if c.isAlpha then some (numbers.length + 2) else none
    | _ => none
  | _ => none

/-- Leaves out escape sequences. The first `taken` characters belong to one. -/
def withoutSequencesFrom (taken : Nat) : Text → Text
  | [] => []
  | c :: rest =>
    match taken with
    | taken + 1 => withoutSequencesFrom taken rest
    | 0 =>
      match if c = '\x1b' then sequenceLength? rest else none with
      | some length => withoutSequencesFrom length rest
      | none => c :: withoutSequencesFrom 0 rest

def withoutSequences (text : Text) : Text :=
  withoutSequencesFrom 0 text

end ScriptAssist.Layout
