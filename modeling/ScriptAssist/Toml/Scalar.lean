import ScriptAssist.Text.Digits
import ScriptAssist.Toml.Value

/-!
# Numbers, dates and times

Each reader gives what follows the longest text of its form at the front, or `none`.
-/

namespace ScriptAssist.Toml

def afterBased? : Text → Option Text
  | '0' :: 'x' :: rest => Text.afterDigits? Text.isHexDigit rest
  | '0' :: 'b' :: rest => Text.afterDigits? (fun c => c == '0' || c == '1') rest
  | '0' :: 'o' :: rest => Text.afterDigits? (fun c => '0' ≤ c && c ≤ '7') rest
  | _ => none

def dropSign : Text → Text
  | '+' :: rest => rest
  | '-' :: rest => rest
  | text => text

def afterWhole? : Text → Option Text
  | '0' :: rest => some rest
  | text => Text.afterDigits? Char.isDigit text

def dropFraction (text : Text) : Text :=
  match text with
  | '.' :: rest => (Text.afterDigits? Char.isDigit rest).getD text
  | _ => text

def dropExponent (text : Text) : Text :=
  match text with
  | 'e' :: rest => (Text.afterDigits? Char.isDigit (dropSign rest)).getD text
  | 'E' :: rest => (Text.afterDigits? Char.isDigit (dropSign rest)).getD text
  | _ => text

def afterNumber? (text : Text) : Option Text :=
  match afterBased? text with
  | some rest => some rest
  | none => (afterWhole? (dropSign text)).map fun rest => dropExponent (dropFraction rest)

def afterNumberWord? (text : Text) : Option Text :=
  let unsigned := dropSign text
  if ["inf".toList, "nan".toList].contains (unsigned.take 3) then some (unsigned.drop 3) else none

def twoDigits? (low high : Nat) : Text → Option (Nat × Text)
  | a :: b :: rest =>
    let n := (a.toNat - 48) * 10 + (b.toNat - 48)
    if a.isDigit && b.isDigit && low ≤ n && n ≤ high then some (n, rest) else none
  | _ => none

def afterChar? (expected : Char) : Text → Option Text
  | c :: rest => if c = expected then some rest else none
  | [] => none

def dropSecondFraction (text : Text) : Text :=
  match text with
  | '.' :: c :: rest => if c.isDigit then rest.dropWhile Char.isDigit else text
  | _ => text

def afterTime? (text : Text) : Option Text := do
  let (_, rest) ← twoDigits? 0 23 text
  let rest ← afterChar? ':' rest
  let (_, rest) ← twoDigits? 0 59 rest
  let rest ← afterChar? ':' rest
  let (_, rest) ← twoDigits? 0 59 rest
  pure (dropSecondFraction rest)

def afterOffset? : Text → Option Text
  | 'Z' :: rest => some rest
  | 'z' :: rest => some rest
  | c :: rest =>
    if c = '+' || c = '-' then do
      let (_, rest) ← twoDigits? 0 23 rest
      let rest ← afterChar? ':' rest
      let (_, rest) ← twoDigits? 0 59 rest
      pure rest
    else none
  | [] => none

def dropOffset (text : Text) : Text :=
  (afterOffset? text).getD text

def dropTimeOfDay (text : Text) : Text :=
  match text with
  | c :: rest =>
    if c = 'T' || c = 't' || c = ' ' then ((afterTime? rest).map dropOffset).getD text else text
  | [] => text

structure Date where
  year : Nat
  month : Nat
  day : Nat

def isLeap (year : Nat) : Bool :=
  year % 4 == 0 && (year % 100 != 0 || year % 400 == 0)

def daysIn (year month : Nat) : Nat :=
  if month == 2 then (if isLeap year then 29 else 28)
  else if [4, 6, 9, 11].contains month then 30
  else 31

def Date.isReal (date : Date) : Bool :=
  1 ≤ date.year && date.day ≤ daysIn date.year date.month

def readDate? (text : Text) : Option (Date × Text) := do
  let (century, rest) ← twoDigits? 0 99 text
  let (year, rest) ← twoDigits? 0 99 rest
  let rest ← afterChar? '-' rest
  let (month, rest) ← twoDigits? 1 12 rest
  let rest ← afterChar? '-' rest
  let (day, rest) ← twoDigits? 1 31 rest
  pure (⟨century * 100 + year, month, day⟩, rest)

/-- A date that does not exist is refused, also where its digits would make a number. -/
def afterPlain? (text : Text) : Option Text :=
  match readDate? text with
  | some (date, rest) => if date.isReal then some (dropTimeOfDay rest) else none
  | none =>
    match afterTime? text with
    | some rest => some rest
    | none =>
      match afterNumber? text with
      | some rest => some rest
      | none => afterNumberWord? text

end ScriptAssist.Toml
