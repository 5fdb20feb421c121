import ScriptAssist.Limit

/-!
# Digits and numbers

Each script's ten digits follow one another, so its zero stands for all of them.

A whole number may have blanks around it, a plus sign, zeros before its first digit and a fraction
of zeros. One underscore may stand between two of its digits, and any number of them among the zeros
in front. The number of its digits is limited.
-/

namespace ScriptAssist.Text

/-- The digit zero of every script beyond ASCII. -/
def zeroDigits : List Nat := [
  0x0660, 0x06f0, 0x07c0, 0x0966, 0x09e6, 0x0a66, 0x0ae6, 0x0b66, 0x0be6, 0x0c66, 0x0ce6,
  0x0d66, 0x0de6, 0x0e50, 0x0ed0, 0x0f20, 0x1040, 0x1090, 0x17e0, 0x1810, 0x1946, 0x19d0,
  0x1a80, 0x1a90, 0x1b50, 0x1bb0, 0x1c40, 0x1c50, 0xa620, 0xa8d0, 0xa900, 0xa9d0, 0xa9f0,
  0xaa50, 0xabf0, 0xff10, 0x104a0, 0x10d30, 0x11066, 0x110f0, 0x11136, 0x111d0, 0x112f0,
  0x11450, 0x114d0, 0x11650, 0x116c0, 0x11730, 0x118e0, 0x11950, 0x11c50, 0x11d50, 0x11da0,
  0x16a60, 0x16ac0, 0x16b50, 0x1d7ce, 0x1d7d8, 0x1d7e2, 0x1d7ec, 0x1d7f6, 0x1e140, 0x1e2f0,
  0x1e950, 0x1fbf0]

def digitValue? (c : Char) : Option Nat :=
  if c.toNat < 128 then (if c.isDigit then some (c.toNat - 48) else none)
  else
    (zeroDigits.find? fun start => start ≤ c.toNat && c.toNat < start + 10).map (c.toNat - ·)

def isDecimalDigit (c : Char) : Bool :=
  (digitValue? c).isSome

def hexDigit? (c : Char) : Option Nat :=
  if c.isDigit then some (c.toNat - 48)
  else if 'a' ≤ c && c ≤ 'f' then some (c.toNat - 87)
  else if 'A' ≤ c && c ≤ 'F' then some (c.toNat - 55)
  else none

def isHexDigit (c : Char) : Bool :=
  (hexDigit? c).isSome

def hexValue (digits : Text) : Nat :=
  digits.foldl (fun n c => n * 16 + (hexDigit? c).getD 0) 0

def hexDigits (width n : Nat) : Text :=
  let digits := Nat.toDigits 16 n
  List.replicate (width - digits.length) '0' ++ digits

/-! ### Runs of digits -/

def natOfDigits (digits : Text) : Nat :=
  digits.foldl (fun n c => n * 10 + (c.toNat - 48)) 0

/-- The rest of a run of digits; one underscore may stand before each of them. -/
def dropDigits (isDigit : Char → Bool) : Text → Text
  | '_' :: c :: rest => if isDigit c then dropDigits isDigit rest else '_' :: c :: rest
  | c :: rest => if isDigit c then dropDigits isDigit rest else c :: rest
  | [] => []

def afterDigits? (isDigit : Char → Bool) : Text → Option Text
  | c :: rest => if isDigit c then some (dropDigits isDigit rest) else none
  | [] => none

/-! ### Whole numbers -/

/-- A blank that may surround a number: all but the separator controls. -/
def isOuterBlank (c : Char) : Bool :=
  isBlank c && !(28 ≤ c.toNat && c.toNat ≤ 31)

/-- The text after zeros and underscores, of which the last is kept if no digit follows. -/
def afterZeros? (last : Char) : Text → Option Text
  | [] => some [last]
  | c :: rest =>
    if c = '0' || c = '_' then afterZeros? c rest
    else if c.isDigit then some (c :: rest)
    else if c = '.' then some (last :: c :: rest)
    else none

def dropZeros? : Text → Option Text
  | '0' :: rest => afterZeros? '0' rest
  | text => some text

def dropZeroFraction (text : Text) : Text :=
  match text.span (· != '.') with
  | (whole, _ :: places) => if !places.isEmpty && places.all (· == '0') then whole else text
  | _ => text

def ungrouped? (text : Text) : Option Text :=
  let groups := splitOn '_' text
  if groups.any List.isEmpty then none else some groups.flatten

def dropPlus : Text → Text
  | '+' :: rest => rest
  | text => text

def readNat? (text : Text) : Option Nat := do
  let trimmed := dropEndWhile isOuterBlank (text.dropWhile isOuterBlank)
  let significant ← dropZeros? (dropPlus trimmed)
  let digits ← ungrouped? (dropZeroFraction significant)
  if digits.all Char.isDigit && digits.length ≤ Limit.maxDigits then some (natOfDigits digits)
  else none

end ScriptAssist.Text
