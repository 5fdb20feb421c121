import ScriptAssist.Json.Value
import ScriptAssist.Keyed
import ScriptAssist.Limit
import ScriptAssist.Text.Digits

/-!
# Reading JSON

The reader takes one value with blanks around it. It also takes `NaN` and the infinities. Of a
repeated member the last value counts. An error says what was wrong, and at which place; a text may
also go beyond a limit of the reader.
-/

namespace ScriptAssist.Json

inductive Complaint
  | expectingValue
  | expectingComma
  | expectingColon
  | expectingName
  | unterminatedText
  | controlCharacter
  | badEscape
  | badCodeEscape
  | extraData
  | byteOrderMark
  deriving DecidableEq, Repr

def Complaint.message : Complaint → Text
  | expectingValue => "Expecting value"
  | expectingComma => "Expecting ',' delimiter"
  | expectingColon => "Expecting ':' delimiter"
  | expectingName => "Expecting property name enclosed in double quotes"
  | unterminatedText => "Unterminated string starting at"
  | controlCharacter => "Invalid control character at"
  | badEscape => "Invalid \\escape"
  | badCodeEscape => "Invalid \\uXXXX escape"
  | extraData => "Extra data"
  | byteOrderMark => "Unexpected UTF-8 BOM (decode using utf-8-sig)"

inductive ReadError
  /-- A complaint about the place that `left` characters follow. -/
  | malformed (complaint : Complaint) (left : Nat)
  | beyond (limit : Limit)
  deriving DecidableEq, Repr

def lineOf (text : Text) (left : Nat) : Nat :=
  (text.take (text.length - left)).count '\n' + 1

def refuse {α : Type} (complaint : Complaint) (rest : Text) : Except ReadError α :=
  .error (.malformed complaint rest.length)

def isSpace (c : Char) : Bool :=
  c == ' ' || c == '\t' || c == '\n' || c == '\r'

def skipSpaces (text : Text) : Text :=
  text.dropWhile isSpace

def codeUnit? : Text → Option (Nat × Text)
  | a :: b :: c :: d :: rest => do
    let a ← Text.hexDigit? a
    let b ← Text.hexDigit? b
    let c ← Text.hexDigit? c
    let d ← Text.hexDigit? d
    pure (((a * 16 + b) * 16 + c) * 16 + d, rest)
  | _ => none

def isHighSurrogate (code : Nat) : Bool :=
  0xd800 ≤ code && code < 0xdc00

def isLowSurrogate (code : Nat) : Bool :=
  0xdc00 ≤ code && code < 0xe000

/-- A character that stands alone in the text; half a pair has no character of its own. -/
def charOfUnit (code : Nat) : Char :=
  if isHighSurrogate code || isLowSurrogate code then '�' else Char.ofNat code

/-- A character given by its code, after the escape mark. At least one character has to follow. The
two halves of a pair make one character. -/
def readCode (mark rest : Text) : Except ReadError (Char × Text) :=
  match codeUnit? rest with
  | none => refuse .badCodeEscape mark
  | some (_, []) => refuse .badCodeEscape mark
  | some (high, '\\' :: 'u' :: more) =>
    if isHighSurrogate high && 5 ≤ more.length then
      match codeUnit? more with
      | none => refuse .badCodeEscape mark
      | some (low, rest) =>
        if isLowSurrogate low then
          .ok (Char.ofNat (0x10000 + (high - 0xd800) * 1024 + (low - 0xdc00)), rest)
        else .ok (charOfUnit high, '\\' :: 'u' :: more)
    else .ok (charOfUnit high, '\\' :: 'u' :: more)
  | some (code, rest) => .ok (charOfUnit code, rest)

def plainEscape? : Char → Option Char
  | '\x22' => some '\x22'
  | '\\' => some '\\'
  | '/' => some '/'
  | 'b' => some '\x08'
  | 'f' => some '\x0c'
  | 'n' => some '\n'
  | 'r' => some '\r'
  | 't' => some '\t'
  | _ => none

def readEscape (opening mark : Text) : Text → Except ReadError (Char × Text)
  | [] => refuse .unterminatedText opening
  | 'u' :: rest => readCode mark rest
  | c :: rest =>
    match plainEscape? c with
    | some plain => .ok (plain, rest)
    | none => refuse .badEscape mark

def readText (opening : Text) : Nat → Text → Except ReadError (Text × Text)
  | 0, _ => refuse .unterminatedText opening
  | _ + 1, [] => refuse .unterminatedText opening
  | fuel + 1, c :: rest =>
    if c = '\x22' then .ok ([], rest)
    else if c = '\\' then do
      let (char, rest) ← readEscape opening (c :: rest) rest
      let (chars, rest) ← readText opening fuel rest
      pure (char :: chars, rest)
    else if c.toNat < 32 then refuse .controlCharacter (c :: rest)
    else do
      let (chars, rest) ← readText opening fuel rest
      pure (c :: chars, rest)

def readFraction : Text → Option (Text × Text)
  | '.' :: rest =>
    let (digits, rest) := rest.span Char.isDigit
    if digits.isEmpty then none else some (digits, rest)
  | _ => none

def readExponent : Text → Option (Int × Text)
  | c :: rest =>
    if c = 'e' || c = 'E' then
      let (negative, rest) :=
        match rest with
        | '-' :: rest => (true, rest)
        | '+' :: rest => (false, rest)
        | rest => (false, rest)
      let (digits, rest) := rest.span Char.isDigit
      if digits.isEmpty then none
      else
        let size : Int := Text.natOfDigits digits
        some (if negative then -size else size, rest)
    else none
  | [] => none

def readNumber (text : Text) : Except ReadError (Value × Text) :=
  let (negative, unsigned) :=
    match text with
    | '-' :: rest => (true, rest)
    | rest => (false, rest)
  let (whole, rest) :=
    match unsigned with
    | '0' :: rest => (['0'], rest)
    | rest => rest.span Char.isDigit
  if whole.isEmpty then refuse .expectingValue text
  else
    let fraction := readFraction rest
    let (places, rest) := fraction.getD ([], rest)
    let exponent := readExponent rest
    let (shift, rest) := exponent.getD (0, rest)
    let size := Text.natOfDigits (whole ++ places)
    if fraction.isSome || exponent.isSome then
      .ok (.float (Double.ofDecimal negative size (shift - places.length)), rest)
    else if Limit.maxDigits < whole.length then .error (.beyond (.digits whole.length))
    else .ok (.int (if negative then -size else size), rest)

def words : List (Text × Value) :=
  [("null", .null), ("true", .bool true), ("false", .bool false), ("NaN", .float .nan),
    ("Infinity", .float (.infinite false)), ("-Infinity", .float (.infinite true))]

def readWord (text : Text) : Option (Value × Text) :=
  words.findSome? fun (word, value) =>
    if word.isPrefixOf text then some (value, text.drop word.length) else none

def readScalar (text : Text) : Except ReadError (Value × Text) :=
  match readWord text with
  | some found => .ok found
  | none => readNumber text

def maxDepth : Nat := 985

mutual

/-- A value, with `room` for lists and objects inside one another. Twice the length of the text is
fuel enough. -/
def readValue : Nat → Nat → Text → Except ReadError (Value × Text)
  | 0, _, text => refuse .expectingValue text
  | fuel + 1, _, '\x22' :: rest => do
    let (chars, rest) ← readText ('\x22' :: rest) (fuel + 1) rest
    pure (.text chars, rest)
  | _ + 1, 0, '[' :: _ => .error (.beyond .lists)
  | fuel + 1, room + 1, '[' :: rest =>
    match skipSpaces rest with
    | ']' :: rest => .ok (.list [], rest)
    | rest => do
      let (items, rest) ← readItems fuel room rest
      pure (.list items, rest)
  | _ + 1, 0, '{' :: _ => .error (.beyond .objects)
  | fuel + 1, room + 1, '{' :: rest =>
    match skipSpaces rest with
    | '}' :: rest => .ok (.object [], rest)
    | rest => do
      let (members, rest) ← readMembers fuel room rest
      pure (.object (Keyed.dedupe Prod.fst members), rest)
  | _ + 1, _, text => readScalar text

def readItems : Nat → Nat → Text → Except ReadError (List Value × Text)
  | 0, _, text => refuse .expectingValue text
  | fuel + 1, room, text => do
    let (item, rest) ← readValue fuel room text
    match skipSpaces rest with
    | ']' :: rest => pure ([item], rest)
    | ',' :: rest =>
      let (items, rest) ← readItems fuel room (skipSpaces rest)
      pure (item :: items, rest)
    | rest => refuse .expectingComma rest

def readMembers : Nat → Nat → Text → Except ReadError (List (Text × Value) × Text)
  | 0, _, text => refuse .expectingName text
  | fuel + 1, room, '\x22' :: rest => do
    let (name, rest) ← readText ('\x22' :: rest) (fuel + 1) rest
    match skipSpaces rest with
    | ':' :: rest =>
      let (value, rest) ← readValue fuel room (skipSpaces rest)
      match skipSpaces rest with
      | '}' :: rest => pure ([(name, value)], rest)
      | ',' :: rest =>
        let (members, rest) ← readMembers fuel room (skipSpaces rest)
        pure ((name, value) :: members, rest)
      | rest => refuse .expectingComma rest
    | rest => refuse .expectingColon rest
  | _ + 1, _, text => refuse .expectingName text

end

def read (text : Text) : Except ReadError Value :=
  if ['﻿'].isPrefixOf text then refuse .byteOrderMark text
  else do
    let (value, rest) ← readValue (2 * text.length + 2) maxDepth (skipSpaces text)
    match skipSpaces rest with
    | [] => pure value
    | rest => refuse .extraData rest

end ScriptAssist.Json
