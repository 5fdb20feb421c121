import ScriptAssist.Limit
import ScriptAssist.Toml.Scalar

/-!
# Reading TOML

The reader accepts the documents of TOML 1.0. A document that is malformed, or that goes beyond a
limit of the reader, has no reading.
-/

namespace ScriptAssist.Toml

inductive ReadError
  | malformed
  | beyond (limit : Limit)
  deriving DecidableEq, Repr

def found {α : Type} : Option α → Except ReadError α
  | some part => .ok part
  | none => .error .malformed

def isSpace (c : Char) : Bool :=
  c == ' ' || c == '\t'

def isControl (c : Char) : Bool :=
  (c.toNat < 32 && c != '\t') || c.toNat == 127

def isControlInLines (c : Char) : Bool :=
  isControl c && c != '\n'

def skipSpaces (text : Text) : Text :=
  text.dropWhile isSpace

def skipComment? : Text → Option Text
  | '#' :: rest =>
    if (rest.takeWhile (· != '\n')).any isControl then none
    else some (rest.dropWhile (· != '\n'))
  | text => some text

def skipLines? (inComment : Bool) : Text → Option Text
  | [] => some []
  | c :: rest =>
    if inComment then
      if c = '\n' then skipLines? false rest
      else if isControl c then none
      else skipLines? true rest
    else if isSpace c || c = '\n' then skipLines? false rest
    else if c = '#' then skipLines? true rest
    else some (c :: rest)

def isBareKeyChar (c : Char) : Bool :=
  c.isAlphanum || c == '-' || c == '_'

def readCode? (width : Nat) (text : Text) : Option (Char × Text) :=
  let digits := text.take width
  if digits.length == width && digits.all Text.isHexDigit && (Text.hexValue digits).isValidChar then
    some (Char.ofNat (Text.hexValue digits), text.drop width)
  else none

def plainEscape? : Char → Option Char
  | 'b' => some '\x08'
  | 't' => some '\t'
  | 'n' => some '\n'
  | 'f' => some '\x0c'
  | 'r' => some '\r'
  | '\x22' => some '\x22'
  | '\\' => some '\\'
  | _ => none

/-- What an escape stands for. At the end of a line of a text of several lines it takes away all
blanks up to the next character. -/
def readEscape? (severalLines : Bool) : Text → Option (Text × Text)
  | 'u' :: rest => (readCode? 4 rest).map fun (c, rest) => ([c], rest)
  | 'U' :: rest => (readCode? 8 rest).map fun (c, rest) => ([c], rest)
  | c :: rest =>
    match plainEscape? c with
    | some plain => some ([plain], rest)
    | none =>
      if severalLines && (isSpace c || c = '\n') then
        match skipSpaces (c :: rest) with
        | [] => some ([], [])
        | '\n' :: rest => some ([], rest.dropWhile fun c => isSpace c || c == '\n')
        | _ => none
      else none
  | [] => none

def readBasic? (severalLines : Bool) : Nat → Text → Option (Text × Text)
  | 0, _ => none
  | _ + 1, [] => none
  | fuel + 1, c :: rest =>
    if c = '\x22' then
      if !severalLines then some ([], rest)
      else if (['\x22', '\x22'] : Text).isPrefixOf rest then some ([], rest.drop 2)
      else do
        let (chars, rest) ← readBasic? severalLines fuel rest
        pure (c :: chars, rest)
    else if c = '\\' then do
      let (chars, rest) ← readEscape? severalLines rest
      let (more, rest) ← readBasic? severalLines fuel rest
      pure (chars ++ more, rest)
    else if (if severalLines then isControlInLines c else isControl c) then none
    else do
      let (chars, rest) ← readBasic? severalLines fuel rest
      pure (c :: chars, rest)

def readLiteral? (text : Text) : Option (Text × Text) :=
  match text.span (· != '\x27') with
  | (chars, _ :: rest) => if chars.any isControl then none else some (chars, rest)
  | (_, []) => none

def readLiteralLines? : Text → Option (Text × Text)
  | [] => none
  | c :: rest =>
    if (['\x27', '\x27', '\x27'] : Text).isPrefixOf (c :: rest) then some ([], rest.drop 2)
    else if isControlInLines c then none
    else (readLiteralLines? rest).map fun (chars, rest) => (c :: chars, rest)

def dropFirstBreak : Text → Text
  | '\n' :: rest => rest
  | text => text

/-- Up to two quotes before the closing ones belong to the text. -/
def withLastQuotes (quote : Char) (chars rest : Text) : Text × Text :=
  let extra := (rest.take 2).takeWhile (· == quote)
  (chars ++ extra, rest.drop extra.length)

def readText? (text : Text) : Option (Text × Text) :=
  match text with
  | '\x22' :: '\x22' :: '\x22' :: rest => do
    let (chars, rest) ← readBasic? true (rest.length + 1) (dropFirstBreak rest)
    pure (withLastQuotes '\x22' chars rest)
  | '\x22' :: rest => readBasic? false (rest.length + 1) rest
  | '\x27' :: '\x27' :: '\x27' :: rest => do
    let (chars, rest) ← readLiteralLines? (dropFirstBreak rest)
    pure (withLastQuotes '\x27' chars rest)
  | '\x27' :: rest => readLiteral? rest
  | _ => none

def readKeyPart? (text : Text) : Option (Text × Text) :=
  match text with
  | '\x22' :: rest => readBasic? false (rest.length + 1) rest
  | '\x27' :: rest => readLiteral? rest
  | _ =>
    let (chars, rest) := text.span isBareKeyChar
    if chars.isEmpty then none else some (chars, rest)

def readKey? : Nat → Text → Option (KeyPath × Text)
  | 0, _ => none
  | fuel + 1, text => do
    let (part, rest) ← readKeyPart? text
    match skipSpaces rest with
    | '.' :: rest =>
      let (path, rest) ← readKey? fuel (skipSpaces rest)
      pure (part :: path, rest)
    | rest => pure ([part], rest)

def afterScalar? (text : Text) : Option Text :=
  if (['t', 'r', 'u', 'e'] : Text).isPrefixOf text then some (text.drop 4)
  else if (['f', 'a', 'l', 's', 'e'] : Text).isPrefixOf text then some (text.drop 5)
  else afterPlain? text

def isDecimalInteger (written : Text) : Bool :=
  (dropSign written).all fun c => c.isDigit || c == '_'

def readScalar (text : Text) : Except ReadError (Value × Text) := do
  let rest ← found (afterScalar? text)
  let written := text.take (text.length - rest.length)
  let digits := written.countP Char.isDigit
  if isDecimalInteger written && Limit.maxDigits < digits then .error (.beyond (.digits digits))
  else .ok (.scalar written, rest)

/-- An inline table as it is read, with the paths that may not be extended. -/
structure Inline where
  table : Table
  closed : List KeyPath

def holdsValues : Value → Bool
  | .array _ => true
  | .table _ => true
  | _ => false

def Inline.add? (inline : Inline) (path : KeyPath) (value : Value) : Option Inline := do
  if inline.closed.any (·.isPrefixOf path) then none
  let stem ← path.getLast?
  let table ← Table.alter? false (Table.add? stem value) path.dropLast inline.table
  pure ⟨table, if holdsValues value then path :: inline.closed else inline.closed⟩

/-- The room that arrays and inline tables may take inside one another. -/
def maxRoom : Nat := 984

def arrayRoom : Nat := 2

def tableRoom : Nat := 3

mutual

def readValue : Nat → Nat → Text → Except ReadError (Value × Text)
  | 0, _, _ => .error .malformed
  | fuel + 1, room, text =>
    match text with
    | '[' :: rest =>
      if room < arrayRoom then .error (.beyond .tables)
      else do
        let (items, rest) ← readItems fuel (room - arrayRoom) (← found (skipLines? false rest))
        pure (.array items, rest)
    | '{' :: rest =>
      if room < tableRoom then .error (.beyond .tables)
      else
        match skipSpaces rest with
        | '}' :: rest => .ok (.table [], rest)
        | rest => do
          let (inline, rest) ← readInline fuel (room - tableRoom) ⟨[], []⟩ rest
          pure (.table inline.table, rest)
    | c :: _ =>
      if c = '\x22' || c = '\x27' then do
        let (chars, rest) ← found (readText? text)
        pure (.text chars, rest)
      else readScalar text
    | [] => .error .malformed

def readItems : Nat → Nat → Text → Except ReadError (List Value × Text)
  | 0, _, _ => .error .malformed
  | fuel + 1, room, text =>
    match text with
    | ']' :: rest => .ok ([], rest)
    | _ => do
      let (item, rest) ← readValue fuel room text
      match ← found (skipLines? false rest) with
      | ']' :: rest => pure ([item], rest)
      | ',' :: rest =>
        let (items, rest) ← readItems fuel room (← found (skipLines? false rest))
        pure (item :: items, rest)
      | _ => .error .malformed

def readInline : Nat → Nat → Inline → Text → Except ReadError (Inline × Text)
  | 0, _, _, _ => .error .malformed
  | fuel + 1, room, inline, text => do
    let (path, rest) ← found (readKey? (text.length + 1) text)
    let rest ← found (afterChar? '=' rest)
    let (value, rest) ← readValue fuel room (skipSpaces rest)
    let inline ← found (inline.add? path value)
    match skipSpaces rest with
    | '}' :: rest => pure (inline, rest)
    | ',' :: rest => readInline fuel room inline (skipSpaces rest)
    | _ => .error .malformed

end

/-- A document as it is read. A table in `opened` has had its header, or keys that lead through it.
No path below one in `closed` can be extended. The paths in `pending` are opened when the next
header comes. -/
structure Document where
  root : Table := []
  header : KeyPath := []
  opened : List KeyPath := []
  closed : List KeyPath := []
  pending : List KeyPath := []

namespace Document

def isClosed (document : Document) (path : KeyPath) : Bool :=
  document.closed.any (·.isPrefixOf path)

def settle (document : Document) : Document :=
  { document with opened := document.pending ++ document.opened, pending := [] }

def openTable? (document : Document) (path : KeyPath) : Option Document := do
  if document.opened.contains path || document.isClosed path then none
  let root ← Table.alter? true some path document.root
  pure { document with root, header := path, opened := path :: document.opened }

def openItem? (document : Document) (path : KeyPath) : Option Document := do
  if document.isClosed path then none
  let stem ← path.getLast?
  let root ← Table.alter? true (Table.appendTable? stem) path.dropLast document.root
  pure
    { document with
      root
      header := path
      opened := path :: document.opened.filter (!path.isPrefixOf ·)
      closed := document.closed.filter (!path.isPrefixOf ·) }

def add? (document : Document) (path : KeyPath) (value : Value) : Option Document := do
  let stem ← path.getLast?
  let parents := ((List.range path.length).drop 1).map fun n => document.header ++ path.take n
  if parents.any document.opened.contains then none
  let parent := document.header ++ path.dropLast
  if document.isClosed parent then none
  let root ← Table.alter? true (Table.add? stem value) parent document.root
  pure
    { document with
      root
      pending := parents ++ document.pending
      closed :=
        if holdsValues value then (document.header ++ path) :: document.closed
        else document.closed }

end Document

def readHeader? (document : Document) (text : Text) : Option (Document × Text) :=
  match text with
  | '[' :: '[' :: rest => do
    let (path, rest) ← readKey? (rest.length + 1) (skipSpaces rest)
    let document ← document.settle.openItem? path
    let rest ← afterChar? ']' rest
    let rest ← afterChar? ']' rest
    pure (document, rest)
  | '[' :: rest => do
    let (path, rest) ← readKey? (rest.length + 1) (skipSpaces rest)
    let document ← document.settle.openTable? path
    let rest ← afterChar? ']' rest
    pure (document, rest)
  | _ => none

def readStatement (document : Document) (text : Text) : Except ReadError (Document × Text) :=
  match text with
  | '[' :: _ => found (readHeader? document text)
  | '#' :: _ => .ok (document, text)
  | _ => do
    let (path, rest) ← found (readKey? (text.length + 1) text)
    let rest ← found (afterChar? '=' rest)
    let (value, rest) ← readValue (2 * rest.length + 2) maxRoom (skipSpaces rest)
    let document ← found (document.add? path value)
    pure (document, rest)

def readLines : Nat → Document → Text → Except ReadError Document
  | 0, document, _ => .ok document
  | fuel + 1, document, text =>
    match skipSpaces text with
    | [] => .ok document
    | '\n' :: rest => readLines fuel document rest
    | text => do
      let (document, rest) ← readStatement document text
      match ← found (skipComment? (skipSpaces rest)) with
      | [] => pure document
      | '\n' :: rest => readLines fuel document rest
      | _ => .error .malformed

def read (text : Text) : Except ReadError Table :=
  (readLines (text.length + 1) {} text).map (·.root)

end ScriptAssist.Toml
