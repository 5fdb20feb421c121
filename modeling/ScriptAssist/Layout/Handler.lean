import ScriptAssist.Limit
import ScriptAssist.Text.Basic
import ScriptAssist.Text.Digits
import ScriptAssist.Text.WordChar

/-!
# Parameters of handlers

A tag may name a handler. Its parameters are a name, a name with arguments in parentheses, or a
literal; the arguments are a literal too. Literals are numbers, texts, the words for nothing, true
and false, three points, and tuples, sets and dictionaries of literals. The members of a set and the
keys of a dictionary may be neither sets nor dictionaries, nor tuples that hold one.
-/

namespace ScriptAssist.Layout.Handler

inductive Token
  | real
  | imaginary
  | text (bytes : Bool)
  | word (name : Text)
  | points
  | mark (c : Char)
  | lineEnd
  deriving DecidableEq, Repr

def baseDigits? (letter : Char) : Option (Char → Bool) :=
  if letter = 'x' then some Text.isHexDigit
  else if letter = 'o' then some fun c => '0' ≤ c && c ≤ '7'
  else if letter = 'b' then some fun c => c == '0' || c == '1'
  else none

def afterBased? : Text → Option Text
  | '0' :: letter :: rest => do
    let isDigit ← baseDigits? letter.toLower
    Text.afterDigits? isDigit (if rest.head? = some '_' then rest.drop 1 else rest)
  | _ => none

def dropFraction : Text → Text
  | '.' :: rest => (Text.afterDigits? Char.isDigit rest).getD rest
  | text => text

def dropExponent (text : Text) : Text :=
  match text with
  | c :: rest =>
    if c = 'e' || c = 'E' then
      let unsigned := if rest.head? = some '-' || rest.head? = some '+' then rest.drop 1 else rest
      (Text.afterDigits? Char.isDigit unsigned).getD text
    else text
  | [] => text

/-- A whole number in decimal has no zero before another digit. -/
def isWhole (digits : Text) : Bool :=
  (digits.head? != some '0' || digits.all fun c => c == '0' || c == '_') &&
    digits.countP Char.isDigit ≤ Limit.maxDigits

def decimal? (text : Text) : Option (Token × Text) :=
  let afterWhole := (Text.afterDigits? Char.isDigit text).getD text
  let rest := dropExponent (dropFraction afterWhole)
  let written := text.take (text.length - rest.length)
  match rest with
  | 'j' :: rest => some (.imaginary, rest)
  | 'J' :: rest => some (.imaginary, rest)
  | _ =>
    if rest.length < afterWhole.length || isWhole written then some (.real, rest) else none

def number? (text : Text) : Option (Token × Text) := do
  let (token, rest) ←
    match afterBased? text with
    | some rest => some (.real, rest)
    | none => decimal? text
  if rest.head?.any Text.isWordChar then none else some (token, rest)

structure Quoting where
  quote : Char
  tripled : Bool
  raw : Bool
  bytes : Bool

def startsWithHex (count : Nat) (text : Text) : Bool :=
  (text.take count).length == count && (text.take count).all Text.isHexDigit

def startsWithName : Text → Bool
  | '{' :: rest =>
    match rest.span (· != '}') with
    | (name, _ :: _) => !name.isEmpty && name.all fun c => c.isAlphanum || c == ' ' || c == '-'
    | _ => false
  | _ => false

def isEscape (bytes : Bool) : Text → Bool
  | 'x' :: rest => startsWithHex 2 rest
  | 'u' :: rest => bytes || startsWithHex 4 rest
  | 'U' :: rest => bytes || (startsWithHex 8 rest && Text.hexValue (rest.take 8) ≤ 0x10ffff)
  | 'N' :: rest => bytes || startsWithName rest
  | _ => true

def afterText? (quoting : Quoting) : Text → Option Text
  | [] => none
  | '\\' :: c :: rest =>
    if quoting.bytes && 128 ≤ c.toNat then none
    else if quoting.raw || isEscape quoting.bytes (c :: rest) then afterText? quoting rest
    else none
  | c :: rest =>
    if c = quoting.quote then
      if !quoting.tripled then some rest
      else if [quoting.quote, quoting.quote].isPrefixOf rest then some (rest.drop 2)
      else afterText? quoting rest
    else if c = '\n' && !quoting.tripled then none
    else if quoting.bytes && 128 ≤ c.toNat then none
    else afterText? quoting rest

def quoteLetters : List Text := ["", "r", "u", "b", "br", "rb"]

def text? (letters : Text) (text : Text) : Option (Token × Text) :=
  match text with
  | quote :: rest => do
    let letters := letters.map Char.toLower
    if !quoteLetters.contains letters then none
    let tripled := [quote, quote].isPrefixOf rest
    let quoting : Quoting := ⟨quote, tripled, letters.contains 'r', letters.contains 'b'⟩
    let rest ← afterText? quoting (if tripled then rest.drop 2 else rest)
    pure (.text quoting.bytes, rest)
  | [] => none

def isQuote (c : Char) : Bool :=
  c == '\x22' || c == '\x27'

def isMark (c : Char) : Bool :=
  ['(', ')', '{', '}', ',', ':', '+', '-'].contains c

def wordOrText? (text : Text) : Option (Token × Text) :=
  let (word, rest) := text.span Text.isWordChar
  if rest.head?.any isQuote then text? word rest
  else if word.isEmpty then none
  else some (.word word, rest)

def token? (text : Text) : Option (Token × Text) :=
  match text with
  | '.' :: '.' :: '.' :: rest => some (.points, rest)
  | '.' :: c :: _ => if c.isDigit then number? text else none
  | '\n' :: rest => some (.lineEnd, rest)
  | c :: rest =>
    if c.isDigit then number? text
    else if isMark c then some (.mark c, rest)
    else wordOrText? text
  | [] => none

def skipBlanks (inComment : Bool) : Text → Text
  | [] => []
  | '\\' :: '\n' :: rest => if inComment then '\n' :: rest else skipBlanks false rest
  | c :: rest =>
    if inComment then if c = '\n' then c :: rest else skipBlanks true rest
    else if c = ' ' || c = '\t' || c = '\x0c' then skipBlanks false rest
    else if c = '#' then skipBlanks true rest
    else c :: rest

def tokens? : Nat → Text → Option (List Token)
  | 0, _ => none
  | fuel + 1, text =>
    match skipBlanks false text with
    | [] => some []
    | text => do
      let (token, rest) ← token? text
      let tokens ← tokens? fuel rest
      pure (token :: tokens)

/-- Drops the ends of lines inside of parentheses and braces. -/
def joinLines (depth : Nat) : List Token → List Token
  | [] => []
  | .lineEnd :: rest => if depth == 0 then .lineEnd :: joinLines 0 rest else joinLines depth rest
  | .mark c :: rest =>
    let depth :=
      if c = '(' || c = '{' then depth + 1
      else if c = ')' || c = '}' then depth - 1
      else depth
    .mark c :: joinLines depth rest
  | token :: rest => token :: joinLines depth rest

/-- What is known of a literal: numbers without a sign may be added to others, and some literals
may be members of a set. -/
inductive Kind
  | real
  | imaginary
  | signedReal
  | plain
  | collection
  deriving DecidableEq, Repr

def Kind.isMember (kind : Kind) : Bool :=
  kind != .collection

def tupleKind (kinds : List Kind) : Kind :=
  if kinds.all Kind.isMember then .plain else .collection

def dropTexts? (bytes : Bool) : List Token → Option (List Token)
  | .text other :: rest => if other == bytes then dropTexts? bytes rest else none
  | tokens => some tokens

def wordKind? (name : Text) (rest : List Token) : Option (Kind × List Token) :=
  if [("None" : Text), "True", "False"].contains name then some (.plain, rest)
  else if name = "set" then
    match rest with
    | .mark '(' :: .mark ')' :: rest => some (.collection, rest)
    | _ => none
  else none

mutual

def atom? : Nat → List Token → Option (Kind × List Token)
  | 0, _ => none
  | _ + 1, .real :: rest => some (.real, rest)
  | _ + 1, .imaginary :: rest => some (.imaginary, rest)
  | _ + 1, .points :: rest => some (.plain, rest)
  | _ + 1, .text bytes :: rest => (dropTexts? bytes rest).map fun rest => (.plain, rest)
  | _ + 1, .word name :: rest => wordKind? name rest
  | _ + 1, .mark '(' :: .mark ')' :: rest => some (.plain, rest)
  | fuel + 1, .mark '(' :: rest => do
    let (kinds, tupled, rest) ← items? fuel rest
    match rest, kinds with
    | .mark ')' :: rest, [kind] => pure (if tupled then tupleKind [kind] else kind, rest)
    | .mark ')' :: rest, kinds => pure (tupleKind kinds, rest)
    | _, _ => none
  | _ + 1, .mark '{' :: .mark '}' :: rest => some (.collection, rest)
  | fuel + 1, .mark '{' :: rest => do
    let (kind, rest) ← literal? fuel rest
    if !kind.isMember then none
    match rest with
    | .mark ':' :: rest =>
      let (_, rest) ← literal? fuel rest
      let rest ← entries? fuel rest
      pure (.collection, rest)
    | rest =>
      let rest ← members? fuel rest
      pure (.collection, rest)
  | _ + 1, _ => none

def literal? : Nat → List Token → Option (Kind × List Token)
  | 0, _ => none
  | fuel + 1, tokens => do
    let (kind, rest) ←
      match tokens with
      | .mark '+' :: rest => signed? fuel rest
      | .mark '-' :: rest => signed? fuel rest
      | tokens => atom? fuel tokens
    match rest with
    | .mark '+' :: rest => sum? fuel kind rest
    | .mark '-' :: rest => sum? fuel kind rest
    | rest => pure (kind, rest)

def signed? : Nat → List Token → Option (Kind × List Token)
  | 0, _ => none
  | fuel + 1, tokens => do
    match ← atom? fuel tokens with
    | (.real, rest) => some (.signedReal, rest)
    | (.imaginary, rest) => some (.plain, rest)
    | _ => none

def sum? : Nat → Kind → List Token → Option (Kind × List Token)
  | 0, _, _ => none
  | fuel + 1, first, tokens => do
    if first != .real && first != .signedReal then none
    match ← atom? fuel tokens with
    | (.imaginary, rest) => some (.plain, rest)
    | _ => none

/-- Literals with commas between them, at least one. Tells whether there was a comma. -/
def items? : Nat → List Token → Option (List Kind × Bool × List Token)
  | 0, _ => none
  | fuel + 1, tokens => do
    let (kind, rest) ← literal? fuel tokens
    match rest with
    | .mark ',' :: rest =>
      if rest.isEmpty || rest.head? = some (.mark ')') || rest.head? = some .lineEnd then
        pure ([kind], true, rest)
      else
        let (kinds, _, rest) ← items? fuel rest
        pure (kind :: kinds, true, rest)
    | rest => pure ([kind], false, rest)

def members? : Nat → List Token → Option (List Token)
  | 0, _ => none
  | _ + 1, .mark '}' :: rest => some rest
  | _ + 1, .mark ',' :: .mark '}' :: rest => some rest
  | fuel + 1, .mark ',' :: rest => do
    let (kind, rest) ← literal? fuel rest
    if !kind.isMember then none
    members? fuel rest
  | _ + 1, _ => none

def entries? : Nat → List Token → Option (List Token)
  | 0, _ => none
  | _ + 1, .mark '}' :: rest => some rest
  | _ + 1, .mark ',' :: .mark '}' :: rest => some rest
  | fuel + 1, .mark ',' :: rest => do
    let (kind, rest) ← literal? fuel rest
    if !kind.isMember then none
    match rest with
    | .mark ':' :: rest =>
      let (_, rest) ← literal? fuel rest
      entries? fuel rest
    | _ => none
  | _ + 1, _ => none

end

def isLiteralText (text : Text) : Bool :=
  let text := Text.unifyNewlines text
  if text.contains '\x00' then false
  else
    match (tokens? (text.length + 1) text).map (joinLines 0) with
    | none => false
    | some tokens =>
      let tokens := tokens.dropWhile (· == .lineEnd)
      match items? (4 * tokens.length + 4) tokens with
      | some (_, _, rest) => rest.all (· == .lineEnd)
      | none => false

/-- The arguments that follow the name of a handler; there may be none. Other parameters stand for
themselves. -/
def arguments (parameters : Text) : Text :=
  match parameters.span fun c => Text.isWordChar c || c == '.' with
  | (_, []) => "()"
  | (_, '(' :: rest) =>
    if rest.getLast? = some ')' && !rest.contains '\n' then '(' :: rest else parameters
  | _ => parameters

def isLiteral (parameters : Text) : Bool :=
  isLiteralText (arguments (Text.strip parameters))

end ScriptAssist.Layout.Handler
