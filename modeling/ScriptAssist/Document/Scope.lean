import ScriptAssist.Text.Basic

/-!
# Argument blocks

Flags stand in blocks `{{$ ... }}` that may be nested. `Scope.find?` gives the first block that is
not inside another one, if it is closed, with the blocks inside it.
-/

namespace ScriptAssist

def opener : Text := ['{', '{', '$']

def closer : Text := ['}', '}']

inductive Bracket
  | opening
  | closing
  deriving DecidableEq, Repr

/-- The brackets of a text with their offsets, taken from left to right as long as possible. -/
def brackets (offset : Nat) : Text → List (Bracket × Nat)
  | '{' :: '{' :: '$' :: rest => (.opening, offset) :: brackets (offset + 3) rest
  | '}' :: '}' :: rest => (.closing, offset) :: brackets (offset + 2) rest
  | _ :: rest => brackets (offset + 1) rest
  | [] => []

structure Span where
  start : Nat
  finish : Nat
  deriving DecidableEq, Repr

def Span.contains (span : Span) (position : Int) : Bool :=
  (span.start : Int) + opener.length ≤ position && position < span.finish

structure Scope where
  outer : Span
  /-- The blocks inside, in the order in which they open. -/
  inner : List Span
  deriving DecidableEq, Repr

namespace Scope

def insertSpan (span : Span) : List Span → List Span
  | [] => [span]
  | other :: rest =>
    if span.start < other.start then span :: other :: rest else other :: insertSpan span rest

/-- Reads on inside the block that opened at `start`. The blocks in it that are still open are in
`pending`, the innermost first. -/
def close? (start : Nat) (pending : List Nat) (inner : List Span) :
    List (Bracket × Nat) → Option Scope
  | [] => none
  | (.opening, offset) :: rest => close? start (offset :: pending) inner rest
  | (.closing, offset) :: rest =>
    match pending with
    | [] => some ⟨⟨start, offset⟩, inner⟩
    | first :: others => close? start others (insertSpan ⟨first, offset⟩ inner) rest

def ofBrackets? : List (Bracket × Nat) → Option Scope
  | [] => none
  | (.opening, offset) :: rest => close? offset [] [] rest
  | (.closing, _) :: rest => ofBrackets? rest

def find? (text : Text) : Option Scope :=
  ofBrackets? (brackets 0 text)

def encloses (scope : Scope) (position : Int) : Bool :=
  scope.outer.contains position

def nests (scope : Scope) (position : Int) : Bool :=
  scope.encloses position && scope.inner.any (·.contains position)

end Scope

def isInsideBlock (text : Text) (position : Int) : Bool :=
  (Scope.find? text).any (·.encloses position)

end ScriptAssist
