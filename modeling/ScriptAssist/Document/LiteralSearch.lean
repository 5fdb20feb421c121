import ScriptAssist.Text.Basic

/-!
# Finding literals

A literal counts where no single quote stands right before it. Of several literals the leftmost is
found, and of those at one place the longest.
-/

namespace ScriptAssist.LiteralSearch

def isQuote (c : Option Char) : Bool :=
  c == some '\x27'

def longestAt (literals : List Text) (text : Text) : Option Text :=
  literals.foldl
    (fun best literal =>
      if literal.isPrefixOf text && best.all (·.length < literal.length) then some literal
      else best)
    none

structure Found where
  start : Nat
  literal : Text
  deriving DecidableEq, Repr

def Found.finish (found : Found) : Nat :=
  found.start + found.literal.length

def searchFrom (literals : List Text) (previous : Option Char) (offset : Nat) :
    Text → Option Found
  | [] => none
  | c :: rest =>
    match (if isQuote previous then none else longestAt literals (c :: rest)) with
    | some literal => some ⟨offset, literal⟩
    | none => searchFrom literals (some c) (offset + 1) rest

/-- The leftmost and there the longest literal. Empty literals are never found. -/
def search (literals : List Text) (text : Text) : Option Found :=
  searchFrom (literals.filter (!·.isEmpty)) none 0 text

def occursAfter (literal : Text) (previous : Option Char) : Text → Bool
  | [] => literal.isEmpty && !isQuote previous
  | c :: rest =>
    (!isQuote previous && literal.isPrefixOf (c :: rest)) || occursAfter literal (some c) rest

def occurs (literal text : Text) : Bool :=
  occursAfter literal none text

end ScriptAssist.LiteralSearch
