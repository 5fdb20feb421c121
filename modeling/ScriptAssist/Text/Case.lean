import ScriptAssist.Text.Basic
import ScriptAssist.Text.CaseTable

/-!
# Upper and lower case

Full case mappings: a character may become several. A capital sigma that ends a word becomes a
final one.
-/

namespace ScriptAssist.Text

def CaseRun.shifted? (run : CaseRun) (c : Char) : Option Char :=
  let n := c.toNat
  if run.first ≤ n && n ≤ run.last && (n - run.first) % run.stride == 0 then
    some (Char.ofNat (n + run.shift).toNat)
  else none

def isCased (c : Char) : Bool :=
  if c.toNat < 128 then c.isAlpha else CodeRange.anyCovers casedRanges c

def isCaseIgnorable (c : Char) : Bool :=
  if c.toNat < 128 then ['\x27', '.', ':', '^', '\x60'].contains c
  else CodeRange.anyCovers caseIgnorableRanges c

def lowerChar (c : Char) : Text :=
  if c.toNat < 128 then [c.toLower]
  else if c = 'İ' then ['i', '\u0307']
  else [(lowerRuns.findSome? (·.shifted? c)).getD c]

def upperChar (c : Char) : Text :=
  if c.toNat < 128 then [c.toUpper]
  else
    match upperExpansions.lookup c.toNat with
    | some codes => codes.map Char.ofNat
    | none => [(upperRuns.findSome? (·.shifted? c)).getD c]

def startsCased : Text → Bool
  | [] => false
  | c :: rest => if isCaseIgnorable c then startsCased rest else isCased c

def lowerAfter (cased : Bool) : Text → Text
  | [] => []
  | c :: rest =>
    let lowered :=
      if c = 'Σ' then (if cased && !startsCased rest then ['ς'] else ['σ']) else lowerChar c
    lowered ++ lowerAfter (if isCaseIgnorable c then cased else isCased c) rest

def lower (text : Text) : Text :=
  lowerAfter false text

def upper (text : Text) : Text :=
  text.flatMap upperChar

end ScriptAssist.Text
