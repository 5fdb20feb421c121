import ScriptAssist.Text.Basic

/-!
# Limits of the readers

A document that is well formed may still be more than a reader takes: a decimal integer may have too
many digits, and lists and tables may stand too deep inside one another.
-/

namespace ScriptAssist

inductive Limit
  | digits (count : Nat)
  | lists
  | objects
  | tables
  deriving DecidableEq, Repr

namespace Limit

def maxDigits : Nat := 4300

def message : Limit → Text
  | digits count =>
    "Exceeds the limit (" ++ Text.ofNat maxDigits ++
      " digits) for integer string conversion: value has " ++ Text.ofNat count ++
      " digits; use sys.set_int_max_str_digits() to increase the limit"
  | lists => "maximum recursion depth exceeded while decoding a JSON array from a unicode string"
  | objects => "maximum recursion depth exceeded while decoding a JSON object from a unicode string"
  | tables => "maximum recursion depth exceeded"

end Limit

end ScriptAssist
