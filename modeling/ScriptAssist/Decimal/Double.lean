/-!
# Double-precision numbers

A finite number is a mantissa below `2 ^ 53` times a power of two. `ofDecimal` rounds a decimal to
the nearest one, a half going to the even mantissa, in exact arithmetic.
-/

namespace ScriptAssist

inductive Double
  | finite (negative : Bool) (mantissa : Nat) (exponent : Int)
  | infinite (negative : Bool)
  | nan
  deriving BEq, DecidableEq, Repr, Inhabited

namespace Double

def minExponent : Int := -1074

def maxExponent : Int := 971

def isZero : Double → Bool
  | .finite _ mantissa _ => mantissa == 0
  | _ => false

def whole? : Double → Option Int
  | .finite negative mantissa exponent =>
    let numerator := mantissa * Nat.pow 2 exponent.toNat
    let denominator := Nat.pow 2 (-exponent).toNat
    if numerator % denominator == 0 then
      let size : Int := (numerator / denominator : Nat)
      some (if negative then -size else size)
    else none
  | _ => none

/-- The quotient rounded to the nearest number, a half to the even one. -/
def roundDiv (numerator denominator : Nat) : Nat :=
  let quotient := numerator / denominator
  let twice := 2 * (numerator % denominator)
  if twice < denominator then quotient
  else if denominator < twice then quotient + 1
  else quotient + quotient % 2

def scaled (numerator denominator : Nat) (exponent : Int) : Nat × Nat :=
  (numerator * Nat.pow 2 (-exponent).toNat, denominator * Nat.pow 2 exponent.toNat)

def ofFraction (negative : Bool) (numerator denominator : Nat) : Double :=
  let guess : Int := numerator.log2 - denominator.log2 - 52
  let trial := scaled numerator denominator guess
  let exponent := max minExponent (if trial.1 < Nat.pow 2 52 * trial.2 then guess - 1 else guess)
  let fraction := scaled numerator denominator exponent
  let mantissa := roundDiv fraction.1 fraction.2
  let carried := mantissa == Nat.pow 2 53
  let exponent := if carried then exponent + 1 else exponent
  if exponent > maxExponent then .infinite negative
  else .finite negative (if carried then Nat.pow 2 52 else mantissa) exponent

/-- The double nearest to `digits * 10 ^ exponent`. Where the size alone decides, no power of ten
is built. -/
def ofDecimal (negative : Bool) (digits : Nat) (exponent : Int) : Double :=
  let magnitude : Int := (Nat.toDigits 10 digits).length + exponent
  if digits == 0 || magnitude < -330 then .finite negative 0 0
  else if magnitude > 310 then .infinite negative
  else ofFraction negative (digits * Nat.pow 10 exponent.toNat) (Nat.pow 10 (-exponent).toNat)

end Double

end ScriptAssist
