import ScriptAssist.Decimal.Double
import ScriptAssist.Text.Basic

/-!
# Shortest decimal text

The text of a double has the fewest digits that read back to it; of several such decimals it is the
nearest.
-/

namespace ScriptAssist.Double

/-- The decimals that read back to a double, all over one denominator. -/
structure Interval where
  low : Nat
  value : Nat
  high : Nat
  denominator : Nat
  closed : Bool

/-- Half the distance to the neighbour below is smaller at a power of two. -/
def interval (mantissa : Nat) (exponent : Int) : Interval :=
  let up := Nat.pow 2 exponent.toNat
  let atPower := mantissa == Nat.pow 2 52 && exponent > minExponent
  { low := (4 * mantissa - (if atPower then 1 else 2)) * up
    value := 4 * mantissa * up
    high := (4 * mantissa + 2) * up
    denominator := 4 * Nat.pow 2 (-exponent).toNat
    closed := mantissa % 2 == 0 }

namespace Interval

def holds (i : Interval) (digits : Nat) (exponent : Int) : Bool :=
  let number := digits * Nat.pow 10 exponent.toNat * i.denominator
  let scale := Nat.pow 10 (-exponent).toNat
  if i.closed then i.low * scale ≤ number && number ≤ i.high * scale
  else i.low * scale < number && number < i.high * scale

/-- The number of places before the point, found from an estimate that is too small. -/
def places (i : Interval) : Nat → Int → Int
  | 0, guess => guess
  | fuel + 1, guess =>
    if i.value * Nat.pow 10 (-guess).toNat < i.denominator * Nat.pow 10 guess.toNat then guess
    else places i fuel (guess + 1)

def digitsAt? (i : Interval) (exponent : Int) : Option Nat :=
  let value := i.value * Nat.pow 10 (-exponent).toNat
  let grain := i.denominator * Nat.pow 10 exponent.toNat
  let below := value / grain
  let aboveNearer := 2 * (value % grain) > grain ||
    (2 * (value % grain) == grain && below % 2 == 1)
  match i.holds below exponent, i.holds (below + 1) exponent with
  | true, true => some (if aboveNearer then below + 1 else below)
  | true, false => some below
  | false, true => some (below + 1)
  | false, false => none

def search (i : Interval) : Nat → Int → Nat × Int
  | 0, exponent =>
    (i.value * Nat.pow 10 (-exponent).toNat / (i.denominator * Nat.pow 10 exponent.toNat), exponent)
  | fuel + 1, exponent =>
    match i.digitsAt? exponent with
    | some digits => (digits, exponent)
    | none => search i fuel (exponent - 1)

end Interval

def shortest (mantissa : Nat) (exponent : Int) : Text × Int :=
  let i := interval mantissa exponent
  let guess : Int := ((mantissa.log2 : Int) + exponent) * 3 / 10 - 25
  let places := i.places 120 guess
  let found := i.search 17 (places - 1)
  let digits := Text.ofNat found.1
  (Text.dropEndWhile (· == '0') digits, found.2 + digits.length)

structure Layout where
  leastPlaces : Int
  mostPlaces : Int
  exponentWidth : Nat

def Layout.exponentText (layout : Layout) (exponent : Int) : Text :=
  let digits := Text.ofNat exponent.natAbs
  (if exponent < 0 then '-' else '+') ::
    List.replicate (layout.exponentWidth - digits.length) '0' ++ digits

def Layout.positiveText (layout : Layout) (digits : Text) (places : Int) : Text :=
  if layout.leastPlaces ≤ places && places ≤ layout.mostPlaces then
    if places ≤ 0 then ['0', '.'] ++ List.replicate (-places).toNat '0' ++ digits
    else if digits.length ≤ places.toNat then
      digits ++ List.replicate (places.toNat - digits.length) '0' ++ ['.', '0']
    else digits.take places.toNat ++ '.' :: digits.drop places.toNat
  else
    let fraction := if digits.length ≤ 1 then [] else '.' :: digits.drop 1
    digits.take 1 ++ fraction ++ 'e' :: layout.exponentText (places - 1)

def Layout.text (layout : Layout) : Double → Text
  | .nan => "nan"
  | .infinite negative => if negative then "-inf" else "inf"
  | .finite negative mantissa exponent =>
    let size : Text :=
      if mantissa == 0 then "0.0"
      else
        let (digits, places) := shortest mantissa exponent
        layout.positiveText digits places
    if negative then '-' :: size else size

end ScriptAssist.Double
