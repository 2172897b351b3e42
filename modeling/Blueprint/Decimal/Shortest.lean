import Blueprint.Decimal.Binary64
import Blueprint.Text.Digits

namespace Blueprint.Decimal

/-!
# Shortest decimal text

The decimal numbers that round to a magnitude fill an interval around it, ends included when its
mantissa is even. The shortest text takes the coarsest decimal grid with a point in the interval
and, of two such points, the nearer one; a tie goes to the even digit.
-/

/-- The middle and the ends of the interval that rounds to a magnitude, over one denominator. -/
structure Interval where
  low : Nat
  middle : Nat
  high : Nat
  denominator : Nat
  closed : Bool

/-- The interval of a positive finite magnitude. -/
def intervalOf
    (magnitude : Nat) :
    Interval :=
  let (mantissa, exponent) := parts magnitude
  let below := if mantissa = hiddenBit ∧ -1074 < exponent then 1 else 2
  let (power, unit) := scaled 1 (exponent - 2)
  { low := (4 * mantissa - below) * power
    middle := 4 * mantissa * power
    high := (4 * mantissa + 2) * power
    denominator := unit
    closed := mantissa % 2 = 0 }

/-- Whether a rational number lies in the interval. -/
def Interval.holds
    (interval : Interval)
    (numerator denominator : Nat) :
    Bool :=
  let low := interval.low * denominator
  let point := numerator * interval.denominator
  let high := interval.high * denominator
  if interval.closed then low ≤ point && point ≤ high else low < point && point < high

/-- The multiple of `10 ^ exponent` in the interval next to its middle, if there is one. -/
def Interval.gridPoint?
    (interval : Interval)
    (exponent : Int) :
    Option Nat :=
  let (top, bottom) :=
    if 0 ≤ exponent then (Nat.pow 10 exponent.toNat, 1) else (1, Nat.pow 10 (-exponent).toNat)
  let numerator := interval.middle * bottom
  let denominator := interval.denominator * top
  let below := numerator / denominator
  let above := below + 1
  let holdsBelow := interval.holds (below * top) bottom
  let holdsAbove := interval.holds (above * top) bottom
  let twice := 2 * (numerator % denominator)
  if holdsBelow && holdsAbove then
    if twice < denominator then some below
    else if denominator < twice then some above
    else if below % 2 = 0 then some below
    else some above
  else if holdsBelow then some below
  else if holdsAbove then some above
  else none

/-- The first exponent, counted down from `exponent`, whose grid has a point in the interval. -/
def Interval.coarsest
    (interval : Interval)
    (exponent : Int) :
    Nat →
    Nat × Int
  | 0 => ((interval.gridPoint? exponent).getD 0, exponent)
  | rounds + 1 =>
      match interval.gridPoint? exponent with
      | some point => (point, exponent)
      | none => interval.coarsest (exponent - 1) rounds

/-- Take the zeros off the end of a number, counting them into the exponent. -/
def withoutZeros
    (point : Nat)
    (exponent : Int) :
    Nat × Int :=
  if 0 < point ∧ point % 10 = 0 then withoutZeros (point / 10) (exponent + 1) else (point, exponent)
termination_by point
decreasing_by omega

/-- The shortest decimal digits of a positive finite magnitude, with the exponent of the last. -/
def shortest
    (magnitude : Nat) :
    Nat × Int :=
  let interval := intervalOf magnitude
  let (top, bottom) := quotientOf magnitude
  let whole : Int := (Digits.numeral (top / bottom)).length
  let start : Int :=
    if bottom ≤ top then whole else 1 - (Digits.numeral (bottom / top)).length
  let (point, exponent) := interval.coarsest (start + 1) 20
  withoutZeros point exponent

end Blueprint.Decimal
