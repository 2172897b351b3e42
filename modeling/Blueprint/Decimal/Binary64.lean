namespace Blueprint.Decimal

/-!
# Binary floating point of 64 bits

A magnitude is a bit pattern without sign: ten and more bits of exponent above 52 bits of
mantissa. Its value is read off as `mantissa · 2 ^ exponent`, and every rational number is rounded
to the nearest magnitude, a tie to the even mantissa, in exact arithmetic on natural numbers.
-/

/-- A quotient rounded to the nearest natural number, a half to the even one. -/
def roundedQuotient
    (numerator denominator : Nat) :
    Nat :=
  let quotient := numerator / denominator
  let twice := 2 * (numerator % denominator)
  if twice < denominator then quotient
  else if denominator < twice then quotient + 1
  else if quotient % 2 = 0 then quotient
  else quotient + 1

/-- The pattern of positive infinity; larger results of rounding become this one. -/
def infinity : Nat := 0x7FF0000000000000

/-- The pattern of a quiet number that is none. -/
def notANumber : Nat := 0x7FF8000000000000

/-- The leading bit of a mantissa, which a pattern leaves out. -/
def hiddenBit : Nat := 0x10000000000000

/-- The bit that marks a negative number. -/
def signBit : Nat := 0x8000000000000000

/-- The numerator and denominator of `mantissa · 2 ^ exponent`. -/
def scaled
    (mantissa : Nat)
    (exponent : Int) :
    Nat × Nat :=
  if 0 ≤ exponent then
    (mantissa * Nat.pow 2 exponent.toNat, 1)
  else
    (mantissa, Nat.pow 2 (-exponent).toNat)

/-- The greatest power of two that is at most a positive quotient. -/
def floorLog
    (numerator denominator : Nat) :
    Int :=
  let guess : Int := (numerator.log2 : Int) - denominator.log2
  let (power, unit) := scaled 1 guess
  if power * denominator ≤ numerator * unit then guess else guess - 1

/-- The magnitude nearest to a quotient. -/
def ofQuotient
    (numerator denominator : Nat) :
    Nat :=
  if numerator = 0 then
    0
  else
    let exponent := max (floorLog numerator denominator - 52) (-1074)
    let (power, unit) := scaled 1 exponent
    let mantissa := roundedQuotient (numerator * unit) (denominator * power)
    min infinity ((exponent + 1074).toNat * hiddenBit + mantissa)

/-- The mantissa and exponent of a finite magnitude. -/
def parts
    (magnitude : Nat) :
    Nat × Int :=
  let field : Nat := magnitude / hiddenBit
  let fraction : Nat := magnitude % hiddenBit
  if field = 0 then (fraction, -1074) else (fraction + hiddenBit, (field : Int) - 1075)

/-- The numerator and denominator of a finite magnitude. -/
def quotientOf
    (magnitude : Nat) :
    Nat × Nat :=
  scaled (parts magnitude).1 (parts magnitude).2

/-- The rounded product of two finite magnitudes. -/
def product
    (first second : Nat) :
    Nat :=
  let (firstTop, firstBottom) := quotientOf first
  let (secondTop, secondBottom) := quotientOf second
  ofQuotient (firstTop * secondTop) (firstBottom * secondBottom)

/-- The rounded quotient of two finite magnitudes, the second positive. -/
def ratio
    (first second : Nat) :
    Nat :=
  let (firstTop, firstBottom) := quotientOf first
  let (secondTop, secondBottom) := quotientOf second
  ofQuotient (firstTop * secondBottom) (firstBottom * secondTop)

/-- The magnitude nearest to a power of ten. -/
def powerOfTen
    (exponent : Nat) :
    Nat :=
  ofQuotient (Nat.pow 10 exponent) 1

/-- A magnitude with a sign. -/
def signed
    (negative : Bool)
    (magnitude : Nat) :
    UInt64 :=
  UInt64.ofNat (if negative then signBit + magnitude else magnitude)

/-- Whether a pattern is neither an infinity nor a number that is none. -/
def isFinite
    (bits : UInt64) :
    Bool :=
  bits.toNat % signBit < infinity

end Blueprint.Decimal
