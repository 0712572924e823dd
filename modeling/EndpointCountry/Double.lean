/-!
# Numbers in double precision

Finite magnitudes with a significand of 53 bits: the one nearest to a quotient, products and
quotients rounded the same way, and the fewest decimal digits that denote one.
-/

namespace EndpointCountry

/-- The magnitude `significand * 2 ^ exponent`. Of the ways to write a magnitude the one with the
smallest exponent is meant whose significand has at most 53 bits. -/
structure Double where
  significand : Nat
  exponent : Int
  deriving DecidableEq

namespace Double

/-- The exponent of the smallest magnitudes. -/
def minExponent : Int := -1074

/-- The exponent of the largest magnitudes. -/
def maxExponent : Int := 971

/-- The smallest number that is too large: halfway between the largest magnitude and the power of
two above it. -/
def limit : Nat := Nat.pow 2 1024 - Nat.pow 2 970

/-- No magnitude at all. -/
def zero : Double := ⟨0, minExponent⟩

/-- The whole number nearest to a quotient; from the middle to the even one. -/
def roundedQuotient (num den : Nat) : Nat :=
  let whole := num / den
  let rest := num % den
  if 2 * rest < den ∨ (2 * rest = den ∧ whole % 2 = 0) then whole else whole + 1

/-- The magnitude nearest to a quotient, from the middle to the one with the even significand, and
nothing if the quotient is too large. -/
def nearest? (num den : Nat) : Option Double :=
  if num = 0 then some zero
  else
    let shifted := fun e : Int => (num * Nat.pow 2 (-e).toNat, den * Nat.pow 2 e.toNat)
    let low : Int := num.log2 - den.log2 - 53
    let (above, below) := shifted low
    let e := max minExponent (if above < Nat.pow 2 53 * below then low else low + 1)
    let (above, below) := shifted e
    let significand := roundedQuotient above below
    let (significand, e) :=
      if significand = Nat.pow 2 53 then (Nat.pow 2 52, e + 1) else (significand, e)
    if e ≤ maxExponent then some ⟨significand, e⟩ else none

/-- The numerator of a magnitude. -/
def num (x : Double) : Nat :=
  x.significand * Nat.pow 2 x.exponent.toNat

/-- The denominator of a magnitude, a power of two. -/
def den (x : Double) : Nat :=
  Nat.pow 2 (-x.exponent).toNat

/-- The product of two magnitudes, rounded. -/
def mul? (x y : Double) : Option Double :=
  nearest? (x.num * y.num) (x.den * y.den)

/-- The quotient of two magnitudes, rounded. -/
def div? (x y : Double) : Option Double :=
  nearest? (x.num * y.den) (x.den * y.num)

/-- A power of ten, rounded. -/
def powerOfTen? (n : Nat) : Option Double :=
  nearest? (Nat.pow 10 n) 1

/-- The largest exponent of a power of ten that is no more than the largest magnitude. -/
def maxPowerOfTen : Nat := 308

/-- A whole number of less than twenty digits times a power of ten. Both are rounded before they are
multiplied or, when the exponent is negative, divided; a division by a power of ten that is too
large is made in two. -/
def ofDecimal? (digits : Nat) (exponent : Int) : Option Double := do
  let x ← nearest? digits 1
  let n := exponent.natAbs
  if digits = 0 ∨ exponent < -2 * maxPowerOfTen then some zero
  else if exponent < -maxPowerOfTen then
    (← x.div? (← powerOfTen? maxPowerOfTen)).div? (← powerOfTen? (n - maxPowerOfTen))
  else if exponent < 0 then x.div? (← powerOfTen? n)
  else if n ≤ maxPowerOfTen then x.mul? (← powerOfTen? n)
  else none

/-- Whether a magnitude is the one nearest to `digits * 10 ^ exponent`. -/
def denotedBy (x : Double) (digits : Nat) (exponent : Int) : Bool :=
  nearest? (digits * Nat.pow 10 exponent.toNat) (Nat.pow 10 (-exponent).toNat) = some x

/-- The multiple of a power of ten that denotes a magnitude, if one of the two around it does. The
nearer one is taken if both do. -/
def multiple? (x : Double) (exponent : Int) : Option Nat :=
  let above := x.num * Nat.pow 10 (-exponent).toNat
  let below := x.den * Nat.pow 10 exponent.toNat
  let nearer := roundedQuotient above below
  [nearer, 2 * (above / below) + 1 - nearer].find? (x.denotedBy · exponent)

/-- The exponents of the powers of ten that are tried for a magnitude, from the largest to the
smallest: the first power is no less than the magnitude, and seventeen digits are enough to tell a
magnitude from its neighbours. -/
def tenExponents (x : Double) : List Int :=
  let top : Int := (Nat.toDigits 10 x.num).length - (Nat.toDigits 10 x.den).length + 1
  (List.range 20).map fun n : Nat => top - n

/-- A magnitude as `digits * 10 ^ exponent` with the largest exponent, and so the fewest digits, for
which the magnitude is the nearest one. Its exact digits would be taken if there were none. -/
def shortest (x : Double) : Nat × Int :=
  if x.significand = 0 then (0, 0)
  else
    (x.tenExponents.findSome? fun exponent => (x.multiple? exponent).map (·, exponent)).getD
      (x.num * Nat.pow 5 (-x.exponent).toNat, min x.exponent 0)

end Double

end EndpointCountry
