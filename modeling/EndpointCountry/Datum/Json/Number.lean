import EndpointCountry.Datum
import EndpointCountry.Text

/-!
# Numbers of JSON

A whole number of 64 bits, with or without a sign, is kept as it is. Any other number is kept in
double precision, and so is a zero with a minus sign.
-/

namespace EndpointCountry.Datum

/-- The largest whole number that is kept. -/
def maxWhole : Nat := Nat.pow 2 64 - 1

/-- The magnitude of the smallest whole number that is kept. -/
def maxNegativeWhole : Nat := Nat.pow 2 63

/-- A number with more digits written behind it, as far as it is kept, and how many they are. -/
def appendDigits (n : Nat) : List Char → Nat × Nat
  | [] => (n, 0)
  | c :: cs =>
    let next := 10 * n + (c.toNat - '0'.toNat)
    if next ≤ maxWhole then
      let (n, count) := appendDigits next cs
      (n, count + 1)
    else (n, 0)

/-- Leading digits, and what follows them. -/
def splitDigits (cs : List Char) : List Char × List Char :=
  (cs.takeWhile Text.isDigit, cs.dropWhile Text.isDigit)

/-- The digits of a whole number, and what follows them: a single zero, or digits that start with
another one. -/
def wholeDigits? (cs : List Char) : Option (List Char × List Char) :=
  match splitDigits cs with
  | ([], _) | ('0' :: _ :: _, _) => none
  | split => some split

/-- The digits after a point, which may be left out together with it, and what follows them. -/
def fractionDigits? : List Char → Option (List Char × List Char)
  | '.' :: cs =>
    match splitDigits cs with
    | ([], _) => none
    | split => some split
  | cs => some ([], cs)

/-- The sign and the digits of an exponent, and what follows them. -/
def exponentDigits? (cs : List Char) : Option (Int × List Char) :=
  let (negative, cs) := match cs with
    | '+' :: cs => (false, cs)
    | '-' :: cs => (true, cs)
    | cs => (false, cs)
  match splitDigits cs with
  | ([], _) => none
  | (digits, rest) =>
    let n : Int := Text.digitsValue digits
    some (if negative then -n else n, rest)

/-- An exponent, if there is one, and what follows it. -/
def exponentPart? : List Char → Option (Option Int × List Char)
  | 'e' :: cs | 'E' :: cs => (exponentDigits? cs).map fun (n, rest) => (some n, rest)
  | cs => some (none, cs)

/-- A number in double precision, with the fewest digits that denote it. -/
def ofDouble (negative : Bool) (x : Double) : Datum :=
  let (digits, exponent) := x.shortest
  .decimal negative digits exponent

/-- The number that a sign, digits before and after a point and an exponent write. Digits that do
not fit a whole number that is kept only count as zeros before the point, and not at all after
it. -/
def ofNumeral? (negative : Bool) (whole fraction : List Char) (exponent : Option Int) :
    Option Datum :=
  let (n, count) := appendDigits 0 whole
  let dropped := whole.length - count
  let isWhole := fraction = [] ∧ exponent = none ∧ dropped = 0
  if isWhole ∧ negative = false then some (.integer n)
  else if isWhole ∧ 0 < n ∧ n ≤ maxNegativeWhole then some (.integer (-n))
  else
    let (n, places) := appendDigits n fraction
    (Double.ofDecimal? n (exponent.getD 0 + dropped - places)).map (ofDouble negative)

/-- A number, and what follows it. -/
def number? (cs : List Char) : Option (Datum × List Char) := do
  let (negative, cs) := match cs with
    | '-' :: cs => (true, cs)
    | cs => (false, cs)
  let (whole, cs) ← wholeDigits? cs
  let (fraction, cs) ← fractionDigits? cs
  let (exponent, rest) ← exponentPart? cs
  (ofNumeral? negative whole fraction exponent).map (·, rest)

end EndpointCountry.Datum
