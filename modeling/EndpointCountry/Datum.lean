import EndpointCountry.Double

/-!
# Data trees

The common shape of what a settings file, a request or a report holds: scalars, lists, and records
whose fields keep their order.
-/

namespace EndpointCountry

/-- A tree of data. -/
inductive Datum where
  /-- No value. -/
  | null
  | boolean (b : Bool)
  | integer (n : Int)
  /-- The number `significand * 10 ^ exponent`, with its sign. A zero may have either sign. -/
  | decimal (negative : Bool) (significand : Nat) (exponent : Int)
  /-- An infinite number, or one that is no number at all. -/
  | nonFinite
  /-- Something in the place of a number that is written like one and denotes none. It may stand
  where nobody asks for its value. -/
  | misspelt
  | text (s : String)
  /-- A date, a time of day or both, as it was written. -/
  | moment (s : String)
  | list (items : List Datum)
  | record (fields : List (String × Datum))
  deriving Inhabited

namespace Datum

/-- Digits with a point after the first `places` of them, and at least one digit on either side of
it. -/
def withPoint (digits : List Char) (places : Int) : List Char :=
  let digits := List.replicate (1 - places).toNat '0' ++ digits
  let whole := digits.take (max places 1).toNat
  let fraction := digits.drop (max places 1).toNat
  whole ++ List.replicate (places.toNat - whole.length) '0' ++ '.' ::
    (if fraction.isEmpty then ['0'] else fraction)

/-- Digits with a point after the first of them, if there are more, and the power of ten that it
has to be multiplied by. -/
def withPower (digits : List Char) (power : Int) : List Char :=
  digits.take 1 ++ (if digits.length ≤ 1 then [] else '.' :: digits.drop 1) ++
    'e' :: (if power < 0 then '-' else '+') :: Nat.toDigits 10 power.natAbs

/-- The magnitude `significand * 10 ^ exponent` without a zero at the end that is not needed. From
a hundred-thousandth on and below ten to the sixteenth all digits are written, otherwise one digit
before the point and the power of ten. -/
def magnitudeText (significand : Nat) (exponent : Int) : List Char :=
  let digits := Nat.toDigits 10 significand
  let power := exponent + digits.length - 1
  let kept := (digits.reverse.dropWhile (· == '0')).reverse
  if significand = 0 then ['0', '.', '0']
  else if -5 ≤ power ∧ power < 16 then withPoint kept (power + 1)
  else withPower kept power

/-- The number `significand * 10 ^ exponent` with its sign. -/
def decimalText (negative : Bool) (significand : Nat) (exponent : Int) : String :=
  String.ofList ((if negative then ['-'] else []) ++ magnitudeText significand exponent)

/-- What a reader that expected something else says it found. -/
def describe : Datum → String
  | .null => "null"
  | .boolean b => s!"boolean `{b}`"
  | .integer n => s!"integer `{n}`"
  | .decimal negative significand exponent =>
    s!"floating point `{decimalText negative significand exponent}`"
  | .nonFinite => "floating point number"
  | .misspelt => "number"
  | .text s => s!"string \"{s}\""
  | .moment _ => "map"
  | .list _ => "sequence"
  | .record _ => "map"

/-- Integers are kept in 128 bits, with or without a sign. -/
def integerFits (n : Int) : Bool :=
  if n < 0 then n.natAbs ≤ Nat.pow 2 127 else n.natAbs < Nat.pow 2 128

/-- Fractional numbers are kept in double precision. Powers of ten beyond four hundred never fit, and
a significand fits when it is divided by a power of ten that has more digits than it. -/
def decimalFits (significand : Nat) (exponent : Int) : Bool :=
  if significand = 0 then true
  else if exponent < 0 then
    significand < Double.limit * Nat.pow 10 (min (-exponent).toNat (significand.log2 + 1))
  else
    exponent ≤ 400 && significand * Nat.pow 10 exponent.toNat < Double.limit

mutual

/-- Whether everything in a tree that is written like a number is one, and fits the form numbers are
kept in. -/
def fits : Datum → Bool
  | .integer n => integerFits n
  | .decimal _ significand exponent => decimalFits significand exponent
  | .misspelt => false
  | .list items => itemsFit items
  | .record fields => fieldsFit fields
  | .null | .boolean _ | .nonFinite | .text _ | .moment _ => true
termination_by structural d => d

/-- Whether every number in a list of trees fits. -/
def itemsFit : List Datum → Bool
  | [] => true
  | d :: ds => d.fits && itemsFit ds
termination_by structural ds => ds

/-- Whether every number in the values of a record fits. -/
def fieldsFit : List (String × Datum) → Bool
  | [] => true
  | (_, d) :: ds => d.fits && fieldsFit ds
termination_by structural ds => ds

end

/-- The text of a text. -/
def asText? : Datum → Option String
  | .text s => some s
  | _ => none

/-- The value of a truth value. -/
def asBoolean? : Datum → Option Bool
  | .boolean b => some b
  | _ => none

/-- A natural number that is at most the given bound. -/
def asNat? (bound : Nat) : Datum → Option Nat
  | .integer n => if 0 ≤ n ∧ n ≤ bound then some n.toNat else none
  | _ => none

/-- The elements of a list, each read the same way. -/
def asList? {α : Type} (read : Datum → Option α) : Datum → Option (List α)
  | .list items => items.mapM read
  | _ => none

end Datum

end EndpointCountry
