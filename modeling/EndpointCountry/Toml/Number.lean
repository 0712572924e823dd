import EndpointCountry.Datum
import EndpointCountry.Text

/-!
# Numbers of TOML

Integers in base ten, sixteen, eight and two, and fractional numbers. Underscores may stand between
two digits.

What looks like an integer need not denote one: a base may be marked without a digit after it, and
of an integer in base ten only the characters next to its underscores are looked at, so that even
tabs may stand further on. Such a spelling only counts when its value is asked for.
-/

namespace EndpointCountry.Toml

/-- Characters without the underscores between them. Each underscore stands between two characters
of the given class; `afterOne` tells whether one of them is before the input. -/
def joinGroupsFrom? (inClass : Char → Bool) : (afterOne : Bool) → List Char → Option (List Char)
  | _, [] => some []
  | _, ['_'] => none
  | afterOne, '_' :: c :: rest =>
    if afterOne && inClass c then (joinGroupsFrom? inClass true rest).map (c :: ·) else none
  | _, c :: rest => (joinGroupsFrom? inClass (inClass c) rest).map (c :: ·)

/-- Characters without the underscores between them, each of which stands between two characters of
the given class. -/
def joinGroups? (inClass : Char → Bool) (cs : List Char) : Option (List Char) :=
  joinGroupsFrom? inClass false cs

/-- The digits of a number without the underscores between them. There is at least one digit. -/
def ungroup? (inClass : Char → Bool) (cs : List Char) : Option (List Char) :=
  match joinGroups? inClass cs with
  | some [] => none
  | some digits => if digits.all inClass then some digits else none
  | none => none

/-- Whether a number starts with a minus, and what follows its sign. -/
def splitSign : List Char → Bool × List Char
  | '+' :: rest => (false, rest)
  | '-' :: rest => (true, rest)
  | cs => (false, cs)

/-- Whether a numeral starts with a zero that is not needed. -/
def hasNeedlessZero : List Char → Bool
  | '0' :: c :: _ => Text.isDigit c || c == '_'
  | _ => false

/-- A number with a sign. -/
def signed (negative : Bool) (n : Nat) : Int :=
  if negative then -n else n

/-- A numeral without a sign in the given base, after its mark. -/
def basedInteger? (base : Nat) (cs : List Char) : Option Datum :=
  if cs = [] then some .misspelt
  else do
    let digits ← ungroup? (fun c => (Text.hexValue? c).any (· < base)) cs
    let values ← digits.mapM Text.hexValue?
    some (.integer (values.foldl (fun n d => base * n + d) 0 : Nat))

/-- A numeral in base ten: digits, or digits and what follows an underscore after them, which holds
no space and does not make it a fractional number. -/
def tensInteger? (cs : List Char) : Option Datum := do
  let (negative, cs) := splitSign cs
  let rest := cs.dropWhile Text.isDigit
  let excluded := fun c => c == '.' || c == 'e' || c == 'E' || c == ' '
  if hasNeedlessZero cs || rest.any excluded then none
  if rest ≠ [] ∧ rest.head? ≠ some '_' then none
  let text ← joinGroups? Text.isHexDigit cs
  match text, Text.readDigits? text with
  | [], _ => none
  | _, some n => some (.integer (signed negative n))
  | _, none => some .misspelt

/-- An integer: a base may be marked, and then there is no sign. -/
def integer? : List Char → Option Datum
  | '0' :: 'x' :: rest => basedInteger? 16 rest
  | '0' :: 'o' :: rest => basedInteger? 8 rest
  | '0' :: 'b' :: rest => basedInteger? 2 rest
  | cs => tensInteger? cs

/-- The exponent of a fractional number: nothing, or a mark and an integer. -/
def exponent? : List Char → Option Int
  | [] => some 0
  | 'e' :: rest | 'E' :: rest => do
    let (negative, cs) := splitSign rest
    let digits ← ungroup? Text.isDigit cs
    some (signed negative (Text.digitsValue digits))
  | _ => none

/-- A fractional number: a point with digits on both sides, an exponent, or both. -/
def decimal? (cs : List Char) : Option Datum := do
  let (negative, cs) := splitSign cs
  let inNumeral := fun c => Text.isDigit c || c == '_'
  if hasNeedlessZero cs then none
  let whole ← ungroup? Text.isDigit (cs.takeWhile inNumeral)
  match cs.dropWhile inNumeral with
  | '.' :: cs =>
    let part ← ungroup? Text.isDigit (cs.takeWhile inNumeral)
    let exponent ← exponent? (cs.dropWhile inNumeral)
    some (.decimal negative (Text.digitsValue (whole ++ part)) (exponent - part.length))
  | [] => none
  | cs =>
    let exponent ← exponent? cs
    some (.decimal negative (Text.digitsValue whole) exponent)

/-- A number that is infinite, or none at all. -/
def nonFinite? (cs : List Char) : Option Datum :=
  let (_, cs) := splitSign cs
  if cs = ['i', 'n', 'f'] ∨ cs = ['n', 'a', 'n'] then some .nonFinite else none

end EndpointCountry.Toml
