import EndpointCountry.Datum
import EndpointCountry.Fault

/-!
# Country codes

Two capital letters name a country; `ZZ` names none.
-/

namespace EndpointCountry

/-- A two-letter country code in capitals. -/
structure Country where
  first : Char
  second : Char
  first_isUpper : first.isUpper = true
  second_isUpper : second.isUpper = true
  deriving DecidableEq

namespace Country

/-- A code written out, for the built-in tables. -/
def of (first second : Char) (hf : first.isUpper = true := by exact Eq.refl true)
    (hs : second.isUpper = true := by exact Eq.refl true) : Country :=
  ⟨first, second, hf, hs⟩

/-- The code for "no single country". -/
def unknown : Country := of 'Z' 'Z'

instance : Inhabited Country := ⟨unknown⟩

/-- The two letters of a code. -/
def letters (c : Country) : List Char :=
  [c.first, c.second]

/-- The text of a code. -/
def text (c : Country) : String :=
  String.ofList c.letters

/-- Whether a code names no single country. -/
def isUnknown (c : Country) : Bool :=
  c = unknown

/-- Codes are ordered by their letters. -/
instance : Ord Country where
  compare a b := (compare a.first b.first).then (compare a.second b.second)

/-- The code with the given letters, if both are capitals. -/
def ofCapitals? (first second : Char) : Option Country :=
  if h : first.isUpper = true ∧ second.isUpper = true then some ⟨first, second, h.1, h.2⟩
  else none

/-- The code written in capitals by a text. -/
def literal? (s : String) : Option Country :=
  match s.toList with
  | [a, b] => ofCapitals? a b
  | _ => none

/-- The code that a text spells: two ASCII letters, in capitals or not. -/
def parse? (s : String) : Option Country :=
  match s.toList with
  | [a, b] => ofCapitals? a.toUpper b.toUpper
  | _ => none

/-- The code that a text spells, or the fault that it spells none. -/
def parse (s : String) : Except Fault Country :=
  match parse? s with
  | some c => .ok c
  | none => .error (.argument s!"'{s}' is not a two-letter country code")

/-- A code as data is its text. -/
def toDatum (c : Country) : Datum :=
  .text c.text

/-- The code that a datum holds. Only a text can hold one. -/
def ofDatum : Datum → Except Fault Country
  | .text s => (parse s).mapError fun fault => .encoding fault.message
  | d => .error (.encoding s!"invalid type: {d.describe}, expected a string")

end Country

end EndpointCountry
