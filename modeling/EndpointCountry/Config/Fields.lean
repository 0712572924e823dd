import EndpointCountry.Datum
import EndpointCountry.Fault
import EndpointCountry.Text

/-!
# Fields of settings

A group of settings is a record with a field for each of them, or a list of their values in order.
Fields that the group does not have are ignored, but their numbers have to fit. What is asked of a
single value is a check; its fault names the setting and shows the value.
-/

namespace EndpointCountry.Config

/-- The values given for the settings of a group, in the group's order. In a record every setting
has a place, given or not; in a list the settings at the end may be left out. -/
structure Fields where
  named : Bool
  values : List (Option Datum)

namespace Fields

/-- The values that a datum gives for the named settings. A date or a time of day is a record of a
field that no group has. -/
def ofDatum? (names : List String) : Datum → Option Fields
  | .record entries =>
    if entries.all fun (name, d) => names.contains name || d.fits then
      some ⟨true, names.map fun name => entries.lookup name⟩
    else none
  | .list items => some ⟨false, items.map some⟩
  | .moment _ => some ⟨true, []⟩
  | _ => none

/-- The value given for the setting at a place. -/
def given (f : Fields) (place : Nat) : Option Datum :=
  (f.values[place]?).join

/-- A setting that has to be given. -/
def required {α : Type} (f : Fields) (place : Nat) (read : Datum → Option α) : Option α :=
  (f.given place).bind read

/-- A setting that a record may leave out; a list may not. -/
def optional {α : Type} (f : Fields) (place : Nat) (read : Datum → Option α) :
    Option (Option α) :=
  match f.given place with
  | some .null => some none
  | some d => (read d).map some
  | none => if f.named then some none else none

/-- A setting that has a value of its own when none is given. -/
def withDefault {α : Type} (f : Fields) (place : Nat) (value : α) (read : Datum → Option α) :
    Option α :=
  match f.given place with
  | some d => read d
  | none => some value

end Fields

/-! ## Checks -/

namespace Check

/-- A path is not empty and holds no null character. -/
def path (field value : String) : Except Fault Unit :=
  if value = "" then .error (.settingValue field value "Path cannot be empty")
  else if '\x00' ∈ value.toList then
    .error (.settingValue field value "Path contains null bytes")
  else .ok ()

/-- A name is not blank. -/
def notBlank (field value : String) : Except Fault Unit :=
  if Text.Blank value then
    .error (.settingValue field value "Value cannot be empty or whitespace-only")
  else .ok ()

/-- A number lies between two bounds, both allowed. -/
def between (field : String) (value low high : Int) : Except Fault Unit :=
  if value < low ∨ high < value then
    .error (.settingValue field s!"{value}" s!"Value must be between {low} and {high}")
  else .ok ()

end Check

end EndpointCountry.Config
