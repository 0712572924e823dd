/-!
# Tables

Rows of cells under a header, and why a table could not be read or written.
-/

namespace EndpointCountry.Delimited

/-- A header and rows, cell by cell. -/
structure Table where
  headers : List String
  rows : List (List String)
  deriving DecidableEq

/-- The mark around a field that may hold anything. -/
def quote : UInt8 := 0x22

/-- A byte that ends a record outside quotes: a line feed or a carriage return. -/
def isLineEnd (b : UInt8) : Bool :=
  b == 0x0A || b == 0x0D

/-- A place in a file: bytes before it, and its line, counted from one. -/
structure Position where
  byte : Nat
  line : Nat
  deriving DecidableEq

/-- The place at which a file starts. -/
def Position.start : Position := ⟨0, 1⟩

/-- The place after one more byte. -/
def Position.next (p : Position) (b : UInt8) : Position :=
  ⟨p.byte + 1, if b = 0x0A then p.line + 1 else p.line⟩

/-- What is wrong with a table. Records and fields are counted from zero, the header included. -/
inductive Defect where
  /-- A record that was read has another number of fields than the header. -/
  | unequalRead (record : Nat) (place : Position) (found expected : Nat)
  /-- A record that is to be written has another number of fields than the header. -/
  | unequalWritten (found expected : Nat)
  /-- A field is not well-formed UTF-8 from its byte `valid` on. -/
  | notText (record : Nat) (place : Position) (field valid : Nat)
  deriving DecidableEq

namespace Defect

/-- The wording of a defect. -/
def message : Defect → String
  | unequalRead record place found expected =>
    s!"CSV error: record {record} (line: {place.line}, byte: {place.byte}): found record with {found} fields, but the previous record has {expected} fields"
  | unequalWritten found expected =>
    s!"CSV error: found record with {found} fields, but the previous record has {expected} fields"
  | notText record place field valid =>
    s!"CSV parse error: record {record} (line {place.line}, field: {field}, byte: {place.byte}): invalid utf-8: invalid UTF-8 in field {field} near byte index {valid}"

end Defect

end EndpointCountry.Delimited
