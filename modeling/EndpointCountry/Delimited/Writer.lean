import EndpointCountry.Delimited.Table
import EndpointCountry.Text

/-!
# Writing delimited records

A field is quoted only if it has to be: when it holds the delimiter, a quote or a line end. A
record ends with a line feed.
-/

namespace EndpointCountry.Delimited

/-- Whether a field has to be quoted. -/
def needsQuotes (delimiter : UInt8) (field : List UInt8) : Bool :=
  field.any fun b => b == delimiter || b == quote || isLineEnd b

/-- The bytes of a field with every quote written twice. -/
def doubleQuotes : List UInt8 → List UInt8
  | [] => []
  | b :: rest => if b = quote then quote :: quote :: doubleQuotes rest else b :: doubleQuotes rest

/-- A field as it is written. -/
def writeField (delimiter : UInt8) (field : List UInt8) : List UInt8 :=
  if needsQuotes delimiter field then quote :: doubleQuotes field ++ [quote] else field

/-- Fields with the delimiter between them. -/
def joinFields (delimiter : UInt8) : List (List UInt8) → List UInt8
  | [] => []
  | [field] => field
  | field :: rest => field ++ delimiter :: joinFields delimiter rest

/-- A record as it is written. One that would leave its line empty is written as two quotes. -/
def writeRecord (delimiter : UInt8) (record : List String) : List UInt8 :=
  let line := joinFields delimiter (record.map fun cell => writeField delimiter (Text.bytes cell))
  (if line.isEmpty then [quote, quote] else line) ++ [0x0A]

/-- Records as they are written; each has to have as many fields as the header. -/
def writeRecords (delimiter : UInt8) (expected : Nat) :
    List (List String) → Except Defect (List UInt8)
  | [] => .ok []
  | record :: rest =>
    if record.length ≠ expected then .error (.unequalWritten record.length expected)
    else
      match writeRecords delimiter expected rest with
      | .ok bytes => .ok (writeRecord delimiter record ++ bytes)
      | .error defect => .error defect

/-- The file that holds a table. -/
def write (delimiter : UInt8) (table : Table) : Except Defect (List UInt8) :=
  match writeRecords delimiter table.headers.length table.rows with
  | .ok bytes => .ok (writeRecord delimiter table.headers ++ bytes)
  | .error defect => .error defect

end EndpointCountry.Delimited
