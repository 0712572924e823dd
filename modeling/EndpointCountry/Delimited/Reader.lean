import EndpointCountry.Delimited.Table
import EndpointCountry.Text

/-!
# Reading delimited records

A record is a line of fields with a delimiter between them. A field whose first byte is a quote is
quoted: a delimiter or a line end inside it is text, and two quotes stand for one. Quotes elsewhere
are text, empty lines do not count, and the end of the file ends the last record.

Splitting a file into records never fails. That the records have one number of fields and hold
well-formed text is checked afterwards, record by record.
-/

namespace EndpointCountry.Delimited

/-- Where the reader stands. -/
inductive Phase where
  /-- Between two records. -/
  | idle
  /-- Before the first byte of a field, after a delimiter. -/
  | fieldStart
  /-- In a field outside quotes. -/
  | plain
  /-- In a field inside quotes. -/
  | quoted
  /-- After a quote inside quotes: it ends them, unless another one follows. -/
  | quoteSeen
  deriving DecidableEq

/-- A record in the making: the bytes of its last field and the fields before that one, both in
reverse. -/
structure Draft where
  phase : Phase
  field : List UInt8
  fields : List (List UInt8)

namespace Draft

/-- No record yet. -/
def idle : Draft := ⟨.idle, [], []⟩

/-- The record with the given byte added to its last field. -/
def push (d : Draft) (phase : Phase) (b : UInt8) : Draft :=
  ⟨phase, b :: d.field, d.fields⟩

/-- The record after a delimiter. -/
def nextField (d : Draft) : Draft :=
  ⟨.fieldStart, [], d.field.reverse :: d.fields⟩

/-- The fields of the record. -/
def finish (d : Draft) : List (List UInt8) :=
  (d.field.reverse :: d.fields).reverse

end Draft

/-- What a byte does to a record in the making. -/
inductive Step where
  /-- The record goes on. -/
  | continue (d : Draft)
  /-- The record is complete. -/
  | record (fields : List (List UInt8))

/-- A byte outside quotes. -/
def Draft.stepPlain (delimiter : UInt8) (d : Draft) (b : UInt8) : Step :=
  if b = delimiter then .continue d.nextField
  else if isLineEnd b then .record d.finish
  else .continue (d.push .plain b)

/-- The first byte of a field. -/
def Draft.stepStart (delimiter : UInt8) (d : Draft) (b : UInt8) : Step :=
  if b = quote then .continue { d with phase := .quoted }
  else d.stepPlain delimiter b

/-- What a byte does to a record in the making. -/
def Draft.step (delimiter : UInt8) (d : Draft) (b : UInt8) : Step :=
  match d.phase with
  | .idle => if isLineEnd b then .continue d else d.stepStart delimiter b
  | .fieldStart => d.stepStart delimiter b
  | .plain => d.stepPlain delimiter b
  | .quoted =>
    if b = quote then .continue { d with phase := .quoteSeen } else .continue (d.push .quoted b)
  | .quoteSeen => if b = quote then .continue (d.push .quoted b) else d.stepPlain delimiter b

/-- The fields of a record, and the place right after the record before it. -/
structure RawRecord where
  place : Position
  fields : List (List UInt8)

/-- The records of a file from a place `here` on, with a record in the making that belongs to the
place `start`. -/
def split (delimiter : UInt8) (start here : Position) (d : Draft) : List UInt8 → List RawRecord
  | [] => if d.phase = .idle then [] else [⟨start, d.finish⟩]
  | b :: rest =>
    match d.step delimiter b with
    | .continue d => split delimiter start (here.next b) d rest
    | .record fields =>
      ⟨start, fields⟩ :: split delimiter (here.next b) (here.next b) .idle rest

/-- The records of a file. A byte order mark in front of it is skipped, though its bytes count. -/
def rawRecords (delimiter : UInt8) (bytes : List UInt8) : List RawRecord :=
  match bytes with
  | 0xEF :: 0xBB :: 0xBF :: rest =>
    split delimiter .start { Position.start with byte := 3 } .idle rest
  | bytes => split delimiter .start .start .idle bytes

/-- The texts of the fields of a record, counted from `field` on. -/
def fieldTexts (record : Nat) (place : Position) :
    Nat → List (List UInt8) → Except Defect (List String)
  | _, [] => .ok []
  | field, bytes :: rest =>
    match Text.ofBytes? bytes with
    | none => .error (.notText record place field (Text.validLength bytes))
    | some text =>
      match fieldTexts record place (field + 1) rest with
      | .ok texts => .ok (text :: texts)
      | .error defect => .error defect

/-- The texts of the records after the header, counted from `record` on. Each has to have as many
fields as the header, and this is looked at before its texts. -/
def rowTexts (expected : Nat) : Nat → List RawRecord → Except Defect (List (List String))
  | _, [] => .ok []
  | record, raw :: rest =>
    if raw.fields.length ≠ expected then
      .error (.unequalRead record raw.place raw.fields.length expected)
    else do
      let row ← fieldTexts record raw.place 0 raw.fields
      let rows ← rowTexts expected (record + 1) rest
      pure (row :: rows)

/-- The table that a file holds; a file without records is a table without columns. -/
def read (delimiter : UInt8) (bytes : List UInt8) : Except Defect Table :=
  match rawRecords delimiter bytes with
  | [] => .ok ⟨[], []⟩
  | header :: rest => do
    let headers ← fieldTexts 0 header.place 0 header.fields
    let rows ← rowTexts header.fields.length 1 rest
    pure ⟨headers, rows⟩

end EndpointCountry.Delimited
