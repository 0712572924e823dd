import EndpointCountry.Config.Batch
import EndpointCountry.Tagging.Summary

/-!
# Tagging a table

Every row of a table gets the country of its endpoint, in a column of its own. Rows are tagged one
by one; what is done with one does not depend on the others, but the first row that has to be given
up ends the whole.
-/

namespace EndpointCountry.Tagging

/-- The places of the columns that hold the endpoints. -/
inductive Layout where
  /-- One column, of joined endpoints. -/
  | joined (place : Nat)
  /-- Two columns, of schemes and of values. -/
  | split (scheme value : Nat)

/-- The place of the first column of a name, or the fault that there is none. -/
def findColumn (headers : List String) (name : String) : Except Fault Nat :=
  match headers.findIdx? (· = name) with
  | some place => .ok place
  | none =>
    let shown := ", ".intercalate headers
    .error (.setting "input" s!"column '{name}' not found in input header [{shown}]")

/-- Where a header has the columns that hold the endpoints. -/
def layout (columns : Config.EndpointColumns) (headers : List String) : Except Fault Layout :=
  match columns with
  | .joined column => do pure (.joined (← findColumn headers column))
  | .split scheme value => do
    let scheme ← findColumn headers scheme
    let value ← findColumn headers value
    pure (.split scheme value)

/-- The cell of a row at a place; a row that is too short has empty cells. -/
def cellAt (row : List String) (place : Nat) : String :=
  row[place]?.getD ""

/-- An endpoint that the mapper rejects, and why. -/
structure Rejection where
  endpoint : String
  reason : String

/-- The country of a row. Only a joined endpoint can be rejected. -/
def countryOf (mapper : Mapper) (layout : Layout) (row : List String) :
    Except Rejection Country :=
  match layout with
  | .joined place =>
    (mapper.resolveEndpoint (cellAt row place)).mapError (⟨cellAt row place, ·.message⟩)
  | .split scheme value => .ok (mapper.resolve (cellAt row scheme) (cellAt row value))

/-- A row with another cell at a place; a row that is too short is filled up with empty cells. -/
def setCell (row : List String) (place : Nat) (cell : String) : List String :=
  (row ++ List.replicate (place + 1 - row.length) "").set place cell

/-- What became of a row. -/
inductive Outcome where
  /-- The row has a country. -/
  | tagged (country : Country) (row : List String)
  /-- The row is kept without a country. -/
  | unknown (invalid : InvalidRow) (row : List String)
  /-- The row is left out. -/
  | skipped (invalid : InvalidRow)

namespace Outcome

/-- The row that is kept, with its country. -/
def kept? : Outcome → Option (Country × List String)
  | tagged country row => some (country, row)
  | unknown _ row => some (.unknown, row)
  | skipped _ => none

/-- The entry about a rejected endpoint. -/
def invalid? : Outcome → Option InvalidRow
  | tagged .. => none
  | unknown invalid _ => some invalid
  | skipped invalid => some invalid

/-- Whether the row is left out. -/
def isSkipped : Outcome → Bool
  | skipped _ => true
  | _ => false

end Outcome

/-- Tags the row of a number, with its country at a place. -/
def tagRow (mapper : Mapper) (layout : Layout) (policy : Config.Policy) (place number : Nat)
    (row : List String) : Except Fault Outcome :=
  match countryOf mapper layout row with
  | .ok country => .ok (.tagged country (setCell row place country.text))
  | .error ⟨endpoint, reason⟩ =>
    match policy with
    | .fail => .error (.processing s!"row {number}: {reason}")
    | .skip => .ok (.skipped ⟨number, endpoint, reason⟩)
    | .unknown =>
      .ok (.unknown ⟨number, endpoint, reason⟩ (setCell row place Country.unknown.text))

/-- Tags rows, counted from `number` on. -/
def tagRows (mapper : Mapper) (layout : Layout) (policy : Config.Policy) (place : Nat) :
    Nat → List (List String) → Except Fault (List Outcome)
  | _, [] => .ok []
  | number, row :: rest => do
    let outcome ← tagRow mapper layout policy place number row
    let outcomes ← tagRows mapper layout policy place (number + 1) rest
    pure (outcome :: outcomes)

/-- The header with the column for countries, and the place of it: the first column of that name,
or a new one at the end. -/
def placeCountry (headers : List String) (name : String) : List String × Nat :=
  match headers.findIdx? (· = name) with
  | some place => (headers, place)
  | none => (headers ++ [name], headers.length)

/-- The account of a batch of `total` rows. -/
def summarize (name generatedAt : String) (total : Nat) (outcomes : List Outcome) : Summary :=
  let kept := outcomes.filterMap Outcome.kept?
  let counts := tally (kept.map (·.1))
  { name := name
    generatedAt := generatedAt
    totalRows := total
    taggedRows := kept.length
    skippedRows := outcomes.countP Outcome.isSkipped
    unknownRows := countOf counts .unknown
    perCountry := counts
    invalid := outcomes.filterMap Outcome.invalid? }

/-- Tags every row of a table with the country of its endpoint. -/
def transform (mapper : Mapper) (config : Config.Batch) (generatedAt : String)
    (table : Delimited.Table) : Except Fault Result := do
  let columns ← config.input.endpointColumns
  let layout ← layout columns table.headers
  let (headers, place) := placeCountry table.headers config.output.countryName
  let outcomes ← tagRows mapper layout config.policy place 1 table.rows
  let rows := (outcomes.filterMap Outcome.kept?).map (·.2)
  pure ⟨⟨headers, rows⟩, summarize config.batch.name generatedAt table.rows.length outcomes⟩

end EndpointCountry.Tagging
