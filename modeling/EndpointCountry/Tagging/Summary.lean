import EndpointCountry.Country
import EndpointCountry.Delimited.Table

/-!
# Summaries of a batch

What was done to the rows of a table: how many were tagged, with which countries, and which ones
had a malformed endpoint.
-/

namespace EndpointCountry.Tagging

/-- A row with a malformed endpoint. Rows are counted from one, without the header. -/
structure InvalidRow where
  row : Nat
  endpoint : String
  reason : String
  deriving DecidableEq

/-- An account of a tagged batch. -/
structure Summary where
  name : String
  generatedAt : String
  totalRows : Nat
  taggedRows : Nat
  skippedRows : Nat
  /-- Rows that were tagged with no country. -/
  unknownRows : Nat
  /-- How many rows each country has, in the order of the codes; only countries with rows. -/
  perCountry : List (Country × Nat)
  invalid : List InvalidRow

/-- A tagged table and the account of it. -/
structure Result where
  table : Delimited.Table
  summary : Summary

/-- Adds one to the count of a country; the counts keep the order of the codes. -/
def countOne (country : Country) : List (Country × Nat) → List (Country × Nat)
  | [] => [(country, 1)]
  | (c, n) :: rest =>
    match compare country c with
    | .lt => (country, 1) :: (c, n) :: rest
    | .eq => (c, n + 1) :: rest
    | .gt => (c, n) :: countOne country rest

/-- How often each country occurs, in the order of the codes. -/
def tally (countries : List Country) : List (Country × Nat) :=
  countries.foldl (fun counts country => countOne country counts) []

/-- The count of a country; one that does not occur has none. -/
def countOf (counts : List (Country × Nat)) (country : Country) : Nat :=
  (counts.lookup country).getD 0

/-- A row with a malformed endpoint as data. -/
def InvalidRow.toDatum (r : InvalidRow) : Datum :=
  .record [("row", .integer r.row), ("endpoint", .text r.endpoint), ("reason", .text r.reason)]

/-- An account as data. -/
def Summary.toDatum (s : Summary) : Datum :=
  .record [("name", .text s.name), ("generated_at", .text s.generatedAt),
    ("total_rows", .integer s.totalRows), ("tagged_rows", .integer s.taggedRows),
    ("skipped_rows", .integer s.skippedRows), ("unknown_rows", .integer s.unknownRows),
    ("per_country", .record (s.perCountry.map fun (c, n) => (c.text, .integer n))),
    ("invalid", .list (s.invalid.map InvalidRow.toDatum))]

end EndpointCountry.Tagging
