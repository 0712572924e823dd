import EndpointCountry.Config.Resolver

/-!
# Settings of a batch

Which file to tag, how its endpoints are laid out, where the result goes, and what to do with an
endpoint that is malformed.
-/

namespace EndpointCountry.Config

/-- What to do with a row whose endpoint is malformed. -/
inductive Policy where
  /-- Give up. -/
  | fail
  /-- Leave the row out. -/
  | skip
  /-- Keep the row, with no country. -/
  | unknown
  deriving DecidableEq

/-- What a batch is called. -/
structure BatchInfo where
  name : String
  description : Option String

/-- Which file is tagged, and how it is laid out. -/
structure Input where
  path : String
  delimiter : Option String
  /-- The column of endpoints in their joined form. -/
  endpointColumn : Option String
  /-- The column of schemes, where scheme and value stand apart. -/
  schemeColumn : Option String
  /-- The column of values, where scheme and value stand apart. -/
  valueColumn : Option String

/-- Where the result goes. -/
structure Output where
  path : String
  filename : Option String
  countryColumn : Option String
  writeSummary : Option Bool

/-- The settings of a batch. -/
structure Batch where
  batch : BatchInfo
  input : Input
  output : Output
  resolver : Resolver
  policy : Policy

/-- The columns that hold the endpoints. -/
inductive EndpointColumns where
  /-- One column, of joined endpoints. -/
  | joined (column : String)
  /-- Two columns, of schemes and of values. -/
  | split (scheme value : String)
  deriving DecidableEq

namespace Policy

/-- The policy of a name. -/
def ofName? : String → Option Policy
  | "fail" => some .fail
  | "skip" => some .skip
  | "unknown" => some .unknown
  | _ => none

/-- The name of a policy in the settings. -/
def name : Policy → String
  | fail => "fail"
  | skip => "skip"
  | unknown => "unknown"

/-- The name of a policy in a report. -/
def title : Policy → String
  | fail => "Fail"
  | skip => "Skip"
  | unknown => "Unknown"

/-- Reads a policy: its name, or a record of one empty field of that name. -/
def ofDatum? : Datum → Option Policy
  | .text name => ofName? name
  | .record [(name, .list [])] => ofName? name
  | .record [(name, .record [])] => ofName? name
  | _ => none

/-- Reads the settings for malformed endpoints; giving up is what is done unless they tell. -/
def ofErrorHandling? (d : Datum) : Option Policy := do
  let f ← Fields.ofDatum? ["on_invalid_endpoint"] d
  f.withDefault 0 .fail ofDatum?

end Policy

/-- Reads what a batch is called. -/
def BatchInfo.ofDatum? (d : Datum) : Option BatchInfo := do
  let f ← Fields.ofDatum? ["name", "description"] d
  some ⟨← f.required 0 Datum.asText?, ← f.optional 1 Datum.asText?⟩

namespace Input

/-- Reads which file is tagged. -/
def ofDatum? (d : Datum) : Option Input := do
  let f ← Fields.ofDatum?
    ["path", "delimiter", "endpoint_column", "scheme_column", "value_column"] d
  some ⟨← f.required 0 Datum.asText?, ← f.optional 1 Datum.asText?,
    ← f.optional 2 Datum.asText?, ← f.optional 3 Datum.asText?, ← f.optional 4 Datum.asText?⟩

/-- The columns that hold the endpoints: one for both parts, or one for each. -/
def endpointColumns (i : Input) : Except Fault EndpointColumns :=
  match i.endpointColumn, i.schemeColumn, i.valueColumn with
  | some column, none, none => .ok (.joined column)
  | none, some scheme, some value => .ok (.split scheme value)
  | none, none, none => .error (.settingMissing "input.endpoint_column")
  | _, _, _ =>
    .error (.setting "input"
      "set either 'endpoint_column' or both 'scheme_column' and 'value_column'")

/-- The byte of a text of one ASCII character. -/
def asciiByte? (s : String) : Option UInt8 :=
  match s.toList with
  | [c] => if c.toNat < 128 then some c.toUInt8 else none
  | _ => none

/-- The byte between two fields of a record: a comma unless the settings tell. A tab may be written
as a backslash and the letter t. -/
def delimiterByte (i : Input) : Except Fault UInt8 :=
  match i.delimiter with
  | none => .ok 0x2C
  | some d =>
    if d = "\\t" then .ok 0x09
    else
      match asciiByte? d with
      | some b => .ok b
      | none =>
        .error (.settingValue "input.delimiter" d "delimiter must be a single ASCII character")

end Input

namespace Output

/-- Reads where the result goes. -/
def ofDatum? (d : Datum) : Option Output := do
  let f ← Fields.ofDatum? ["path", "filename", "country_column", "write_summary"] d
  some ⟨← f.required 0 Datum.asText?, ← f.optional 1 Datum.asText?,
    ← f.optional 2 Datum.asText?, ← f.optional 3 Datum.asBoolean?⟩

/-- The name of the tagged file. -/
def tableName (o : Output) : String :=
  o.filename.getD "tagged.csv"

/-- The column that holds the countries. -/
def countryName (o : Output) : String :=
  o.countryColumn.getD "country_code"

/-- Whether a summary is written beside the tagged file. -/
def wantsSummary (o : Output) : Bool :=
  o.writeSummary.getD true

end Output

namespace Batch

/-- Reads the settings of a batch. -/
def ofDatum? (d : Datum) : Option Batch := do
  let f ← Fields.ofDatum? ["batch", "input", "output", "resolver", "error_handling"] d
  some ⟨← f.required 0 BatchInfo.ofDatum?, ← f.required 1 Input.ofDatum?,
    ← f.required 2 Output.ofDatum?, ← f.withDefault 3 {} Resolver.ofDatum?,
    ← f.withDefault 4 .fail Policy.ofErrorHandling?⟩

/-- What is asked of the settings of a batch. -/
def check (c : Batch) : Except Fault Unit := do
  Check.notBlank "batch.name" c.batch.name
  Check.path "input.path" c.input.path
  Check.path "output.path" c.output.path
  Check.path "output.filename" c.output.tableName
  Check.notBlank "output.country_column" c.output.countryName
  let _ ← c.input.delimiterByte
  let _ ← c.input.endpointColumns
  c.resolver.check

end Batch

end EndpointCountry.Config
