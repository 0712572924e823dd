import EndpointCountry.Endpoint
import EndpointCountry.Gln.Allocation
import EndpointCountry.Scheme.Table

/-!
# Resolvers

The country of a scheme and a value. A value of a location-number scheme is placed by its first
three, four or five digits, and else by the table of overrides; any other scheme has one country
for all its values. With the country comes the table that gave it.
-/

namespace EndpointCountry

/-! ## Answers -/

/-- Where a country comes from. -/
inductive Source where
  /-- The scheme is listed, under this key. -/
  | scheme (key : String)
  /-- The scheme is not listed. -/
  | schemeDefault
  /-- The first `digits` digits of a location number, which denote `number`, are allocated. -/
  | glnPrefix (digits number : Nat)
  /-- The value as a whole has a country of its own. -/
  | customOverride
  /-- Nothing places the location number. -/
  | glnUnresolved
  deriving DecidableEq

namespace Source

/-- The wording of a source. -/
def text : Source → String
  | scheme key => s!"scheme table ({key})"
  | schemeDefault => "scheme table default"
  | glnPrefix digits number =>
    s!"{digits}-digit GLN prefix " ++ String.ofList (Text.padded digits number)
  | customOverride => "custom override"
  | glnUnresolved => "no GLN mapping"

/-- The fields of a source as data, its kind first. -/
def toDatum : Source → Datum
  | scheme key => .record [("kind", .text "scheme"), ("key", .text key)]
  | schemeDefault => .record [("kind", .text "scheme_default")]
  | glnPrefix digits number =>
    .record [("kind", .text "gln_prefix"), ("digits", .integer digits), ("prefix", .integer number)]
  | customOverride => .record [("kind", .text "custom_override")]
  | glnUnresolved => .record [("kind", .text "gln_unresolved")]

end Source

/-- A country and where it comes from. -/
structure Resolution where
  country : Country
  source : Source
  deriving DecidableEq

/-! ## Tables -/

/-- The tables that place endpoints. -/
structure Resolver where
  /-- Prefixes of three digits. -/
  three : Gln.Table
  /-- Prefixes of four digits. -/
  four : Gln.Table
  /-- Prefixes of five digits. -/
  five : Gln.Table
  /-- Countries of schemes. -/
  schemes : Scheme.Table
  /-- Countries of single values. -/
  overrides : CaselessTable

namespace Resolver

/-- The allocated prefixes, the registered schemes and the known corrections. -/
def builtin : Resolver where
  three := .ofRules 3 Gln.threeDigitRules
  four := .ofRules 4 Gln.fourDigitRules
  five := .ofRules 5 Gln.fiveDigitRules
  schemes := .builtin
  overrides := CaselessTable.empty.insertAll Scheme.corrections

/-- Values shorter than this are never placed. -/
def shortestValue : Nat := 5

/-- Whether the values of a scheme are location numbers. -/
def isMarker (scheme : String) : Bool :=
  Scheme.locationMarkers.contains (Text.upper scheme)

/-- Places a value by the first of some prefix tables that gives it a country. A prefix of zeros
tells nothing, and a prefix that is not all digits ends the search. -/
def placeByPrefix (value : List Char) : List Gln.Table → Option Resolution
  | [] => none
  | table :: rest =>
    match Text.readDigits? (value.take table.digits) with
    | none => none
    | some 0 => placeByPrefix value rest
    | some number =>
      let country := table.lookup number
      if country.isUnknown then placeByPrefix value rest
      else some ⟨country, .glnPrefix table.digits number⟩

/-- Places a location number. -/
def explainGln (r : Resolver) (value : String) : Resolution :=
  if value.toList.length < shortestValue then ⟨.unknown, .glnUnresolved⟩
  else
    match placeByPrefix value.toList [r.three, r.four, r.five] with
    | some resolution => resolution
    | none =>
      match r.overrides.get? value with
      | some country => ⟨country, .customOverride⟩
      | none => ⟨.unknown, .glnUnresolved⟩

/-- The country of a scheme and a value, and where it comes from. -/
def explain (r : Resolver) (scheme value : String) : Resolution :=
  if isMarker scheme then r.explainGln value
  else
    match r.schemes.get? scheme with
    | some country => ⟨country, .scheme (Text.upper scheme)⟩
    | none => ⟨r.schemes.default, .schemeDefault⟩

/-- The country of a scheme and a value. -/
def resolve (r : Resolver) (scheme value : String) : Country :=
  (r.explain scheme value).country

/-- A resolver gives a country to everything. -/
def toMapper (r : Resolver) : Mapper :=
  .ofResolve r.resolve

/-- The table for prefixes of a length, if there is one. -/
def table? (r : Resolver) : Nat → Option Gln.Table
  | 3 => some r.three
  | 4 => some r.four
  | 5 => some r.five
  | _ => none

/-- The resolver with another table for prefixes of a length. -/
def withTable (r : Resolver) (table : Gln.Table) : Nat → Resolver
  | 3 => { r with three := table }
  | 4 => { r with four := table }
  | 5 => { r with five := table }
  | _ => r

/-- How many schemes are listed. -/
def schemeCount (r : Resolver) : Nat :=
  r.schemes.size

/-- How many values have a country of their own. -/
def overrideCount (r : Resolver) : Nat :=
  r.overrides.size

/-- How many prefixes of a length are mapped. -/
def prefixCount (r : Resolver) (digits : Nat) : Nat :=
  match r.table? digits with
  | some table => table.size
  | none => 0

end Resolver

end EndpointCountry
