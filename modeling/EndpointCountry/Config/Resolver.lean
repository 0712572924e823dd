import EndpointCountry.Config.Fields
import EndpointCountry.Resolver.Builder

/-!
# Settings of the resolver

Extra entries for the tables, as a settings file gives them: countries are still texts.
-/

namespace EndpointCountry.Config

/-- A value with a country of its own. -/
structure OverrideEntry where
  value : String
  country : String

/-- A scheme and its country. -/
structure SchemeEntry where
  key : String
  country : String

/-- A run of prefixes and its country. -/
structure RangeEntry where
  digits : Nat
  first : Nat
  last : Nat
  country : String

/-- Extra entries for the tables. -/
structure Resolver where
  overrides : List OverrideEntry := []
  schemes : List SchemeEntry := []
  ranges : List RangeEntry := []

/-- Reads an override. -/
def OverrideEntry.ofDatum? (d : Datum) : Option OverrideEntry := do
  let f ← Fields.ofDatum? ["value", "country"] d
  some ⟨← f.required 0 Datum.asText?, ← f.required 1 Datum.asText?⟩

/-- Reads a scheme. -/
def SchemeEntry.ofDatum? (d : Datum) : Option SchemeEntry := do
  let f ← Fields.ofDatum? ["key", "country"] d
  some ⟨← f.required 0 Datum.asText?, ← f.required 1 Datum.asText?⟩

/-- Reads a run of prefixes. The length fits eight bits and the bounds fit thirty-two. -/
def RangeEntry.ofDatum? (d : Datum) : Option RangeEntry := do
  let f ← Fields.ofDatum? ["digits", "from", "to", "country"] d
  some ⟨← f.required 0 (Datum.asNat? 255), ← f.required 1 (Datum.asNat? 4294967295),
    ← f.required 2 (Datum.asNat? 4294967295), ← f.required 3 Datum.asText?⟩

namespace Resolver

/-- Reads the settings of the resolver; lists that are not given are empty. -/
def ofDatum? (d : Datum) : Option Resolver := do
  let f ← Fields.ofDatum? ["custom_overrides", "schemes", "gln_ranges"] d
  some ⟨← f.withDefault 0 [] (Datum.asList? OverrideEntry.ofDatum?),
    ← f.withDefault 1 [] (Datum.asList? SchemeEntry.ofDatum?),
    ← f.withDefault 2 [] (Datum.asList? RangeEntry.ofDatum?)⟩

/-- A country in the settings is a two-letter code. -/
def checkCountry (field value : String) : Except Fault Unit :=
  match Country.parse? value with
  | some _ => .ok ()
  | none => .error (.settingValue field value "expected an ISO 3166-1 alpha-2 code")

/-- What is asked of an override. -/
def checkOverride (entry : OverrideEntry) : Except Fault Unit := do
  Check.notBlank "resolver.custom_overrides.value" entry.value
  checkCountry "resolver.custom_overrides.country" entry.country

/-- What is asked of a scheme. -/
def checkScheme (entry : SchemeEntry) : Except Fault Unit := do
  Check.notBlank "resolver.schemes.key" entry.key
  checkCountry "resolver.schemes.country" entry.country

/-- What is asked of a run of prefixes. -/
def checkRange (entry : RangeEntry) : Except Fault Unit := do
  Check.between "resolver.gln_ranges.digits" entry.digits 3 5
  if entry.last < entry.first then
    .error (.settingValue "resolver.gln_ranges" s!"{entry.first}..{entry.last}"
      "'from' must not be greater than 'to'")
  checkCountry "resolver.gln_ranges.country" entry.country

/-- What is asked of the settings of the resolver. -/
def check (c : Resolver) : Except Fault Unit := do
  c.overrides.forM checkOverride
  c.schemes.forM checkScheme
  c.ranges.forM checkRange

/-- The settings as entries for a builder. The first text that is no country is the fault. -/
def toBuilder (c : Resolver) : Except Fault EndpointCountry.Resolver.Builder := do
  let overrides ← c.overrides.mapM fun entry => do
    pure (entry.value, ← Country.parse entry.country)
  let schemes ← c.schemes.mapM fun entry => do
    pure (entry.key, ← Country.parse entry.country)
  let ranges ← c.ranges.mapM fun entry => do
    pure (entry.digits, Gln.Rule.mk entry.first entry.last (← Country.parse entry.country))
  pure ⟨schemes, overrides, ranges⟩

/-- The built-in tables with the entries of the settings on top. -/
def toResolver (c : Resolver) : Except Fault EndpointCountry.Resolver := do
  (← c.toBuilder).build

end Resolver

end EndpointCountry.Config
