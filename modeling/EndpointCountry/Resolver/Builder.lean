import EndpointCountry.Resolver
import EndpointCountry.Text

/-!
# Resolver builders

Entries to be layered on the built-in tables. Schemes and overrides replace what stands under the
same key; prefix rules may not contradict one another or the built-in ones.
-/

namespace EndpointCountry.Resolver

/-- Entries in the order in which they were given, kind by kind. -/
structure Builder where
  schemes : List (String × Country) := []
  overrides : List (String × Country) := []
  ranges : List (Nat × Gln.Rule) := []

namespace Builder

/-- A builder without entries adds nothing. -/
def empty : Builder := {}

/-- Adds the country of a scheme. -/
def scheme (b : Builder) (key : String) (country : Country) : Builder :=
  { b with schemes := b.schemes ++ [(key, country)] }

/-- Adds the country of a value. -/
def override (b : Builder) (value : String) (country : Country) : Builder :=
  { b with overrides := b.overrides ++ [(value, country)] }

/-- Adds a rule for prefixes of `digits` digits. -/
def range (b : Builder) (digits : Nat) (rule : Gln.Rule) : Builder :=
  { b with ranges := b.ranges ++ [(digits, rule)] }

/-- Puts an entry into a resolver, unless its key may not stand there. -/
def addEntry (Refused : String → Prop) [DecidablePred Refused] (field message : String)
    (put : Resolver → String × Country → Resolver) (r : Resolver) (entry : String × Country) :
    Except Fault Resolver :=
  if Refused entry.1 then .error (.settingValue field entry.1 message) else .ok (put r entry)

/-- Lists a scheme. The default cannot be replaced. -/
def addScheme : Resolver → String × Country → Except Fault Resolver :=
  addEntry (· = "") "resolver.schemes.key" "the default scheme entry cannot be replaced"
    fun r entry => { r with schemes := r.schemes.insert entry.1 entry.2 }

/-- Gives a value a country of its own. The value may not be blank. -/
def addOverride : Resolver → String × Country → Except Fault Resolver :=
  addEntry Text.Blank "resolver.custom_overrides.value" "override value cannot be empty"
    fun r entry => { r with overrides := r.overrides.insert entry.1 entry.2 }

/-- Adds a rule to the table for prefixes of its length. -/
def addRange (r : Resolver) (entry : Nat × Gln.Rule) : Except Fault Resolver :=
  match r.table? entry.1 with
  | none =>
    .error (.settingValue "resolver.gln_ranges.digits" s!"{entry.1}"
      "prefix length must be between 3 and 5")
  | some table =>
    match table.offer entry.2 with
    | (table, .ok ()) => .ok (r.withTable table entry.1)
    | (_, .error refusal) => .error (refusal.toFault entry.1)

/-- The resolver with all entries of a builder, or the first fault: schemes come first, then
overrides, then rules. -/
def build (b : Builder) : Except Fault Resolver := do
  let r ← b.schemes.foldlM addScheme builtin
  let r ← b.overrides.foldlM addOverride r
  b.ranges.foldlM addRange r

end Builder

end EndpointCountry.Resolver
