import EndpointCountry.CaselessTable
import EndpointCountry.Scheme.Registry

/-!
# Scheme tables

The country that each identifier scheme implies, with a default for schemes that are not listed.
-/

namespace EndpointCountry.Scheme

/-- Countries under schemes; the default stands under the empty scheme. -/
structure Table where
  entries : CaselessTable

namespace Table

/-- The key of the default. -/
def defaultKey : String := ""

/-- The registered schemes; the default is no country. -/
def builtin : Table :=
  ⟨(CaselessTable.empty.insertAll registered).insert defaultKey .unknown⟩

/-- The country of a listed scheme. -/
def get? (t : Table) (scheme : String) : Option Country :=
  t.entries.get? scheme

/-- The country of schemes that are not listed. -/
def default (t : Table) : Country :=
  (t.entries.get? defaultKey).getD .unknown

/-- The country of a scheme, listed or not. -/
def lookup (t : Table) (scheme : String) : Country :=
  (t.get? scheme).getD t.default

/-- Lists a scheme, and tells which country it had. -/
def exchange (t : Table) (scheme : String) (country : Country) : Option Country × Table :=
  let (previous, entries) := t.entries.exchange scheme country
  (previous, ⟨entries⟩)

/-- Lists a scheme. -/
def insert (t : Table) (scheme : String) (country : Country) : Table :=
  (t.exchange scheme country).2

/-- How many schemes are listed, the default included. -/
def size (t : Table) : Nat :=
  t.entries.size

/-- A table that lists nothing. -/
def isEmpty (t : Table) : Bool :=
  t.entries.isEmpty

end Table

end EndpointCountry.Scheme
