import Mathlib
import EndpointCountry.Resolver.Builder

/-!
# Builders and the calls that fill them

A builder is filled by calls, one for each entry, of three kinds. It keeps the entries of each kind
in the order of their calls and forgets how the kinds were interleaved.

* `Call`, `ofCalls` — one call, and the builder that a list of calls fills.
* `ofCalls_eq` — the entries of that builder, kind by kind.
-/

namespace EndpointCountry.Resolver.Builder

/-- A call that gives a builder one more entry. -/
inductive Call where
  /-- A scheme and its country. -/
  | scheme (key : String) (country : Country)
  /-- A value with a country of its own. -/
  | override (value : String) (country : Country)
  /-- A rule for prefixes of `digits` digits. -/
  | range (digits : Nat) (rule : Gln.Rule)

namespace Call

/-- The entry of a call that lists a scheme. -/
def scheme? : Call → Option (String × Country)
  | scheme key country => some (key, country)
  | _ => none

/-- The entry of a call that gives a value a country. -/
def override? : Call → Option (String × Country)
  | override value country => some (value, country)
  | _ => none

/-- The entry of a call that adds a rule. -/
def range? : Call → Option (Nat × Gln.Rule)
  | range digits rule => some (digits, rule)
  | _ => none

end Call

/-- The builder after a call. -/
def call (b : Builder) : Call → Builder
  | .scheme key country => b.scheme key country
  | .override value country => b.override value country
  | .range digits rule => b.range digits rule

/-- The builder that a list of calls fills. -/
def ofCalls (calls : List Call) : Builder :=
  calls.foldl call empty

theorem foldl_call (b : Builder) (calls : List Call) :
    calls.foldl call b =
      ⟨b.schemes ++ calls.filterMap Call.scheme?, b.overrides ++ calls.filterMap Call.override?,
        b.ranges ++ calls.filterMap Call.range?⟩ := by
  induction calls generalizing b with
  | nil => simp
  | cons c rest ih =>
    rw [List.foldl_cons, ih]
    cases c <;>
      simp [call, scheme, override, range, Call.scheme?, Call.override?, Call.range?,
        List.filterMap_cons]

/-- A builder has the entries of its calls, kind by kind. -/
theorem ofCalls_eq (calls : List Call) :
    ofCalls calls =
      ⟨calls.filterMap Call.scheme?, calls.filterMap Call.override?,
        calls.filterMap Call.range?⟩ := by
  simp [ofCalls, foldl_call, empty]

end EndpointCountry.Resolver.Builder
