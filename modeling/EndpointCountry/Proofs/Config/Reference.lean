import EndpointCountry.Proofs.Config.Acceptance
import EndpointCountry.Proofs.Resolver.Placement
import EndpointCountry.Proofs.Scheme.Table

/-!
# The answers of a resolver, read off its entries

A resolver answers from tables that were filled entry by entry. The same answers can be read off
the built-in lists and the lists of the settings directly: the last entry under a spelling of a key
counts, and so does the shortest prefix with a country.

* `Builder.reference` — the answer, read off lists of entries.
* `Builder.explain_layered` — the tables of all entries give it.
* `explain_eq_reference` — so does every resolver that settings make.
-/

namespace EndpointCountry.Resolver.Builder

open CaselessTable (lastUnder?)

/-- The answer for a location number: its shortest prefix with a country, or else the last override
with its spelling. -/
def locationReference (b : Builder) (value : String) : Resolution :=
  if value.length < 5 then ⟨.unknown, .glnUnresolved⟩
  else
    let byPrefix := [3, 4, 5].findSome? fun digits =>
      placed? (b.rulesFor digits) value.toList digits
    let byOverride := (lastUnder? value (Scheme.corrections ++ b.overrides)).map fun country =>
      ⟨country, .customOverride⟩
    (byPrefix.or byOverride).getD ⟨.unknown, .glnUnresolved⟩

/-- The answer for a scheme and a value: the schemes of location numbers go by the value, and any
other scheme by its last entry. -/
def reference (b : Builder) (scheme value : String) : Resolution :=
  if Text.upper scheme ∈ ["EAN", "GLN", "0088"] then b.locationReference value
  else
    let byScheme := (lastUnder? scheme (Scheme.registered ++ ("", .unknown) :: b.schemes)).map
      fun country => ⟨country, .scheme (Text.upper scheme)⟩
    byScheme.getD ⟨.unknown, .schemeDefault⟩

theorem isMarker_iff {scheme : String} :
    isMarker scheme = true ↔ Text.upper scheme ∈ ["EAN", "GLN", "0088"] :=
  List.contains_iff_mem

/-- The values of a marker are location numbers. -/
theorem reference_of_isMarker (b : Builder) {marker : String} (h : isMarker marker = true)
    (value : String) : b.reference marker value = b.locationReference value := by
  rw [reference, if_pos (isMarker_iff.1 h)]

/-! ## The tables of all entries -/

theorem schemes_layered (b : Builder) :
    b.layered.schemes = Scheme.Table.builtin.insertAll b.schemes := by
  have hentries := Scheme.Table.entries_insertAll Scheme.Table.builtin b.schemes
  rw [layered, (foldl_withRule_keeps _ _).1]
  exact congrArg Scheme.Table.mk hentries.symm

theorem entries_schemes_layered (b : Builder) :
    b.layered.schemes.entries =
      CaselessTable.empty.insertAll (Scheme.registered ++ ("", .unknown) :: b.schemes) := by
  rw [schemes_layered, Scheme.Table.entries_builtin_insertAll, Scheme.Table.preset,
    ← List.append_cons, Scheme.Table.defaultKey]

theorem overrides_layered (b : Builder) :
    b.layered.overrides = CaselessTable.empty.insertAll (Scheme.corrections ++ b.overrides) := by
  rw [layered, (foldl_withRule_keeps _ _).2, CaselessTable.insertAll_append]
  rfl

theorem get?_schemes_layered (b : Builder) (scheme : String) :
    b.layered.schemes.get? scheme =
      lastUnder? scheme (Scheme.registered ++ ("", .unknown) :: b.schemes) := by
  rw [Scheme.Table.get?, entries_schemes_layered, CaselessTable.get?_empty_insertAll]

theorem get?_overrides_layered (b : Builder) (value : String) :
    b.layered.overrides.get? value = lastUnder? value (Scheme.corrections ++ b.overrides) := by
  rw [overrides_layered, CaselessTable.get?_empty_insertAll]

/-- The default for schemes that are not listed stays no country, since it cannot be replaced. -/
theorem default_schemes_layered {b : Builder} (hb : b.Admissible) :
    b.layered.schemes.default = .unknown := by
  rw [schemes_layered, Scheme.Table.default_insertAll _ hb.schemes, Scheme.Table.default_builtin]

theorem placeByPrefix_layered {b : Builder} (hb : b.Admissible) (value : List Char) :
    placeByPrefix value [b.layered.three, b.layered.four, b.layered.five] =
      [3, 4, 5].findSome? fun digits => placed? (b.rulesFor digits) value digits := by
  have htables : [b.layered.three, b.layered.four, b.layered.five] =
      [3, 4, 5].map fun digits => Gln.Table.ofRules digits (b.rulesFor digits) := by
    have h₃ : b.layered.table? 3 = _ := table?_layered b (by omega)
    have h₄ : b.layered.table? 4 = _ := table?_layered b (by omega)
    have h₅ : b.layered.table? 5 = _ := table?_layered b (by omega)
    simp only [table?, Option.some.injEq] at h₃ h₄ h₅
    rw [h₃, h₄, h₅]
    rfl
  rw [htables]
  have hlengths : ∀ n ∈ [3, 4, 5], 3 ≤ n ∧ n ≤ 5 := by decide
  exact placeByPrefix_eq_findSome? b.rulesFor value (by decide) (by decide)
    fun n hn => hb.tables n (hlengths n hn)

theorem explainGln_layered {b : Builder} (hb : b.Admissible) (value : String) :
    b.layered.explainGln value = b.locationReference value := by
  unfold explainGln locationReference
  rw [String.length_toList, shortestValue, placeByPrefix_layered hb, get?_overrides_layered]
  by_cases hlength : value.length < 5
  · rw [if_pos hlength, if_pos hlength]
  · rw [if_neg hlength, if_neg hlength]
    cases [3, 4, 5].findSome? fun digits => placed? (b.rulesFor digits) value.toList digits with
    | some resolution => rfl
    | none => cases lastUnder? value (Scheme.corrections ++ b.overrides) <;> rfl

/-- The tables of all entries of a builder answer as the entries do. -/
theorem explain_layered {b : Builder} (hb : b.Admissible) (scheme value : String) :
    b.layered.explain scheme value = b.reference scheme value := by
  by_cases hm : isMarker scheme = true
  · rw [explain, if_pos hm, explainGln_layered hb, reference_of_isMarker b hm]
  · rw [explain, if_neg hm, reference, if_neg (mt isMarker_iff.2 hm), get?_schemes_layered,
      default_schemes_layered hb]
    cases lastUnder? scheme (Scheme.registered ++ ("", .unknown) :: b.schemes) <;> rfl

end EndpointCountry.Resolver.Builder

namespace EndpointCountry.Config.Resolver

/-- A resolver that settings make answers every scheme and value as the built-in lists and the lists
of the settings do. -/
theorem explain_eq_reference {c : Resolver} {r : EndpointCountry.Resolver} (h : c.toResolver = .ok r)
    (scheme value : String) : r.explain scheme value = c.entries.reference scheme value := by
  obtain ⟨⟨-, hadm⟩, rfl⟩ := toResolver_eq_ok_iff.1 h
  exact EndpointCountry.Resolver.Builder.explain_layered hadm scheme value

/-- A run of the settings places a number whose first three digits no rule covers, and an override
counts in every spelling. -/
theorem explain_of_range_and_override :
    ∃ r, toResolver ⟨[⟨"STRASSE", "de"⟩], [⟨"mine", "no"⟩], [⟨4, 5560, 5569, "se"⟩]⟩ = .ok r ∧
      r.explain "gln" "55601" = ⟨.of 'S' 'E', .glnPrefix 4 5560⟩ ∧
      r.explain "0088" "straße" = ⟨.of 'D' 'E', .customOverride⟩ := by
  have hok : (toResolver ⟨[⟨"STRASSE", "de"⟩], [⟨"mine", "no"⟩],
      [⟨4, 5560, 5569, "se"⟩]⟩).isOk = true := by decide +kernel
  cases hr : toResolver ⟨[⟨"STRASSE", "de"⟩], [⟨"mine", "no"⟩], [⟨4, 5560, 5569, "se"⟩]⟩ with
  | error fault =>
    rw [hr] at hok
    cases hok
  | ok r =>
    refine ⟨r, rfl, ?_, ?_⟩
    · rw [explain_eq_reference hr]
      decide +kernel
    · rw [explain_eq_reference hr]
      decide +kernel

end EndpointCountry.Config.Resolver
