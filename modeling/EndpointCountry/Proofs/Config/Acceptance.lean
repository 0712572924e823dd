import EndpointCountry.Config.Resolver
import EndpointCountry.Proofs.Country
import EndpointCountry.Proofs.Resolver.Builder

/-!
# Which settings make a resolver

The settings are read entry by entry, and the tables are filled rule by rule, so a mistake stops the
work wherever it is met first. This file shows that the outcome does not depend on any of this: the
settings make a resolver exactly when every entry is in order by itself and no prefix is given to
two countries, whoever gives it first.

* `entries`, `toResolver_eq_ok_iff` — the entries as a builder has them, and the resolver they make.
* `Claims`, `Acceptable` — what is asked of the settings, in words that mention no table.
* `exists_toResolver_eq_ok_iff` — the settings that make a resolver are those.
-/

namespace EndpointCountry.Config

/-! ## Entries with their countries read -/

/-- An override as a builder has it. -/
def OverrideEntry.pair? (e : OverrideEntry) : Option (String × Country) :=
  (Country.parse? e.country).map fun c => (e.value, c)

/-- A scheme as a builder has it. -/
def SchemeEntry.pair? (e : SchemeEntry) : Option (String × Country) :=
  (Country.parse? e.country).map fun c => (e.key, c)

/-- A run of prefixes as a builder has it. -/
def RangeEntry.rule? (e : RangeEntry) : Option (Nat × Gln.Rule) :=
  (Country.parse? e.country).map fun c => (e.digits, ⟨e.first, e.last, c⟩)

/-- Reading the countries of a list of entries goes through exactly when all of them are spelled as
codes. -/
theorem mapM_parse_eq_ok_iff {α β : Type} {country : α → String} {g : α → Country → β}
    {entries : List α} {bs : List β} :
    entries.mapM (fun e => do pure (g e (← Country.parse (country e)))) = .ok bs ↔
      (∀ e ∈ entries, Country.Spelled (country e)) ∧
        bs = entries.filterMap fun e => (Country.parse? (country e)).map (g e) := by
  have hread (e : α) (b : β) : (do pure (g e (← Country.parse (country e))) : Except Fault β) =
      .ok b ↔ (Country.parse? (country e)).map (g e) = some b := by
    rw [bind_eq_ok_iff, Option.map_eq_some_iff]
    simp only [Country.parse_eq_ok_iff, pure, Except.pure, Except.ok.injEq]
  have hspelled (e : α) : (∃ b, (Country.parse? (country e)).map (g e) = some b) ↔
      Country.Spelled (country e) := by
    simp only [Option.map_eq_some_iff, ← Country.exists_parse?_eq_some_iff]
    exact ⟨fun ⟨_, c, hc, _⟩ => ⟨c, hc⟩, fun ⟨c, hc⟩ => ⟨g e c, c, hc, rfl⟩⟩
  rw [mapM_eq_ok_iff hread]
  simp only [hspelled]

namespace Resolver

/-- The entries of the settings as a builder has them. Those whose country is no code are left
out. -/
def entries (c : Resolver) : EndpointCountry.Resolver.Builder where
  schemes := c.schemes.filterMap SchemeEntry.pair?
  overrides := c.overrides.filterMap OverrideEntry.pair?
  ranges := c.ranges.filterMap RangeEntry.rule?

/-- Every country in the settings is spelled as a code. -/
structure CountriesSpelled (c : Resolver) : Prop where
  overrides : ∀ e ∈ c.overrides, Country.Spelled e.country
  schemes : ∀ e ∈ c.schemes, Country.Spelled e.country
  ranges : ∀ e ∈ c.ranges, Country.Spelled e.country

theorem toBuilder_eq_ok_iff {c : Resolver} {b : EndpointCountry.Resolver.Builder} :
    c.toBuilder = .ok b ↔ c.CountriesSpelled ∧ b = c.entries := by
  unfold toBuilder
  simp only [bind_eq_ok_iff]
  constructor
  · rintro ⟨_, hos, _, hss, _, hrs, hpure⟩
    obtain ⟨hoverrides, rfl⟩ := mapM_parse_eq_ok_iff.1 hos
    obtain ⟨hschemes, rfl⟩ := mapM_parse_eq_ok_iff.1 hss
    obtain ⟨hranges, rfl⟩ := mapM_parse_eq_ok_iff.1 hrs
    cases hpure
    exact ⟨⟨hoverrides, hschemes, hranges⟩, rfl⟩
  · rintro ⟨h, rfl⟩
    exact ⟨_, mapM_parse_eq_ok_iff.2 ⟨h.overrides, rfl⟩, _, mapM_parse_eq_ok_iff.2 ⟨h.schemes, rfl⟩,
      _, mapM_parse_eq_ok_iff.2 ⟨h.ranges, rfl⟩, rfl⟩

theorem toResolver_eq_ok_iff {c : Resolver} {r : EndpointCountry.Resolver} :
    c.toResolver = .ok r ↔
      (c.CountriesSpelled ∧ c.entries.Admissible) ∧ r = c.entries.layered := by
  unfold toResolver
  rw [bind_eq_ok_iff]
  constructor
  · rintro ⟨b, hb, hr⟩
    obtain ⟨hspelled, rfl⟩ := toBuilder_eq_ok_iff.1 hb
    obtain ⟨hadm, rfl⟩ := EndpointCountry.Resolver.Builder.build_eq_ok_iff.1 hr
    exact ⟨⟨hspelled, hadm⟩, rfl⟩
  · rintro ⟨⟨hspelled, hadm⟩, rfl⟩
    exact ⟨_, toBuilder_eq_ok_iff.2 ⟨hspelled, rfl⟩,
      EndpointCountry.Resolver.Builder.build_eq_ok_iff.2 ⟨hadm, rfl⟩⟩

/-! ## Entries of the builder and of the settings -/

variable {c : Resolver}

theorem mem_schemes_entries {x : String × Country} :
    x ∈ c.entries.schemes ↔
      ∃ e ∈ c.schemes, ∃ country, Country.parse? e.country = some country ∧ (e.key, country) = x := by
  simp only [entries, List.mem_filterMap, SchemeEntry.pair?, Option.map_eq_some_iff]

theorem mem_overrides_entries {x : String × Country} :
    x ∈ c.entries.overrides ↔
      ∃ e ∈ c.overrides, ∃ country,
        Country.parse? e.country = some country ∧ (e.value, country) = x := by
  simp only [entries, List.mem_filterMap, OverrideEntry.pair?, Option.map_eq_some_iff]

theorem mem_ranges_entries {x : Nat × Gln.Rule} :
    x ∈ c.entries.ranges ↔
      ∃ e ∈ c.ranges, ∃ country,
        Country.parse? e.country = some country ∧ (e.digits, ⟨e.first, e.last, country⟩) = x := by
  simp only [entries, List.mem_filterMap, RangeEntry.rule?, Option.map_eq_some_iff]

/-- The rules of the settings for prefixes of a length, beside the allocated ones. -/
theorem mem_rulesFor_entries {digits : Nat} {r : Gln.Rule} :
    r ∈ c.entries.rulesFor digits ↔ r ∈ Gln.allocated digits ∨
      ∃ e ∈ c.ranges, e.digits = digits ∧
        ∃ country, Country.parse? e.country = some country ∧ ⟨e.first, e.last, country⟩ = r := by
  simp only [EndpointCountry.Resolver.Builder.rulesFor, EndpointCountry.Resolver.rulesOf,
    List.mem_append, List.mem_map, List.mem_filter, mem_ranges_entries, decide_eq_true_eq]
  refine or_congr_right ?_
  constructor
  · rintro ⟨_, ⟨⟨e, he, country, hc, rfl⟩, hd⟩, rfl⟩
    exact ⟨e, he, hd, country, hc, rfl⟩
  · rintro ⟨e, he, hd, country, hc, rfl⟩
    exact ⟨_, ⟨⟨e, he, country, hc, rfl⟩, hd⟩, rfl⟩

/-! ## What is asked of the settings -/

/-- An allocated rule or a run of the settings gives a prefix of some length to the country of a
text. -/
def Claims (c : Resolver) (digits p : Nat) (country : String) : Prop :=
  (∃ r ∈ Gln.allocated digits, r.Covers p ∧ r.country.text = country) ∨
    ∃ e ∈ c.ranges, e.digits = digits ∧ (e.first ≤ p ∧ p ≤ e.last) ∧ e.country.toUpper = country

/-- What is asked of the settings: every entry is in order by itself, and no prefix is given to two
countries. -/
structure Acceptable (c : Resolver) : Prop where
  countries : c.CountriesSpelled
  schemes : ∀ e ∈ c.schemes, e.key ≠ ""
  overrides : ∀ e ∈ c.overrides, ¬ Text.Blank e.value
  ranges : ∀ e ∈ c.ranges,
    (3 ≤ e.digits ∧ e.digits ≤ 5) ∧ e.first ≤ e.last ∧ e.last < 10 ^ e.digits
  agree : ∀ digits p x y, 3 ≤ digits ∧ digits ≤ 5 →
    c.Claims digits p x → c.Claims digits p y → x = y

theorem claims_iff (hc : c.CountriesSpelled) {digits p : Nat} {country : String} :
    c.Claims digits p country ↔
      ∃ r ∈ c.entries.rulesFor digits, r.Covers p ∧ r.country.text = country := by
  simp only [Claims, mem_rulesFor_entries]
  constructor
  · rintro (⟨r, hr, hp, htext⟩ | ⟨e, he, hd, hp, htext⟩)
    · exact ⟨r, .inl hr, hp, htext⟩
    · obtain ⟨code, hcode⟩ := Country.exists_parse?_eq_some_iff.2 (hc.ranges e he)
      have hcodeText := (Country.parse?_eq_some_iff.1 hcode).2
      exact ⟨_, .inr ⟨e, he, hd, code, hcode, rfl⟩, hp, hcodeText.trans htext⟩
  · rintro ⟨r, hr | ⟨e, he, hd, code, hcode, rfl⟩, hp, htext⟩
    · exact .inl ⟨r, hr, hp, htext⟩
    · have hcodeText := (Country.parse?_eq_some_iff.1 hcode).2
      exact .inr ⟨e, he, hd, hp, hcodeText.symm.trans htext⟩

theorem acceptable_of_admissible (hc : c.CountriesSpelled) (h : c.entries.Admissible) :
    c.Acceptable := by
  refine ⟨hc, ?_, ?_, ?_, ?_⟩
  · intro e he
    obtain ⟨code, hcode⟩ := Country.exists_parse?_eq_some_iff.2 (hc.schemes e he)
    exact h.schemes (e.key, code) (mem_schemes_entries.2 ⟨e, he, code, hcode, rfl⟩)
  · intro e he
    obtain ⟨code, hcode⟩ := Country.exists_parse?_eq_some_iff.2 (hc.overrides e he)
    exact h.overrides (e.value, code) (mem_overrides_entries.2 ⟨e, he, code, hcode, rfl⟩)
  · intro e he
    obtain ⟨code, hcode⟩ := Country.exists_parse?_eq_some_iff.2 (hc.ranges e he)
    have hd := h.digits _ (mem_ranges_entries.2 ⟨e, he, code, hcode, rfl⟩)
    have hmem : (⟨e.first, e.last, code⟩ : Gln.Rule) ∈
        (Gln.Table.ofRules e.digits (c.entries.rulesFor e.digits)).rules :=
      List.mem_reverse.2 (mem_rulesFor_entries.2 (.inr ⟨e, he, rfl, code, hcode, rfl⟩))
    have hw := h.tables e.digits hd
    exact ⟨hd, hw.first_le_last _ hmem, hw.last_lt _ hmem⟩
  · intro digits p x y hd hx hy
    obtain ⟨r, hr, hrp, rfl⟩ := (claims_iff hc).1 hx
    obtain ⟨s, hs, hsp, rfl⟩ := (claims_iff hc).1 hy
    have hagree := (h.tables digits hd).agree r (List.mem_reverse.2 hr) s (List.mem_reverse.2 hs)
    rw [hagree p hrp hsp]

theorem admissible_of_acceptable (h : c.Acceptable) : c.entries.Admissible := by
  refine ⟨?_, ?_, ?_, ?_⟩
  · intro x hx
    obtain ⟨e, he, code, -, rfl⟩ := mem_schemes_entries.1 hx
    exact h.schemes e he
  · intro x hx
    obtain ⟨e, he, code, -, rfl⟩ := mem_overrides_entries.1 hx
    exact h.overrides e he
  · intro x hx
    obtain ⟨e, he, code, -, rfl⟩ := mem_ranges_entries.1 hx
    exact (h.ranges e he).1
  · intro digits hd
    have hfits : ∀ r ∈ c.entries.rulesFor digits, r.first ≤ r.last ∧ r.last < 10 ^ digits := by
      intro r hr
      rcases mem_rulesFor_entries.1 hr with hr | ⟨e, he, rfl, code, -, rfl⟩
      · exact Gln.fits_allocated hd r hr
      · exact (h.ranges e he).2
    refine ⟨fun r hr => (hfits r (List.mem_reverse.1 hr)).1,
      fun r hr => (hfits r (List.mem_reverse.1 hr)).2, ?_⟩
    intro r hr s hs p hrp hsp
    have hx := (claims_iff h.countries).2 ⟨r, List.mem_reverse.1 hr, hrp, rfl⟩
    have hy := (claims_iff h.countries).2 ⟨s, List.mem_reverse.1 hs, hsp, rfl⟩
    exact Country.text_injective (h.agree digits p _ _ hd hx hy)

/-- The settings make a resolver exactly when every country in them is two ASCII letters, no scheme
is empty, no override is blank, every run of prefixes fits its length, and no prefix of a length is
given to two countries by the allocated rules and the runs of that length. -/
theorem exists_toResolver_eq_ok_iff (c : Resolver) : (∃ r, c.toResolver = .ok r) ↔ c.Acceptable := by
  constructor
  · rintro ⟨r, hr⟩
    obtain ⟨⟨hspelled, hadm⟩, -⟩ := toResolver_eq_ok_iff.1 hr
    exact acceptable_of_admissible hspelled hadm
  · intro h
    exact ⟨_, toResolver_eq_ok_iff.2 ⟨⟨h.countries, admissible_of_acceptable h⟩, rfl⟩⟩

end Resolver

end EndpointCountry.Config
