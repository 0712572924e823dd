import EndpointCountry.Proofs.Config.Acceptance

/-!
# Checking settings and using them

Settings are checked before they are used, by other conditions than those that their use asks for.
A check looks at every entry by itself and takes no notice of the tables; the use of the settings
fills the tables and lets a scheme be blank, as long as it is not empty. This file says how far the
two agree.

* `Checked`, `check_eq_ok_iff` — the settings that pass their checks.
* `Misfit` — a run of prefixes that the tables refuse although it passes its check.
* `toResolver_eq_error_setting` — settings that pass fail in one way only.
* `check_of_blank_scheme` — settings that make a resolver and do not pass.
* `check_and_toResolver` — the exact difference.
-/

namespace EndpointCountry

namespace Config.Check

theorem notBlank_eq_ok_iff {field value : String} :
    notBlank field value = .ok () ↔ ¬ Text.Blank value := by
  unfold notBlank
  split <;> simp_all

theorem notBlank_eq_error_iff {field value : String} {fault : Fault} :
    notBlank field value = .error fault ↔ Text.Blank value ∧
      fault = .settingValue field value "Value cannot be empty or whitespace-only" := by
  unfold notBlank
  split <;> simp_all [eq_comm]

theorem between_eq_ok_iff {field : String} {value low high : Int} :
    between field value low high = .ok () ↔ low ≤ value ∧ value ≤ high := by
  unfold between
  split
  · simp
    omega
  · simp
    omega

end Config.Check

namespace Config.Resolver

/-! ## The settings that pass their checks -/

theorem checkCountry_eq_ok_iff {field value : String} :
    checkCountry field value = .ok () ↔ Country.Spelled value := by
  rw [← Country.exists_parse?_eq_some_iff]
  unfold checkCountry
  split <;> simp_all

theorem checkOverride_eq_ok_iff {e : OverrideEntry} :
    checkOverride e = .ok () ↔ ¬ Text.Blank e.value ∧ Country.Spelled e.country := by
  unfold checkOverride
  rw [seq_eq_ok_iff, Check.notBlank_eq_ok_iff, checkCountry_eq_ok_iff]

theorem checkScheme_eq_ok_iff {e : SchemeEntry} :
    checkScheme e = .ok () ↔ ¬ Text.Blank e.key ∧ Country.Spelled e.country := by
  unfold checkScheme
  rw [seq_eq_ok_iff, Check.notBlank_eq_ok_iff, checkCountry_eq_ok_iff]

theorem checkRange_eq_ok_iff {e : RangeEntry} :
    checkRange e = .ok () ↔
      (3 ≤ e.digits ∧ e.digits ≤ 5) ∧ e.first ≤ e.last ∧ Country.Spelled e.country := by
  have hdigits : ((3 : Int) ≤ e.digits ∧ (e.digits : Int) ≤ 5) ↔ 3 ≤ e.digits ∧ e.digits ≤ 5 := by
    omega
  unfold checkRange
  rw [seq_eq_ok_iff, Check.between_eq_ok_iff, hdigits]
  refine and_congr_right fun _ => ?_
  by_cases hlt : e.last < e.first
  · rw [if_pos hlt]
    exact iff_of_false nofun fun h => absurd h.1 (Nat.not_le.2 hlt)
  · rw [if_neg hlt]
    simp only [checkCountry_eq_ok_iff, Nat.not_lt.1 hlt, true_and]

/-- What the checks ask of the settings, entry by entry. -/
structure Checked (c : Resolver) : Prop where
  countries : c.CountriesSpelled
  schemes : ∀ e ∈ c.schemes, ¬ Text.Blank e.key
  overrides : ∀ e ∈ c.overrides, ¬ Text.Blank e.value
  ranges : ∀ e ∈ c.ranges, (3 ≤ e.digits ∧ e.digits ≤ 5) ∧ e.first ≤ e.last

variable {c : Resolver}

theorem check_eq_ok_iff : c.check = .ok () ↔ c.Checked := by
  unfold check
  simp only [seq_eq_ok_iff, forM_eq_ok_iff, checkOverride_eq_ok_iff, checkScheme_eq_ok_iff,
    checkRange_eq_ok_iff]
  constructor
  · rintro ⟨hoverrides, hschemes, hranges⟩
    exact ⟨⟨fun e he => (hoverrides e he).2, fun e he => (hschemes e he).2,
      fun e he => (hranges e he).2.2⟩, fun e he => (hschemes e he).1,
      fun e he => (hoverrides e he).1, fun e he => ⟨(hranges e he).1, (hranges e he).2.1⟩⟩
  · intro h
    exact ⟨fun e he => ⟨h.overrides e he, h.countries.overrides e he⟩,
      fun e he => ⟨h.schemes e he, h.countries.schemes e he⟩,
      fun e he => ⟨(h.ranges e he).1, (h.ranges e he).2, h.countries.ranges e he⟩⟩

/-! ## What passing settings may still fail for -/

/-- A run of prefixes that ends beyond the largest prefix of its length, or claims a prefix that an
allocated rule or a run of the settings gives to another country. -/
def Misfit (c : Resolver) (e : RangeEntry) : Prop :=
  10 ^ e.digits ≤ e.last ∨
    ∃ p country, (e.first ≤ p ∧ p ≤ e.last) ∧ c.Claims e.digits p country ∧
      country ≠ e.country.toUpper

/-- Whoever gives a prefix to two countries, one of the claims is made by a run of the settings,
since the allocated rules agree. -/
theorem exists_misfit_of_claims {digits p : Nat} {x y : String} (hd : 3 ≤ digits ∧ digits ≤ 5)
    (hx : c.Claims digits p x) (hy : c.Claims digits p y) (hne : x ≠ y) :
    ∃ e ∈ c.ranges, c.Misfit e := by
  rcases hx with ⟨r, hr, hrp, rfl⟩ | ⟨e, he, rfl, hp, rfl⟩
  · rcases hy with ⟨s, hs, hsp, rfl⟩ | ⟨e, he, rfl, hp, rfl⟩
    · have hagree := (Gln.wf_ofRules_allocated hd).agree r (List.mem_reverse.2 hr) s
        (List.mem_reverse.2 hs) p hrp hsp
      rw [hagree] at hne
      exact absurd rfl hne
    · exact ⟨e, he, .inr ⟨p, _, hp, .inl ⟨r, hr, hrp, rfl⟩, hne⟩⟩
  · exact ⟨e, he, .inr ⟨p, y, hp, hy, hne.symm⟩⟩

/-- Settings that pass their checks make a resolver exactly when none of their runs is a misfit. -/
theorem acceptable_iff_of_checked (h : c.Checked) :
    c.Acceptable ↔ ¬ ∃ e ∈ c.ranges, c.Misfit e := by
  constructor
  · rintro hacc ⟨e, he, hlast | ⟨p, country, hp, hclaims, hne⟩⟩
    · exact absurd (hacc.ranges e he).2.2 (Nat.not_lt.2 hlast)
    · have hown : c.Claims e.digits p e.country.toUpper := .inr ⟨e, he, rfl, hp, rfl⟩
      exact hne (hacc.agree e.digits p _ _ (hacc.ranges e he).1 hclaims hown)
  · intro hnone
    refine ⟨h.countries, ?_, h.overrides, ?_, ?_⟩
    · rintro e he hempty
      apply h.schemes e he
      rw [hempty]
      decide
    · intro e he
      have hlast : e.last < 10 ^ e.digits :=
        Nat.lt_of_not_le fun hle => hnone ⟨e, he, .inl hle⟩
      exact ⟨(h.ranges e he).1, (h.ranges e he).2, hlast⟩
    · intro digits p x y hd hx hy
      by_contra hne
      exact hnone (exists_misfit_of_claims hd hx hy hne)

/-- Settings that pass their checks fail, if they do, because a table refuses one of their runs. -/
theorem toResolver_eq_error_setting (h : c.Checked) {fault : Fault}
    (hfault : c.toResolver = .error fault) : ∃ field message, fault = .setting field message := by
  have hschemes : ∀ x ∈ c.entries.schemes, x.1 ≠ "" := by
    rintro x hx hempty
    obtain ⟨e, he, country, -, rfl⟩ := mem_schemes_entries.1 hx
    apply h.schemes e he
    rw [show e.key = "" from hempty]
    decide
  have hoverrides : ∀ x ∈ c.entries.overrides, ¬ Text.Blank x.1 := by
    intro x hx
    obtain ⟨e, he, country, -, rfl⟩ := mem_overrides_entries.1 hx
    exact h.overrides e he
  have hdigits : ∀ x ∈ c.entries.ranges, 3 ≤ x.1 ∧ x.1 ≤ 5 := by
    intro x hx
    obtain ⟨e, he, country, -, rfl⟩ := mem_ranges_entries.1 hx
    exact (h.ranges e he).1
  have hbuilder : c.toBuilder = .ok c.entries := toBuilder_eq_ok_iff.2 ⟨h.countries, rfl⟩
  unfold toResolver at hfault
  rw [hbuilder] at hfault
  obtain ⟨digits, refusal, rfl⟩ :=
    EndpointCountry.Resolver.Builder.exists_toFault_of_build hschemes hoverrides hdigits hfault
  exact ⟨_, _, rfl⟩

/-! ## What may make a resolver and not pass -/

/-- Settings that make a resolver and have a blank scheme fail their checks for the first such
scheme. -/
theorem check_of_blank_scheme (h : c.Acceptable) (hblank : ∃ e ∈ c.schemes, Text.Blank e.key) :
    ∃ e ∈ c.schemes, Text.Blank e.key ∧
      c.check = .error (.settingValue "resolver.schemes.key" e.key
        "Value cannot be empty or whitespace-only") := by
  have hoverrides : c.overrides.forM checkOverride = .ok () :=
    forM_eq_ok_iff.2 fun e he =>
      checkOverride_eq_ok_iff.2 ⟨h.overrides e he, h.countries.overrides e he⟩
  have hcheck : c.check = (c.schemes.forM checkScheme >>= fun _ => c.ranges.forM checkRange) := by
    unfold check
    rw [hoverrides]
    rfl
  cases hschemes : c.schemes.forM checkScheme with
  | ok u =>
    obtain ⟨e, he, hb⟩ := hblank
    exact absurd hb (checkScheme_eq_ok_iff.1 (forM_eq_ok_iff.1 hschemes e he)).1
  | error fault =>
    obtain ⟨e, he, hfault⟩ := exists_of_forM_eq_error hschemes
    unfold checkScheme at hfault
    rcases bind_eq_error_iff.1 hfault with hkey | ⟨_, -, hcountry⟩
    · obtain ⟨hb, rfl⟩ := Check.notBlank_eq_error_iff.1 hkey
      refine ⟨e, he, hb, ?_⟩
      rw [hcheck, hschemes]
      rfl
    · rw [checkCountry_eq_ok_iff.2 (h.countries.schemes e he)] at hcountry
      cases hcountry

theorem check_of_acceptable (h : c.Acceptable) (hblank : ∀ e ∈ c.schemes, ¬ Text.Blank e.key) :
    c.check = .ok () :=
  check_eq_ok_iff.2
    ⟨h.countries, hblank, h.overrides, fun e he => ⟨(h.ranges e he).1, (h.ranges e he).2.1⟩⟩

/-! ## The difference -/

/-- Settings that pass their checks make a resolver unless one of their runs is a misfit, and then
the fault is one of the configuration and of no single value or argument. Settings that make a
resolver pass their checks unless a scheme is blank and not empty, and then the fault names the key
of such a scheme. -/
theorem check_and_toResolver (c : Resolver) :
    (c.check = .ok () →
      (∀ fault, c.toResolver = .error fault → ∃ field message, fault = .setting field message) ∧
      ((∃ fault, c.toResolver = .error fault) ↔ ∃ e ∈ c.ranges, c.Misfit e)) ∧
    ((∃ r, c.toResolver = .ok r) →
      ((¬ ∃ e ∈ c.schemes, e.key ≠ "" ∧ Text.Blank e.key) → c.check = .ok ()) ∧
      ((∃ e ∈ c.schemes, e.key ≠ "" ∧ Text.Blank e.key) →
        ∃ e ∈ c.schemes, (e.key ≠ "" ∧ Text.Blank e.key) ∧
          c.check = .error (.settingValue "resolver.schemes.key" e.key
            "Value cannot be empty or whitespace-only"))) := by
  constructor
  · intro hcheck
    have hchecked := check_eq_ok_iff.1 hcheck
    refine ⟨fun fault => toResolver_eq_error_setting hchecked, ?_⟩
    have hmisfit := not_iff_not.2 (acceptable_iff_of_checked hchecked)
    rw [not_not, ← exists_toResolver_eq_ok_iff] at hmisfit
    rw [← hmisfit]
    cases c.toResolver <;> simp
  · intro hok
    have hacc := (exists_toResolver_eq_ok_iff c).1 hok
    constructor
    · intro hnone
      exact check_of_acceptable hacc fun e he hb => hnone ⟨e, he, hacc.schemes e he, hb⟩
    · rintro ⟨e, he, -, hb⟩
      obtain ⟨e', he', hb', hfault⟩ := check_of_blank_scheme hacc ⟨e, he, hb⟩
      exact ⟨e', he', ⟨hacc.schemes e' he', hb'⟩, hfault⟩

/-- Two runs that share a prefix pass the checks and make no resolver; a scheme of one blank makes a
resolver and does not pass. -/
theorem check_and_toResolver_differ :
    (∃ field message, toResolver ⟨[], [], [⟨3, 20, 25, "se"⟩, ⟨3, 25, 29, "no"⟩]⟩ =
      .error (.setting field message)) ∧
    check ⟨[], [⟨" ", "se"⟩], []⟩ =
      .error (.settingValue "resolver.schemes.key" " "
        "Value cannot be empty or whitespace-only") := by
  constructor
  · obtain ⟨hfault, hmisfit⟩ :=
      (check_and_toResolver ⟨[], [], [⟨3, 20, 25, "se"⟩, ⟨3, 25, 29, "no"⟩]⟩).1
        (by decide +kernel)
    have hshared : Misfit ⟨[], [], [⟨3, 20, 25, "se"⟩, ⟨3, 25, 29, "no"⟩]⟩ ⟨3, 20, 25, "se"⟩ :=
      .inr ⟨25, "NO", by decide,
        .inr ⟨⟨3, 25, 29, "no"⟩, by simp, rfl, by decide, by decide +kernel⟩, by decide +kernel⟩
    obtain ⟨fault, hf⟩ := hmisfit.2 ⟨_, List.mem_cons_self, hshared⟩
    obtain ⟨field, message, rfl⟩ := hfault fault hf
    exact ⟨field, message, hf⟩
  · obtain ⟨-, hblank⟩ := (check_and_toResolver ⟨[], [⟨" ", "se"⟩], []⟩).2
      (exists_eq_ok_of_isOk (by decide +kernel))
    obtain ⟨e, he, -, hf⟩ := hblank ⟨⟨" ", "se"⟩, List.mem_cons_self, by decide, by decide⟩
    rw [List.mem_singleton.1 he] at hf
    exact hf

end Config.Resolver

end EndpointCountry
