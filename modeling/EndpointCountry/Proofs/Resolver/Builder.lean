import EndpointCountry.Proofs.Gln.Table
import EndpointCountry.Proofs.Steps
import EndpointCountry.Resolver.Builder

/-!
# What a builder builds

A builder adds its entries one by one and stops at the first that does not fit. This file says
which builders get to the end, by conditions on their entries that do not mention the order, and
which resolver they give then.

* `Resolver.Wf` — the prefix tables are well formed; kept by every rule that is added.
* `rulesFor`, `layered` — the rules of a builder for prefixes of one length, and the resolver with
  all its entries on top of the built-in ones.
* `Admissible`, `build_eq_ok_iff` — the builders that can be built, and what they give.
-/

namespace EndpointCountry.Resolver

/-! ## The prefix tables of a resolver -/

theorem exists_table?_eq_some_iff {r : Resolver} {digits : Nat} :
    (∃ t, r.table? digits = some t) ↔ 3 ≤ digits ∧ digits ≤ 5 := by
  unfold table?
  split <;> grind

theorem table?_withTable {r : Resolver} {t next : Gln.Table} {n : Nat} (h : r.table? n = some t)
    (digits : Nat) :
    (r.withTable next n).table? digits = if digits = n then some next else r.table? digits := by
  unfold table? at h
  split at h
  case h_4 => cases h
  all_goals
    unfold table? withTable
    split <;> grind

/-- Every prefix table of a resolver is well formed and stands at its length. -/
def Wf (r : Resolver) : Prop :=
  ∀ digits t, r.table? digits = some t → t.digits = digits ∧ t.Wf

/-- The resolver with one more rule for prefixes of a length, put in without any check. -/
def withRule (r : Resolver) (entry : Nat × Gln.Rule) : Resolver :=
  match r.table? entry.1 with
  | some t => r.withTable { t with rules := entry.2 :: t.rules } entry.1
  | none => r

theorem table?_withRule (r : Resolver) (entry : Nat × Gln.Rule) (digits : Nat) :
    (r.withRule entry).table? digits =
      if digits = entry.1 then
        (r.table? digits).map fun t => { t with rules := entry.2 :: t.rules }
      else r.table? digits := by
  unfold withRule
  cases h : r.table? entry.1 with
  | none =>
    by_cases hd : digits = entry.1
    · subst hd
      simp [h]
    · simp [hd]
  | some t =>
    rw [table?_withTable h]
    by_cases hd : digits = entry.1
    · subst hd
      simp [h]
    · simp [hd]

/-- The rules among some entries that are for prefixes of a length. -/
def rulesOf (digits : Nat) (entries : List (Nat × Gln.Rule)) : List Gln.Rule :=
  (entries.filter (·.1 = digits)).map (·.2)

theorem table?_foldl_withRule (r : Resolver) (entries : List (Nat × Gln.Rule)) (digits : Nat) :
    (entries.foldl withRule r).table? digits =
      (r.table? digits).map fun t =>
        { t with rules := (rulesOf digits entries).reverse ++ t.rules } := by
  induction entries generalizing r with
  | nil => simp [rulesOf]
  | cons entry rest ih =>
    rw [List.foldl_cons, ih, table?_withRule]
    by_cases hd : digits = entry.1
    · subst hd
      simp [rulesOf, Function.comp_def]
    · simp [rulesOf, hd, Ne.symm hd]

/-! ## Adding rules -/

/-- Adding a rule goes through exactly when there is a table for it and it leaves that table well
formed. -/
theorem addRange_eq_ok_iff {r next : Resolver} (hr : r.Wf) {entry : Nat × Gln.Rule} :
    Builder.addRange r entry = .ok next ↔
      ((3 ≤ entry.1 ∧ entry.1 ≤ 5) ∧ (r.withRule entry).Wf) ∧ next = r.withRule entry := by
  rw [← exists_table?_eq_some_iff (r := r)]
  unfold Builder.addRange
  cases h : r.table? entry.1 with
  | none => simp
  | some t =>
    obtain ⟨hdigits, hw⟩ := hr _ _ h
    have hwith : r.withRule entry = r.withTable { t with rules := entry.2 :: t.rules } entry.1 := by
      rw [withRule, h]
    constructor
    · intro hadd
      obtain ⟨htakes, hoff⟩ | ⟨refusal, -, hoff⟩ := t.offer_cases entry.2
      · simp only [hoff, Except.ok.injEq] at hadd
        refine ⟨⟨⟨t, rfl⟩, ?_⟩, by rw [hwith, hadd]⟩
        intro digits s hs
        rw [hwith, table?_withTable h] at hs
        split at hs
        · rename_i hd
          cases hs
          exact ⟨hdigits.trans hd.symm, (Gln.Table.takes_iff_wf hw).1 htakes⟩
        · exact hr _ _ hs
      · simp [hoff] at hadd
    · rintro ⟨⟨-, hwf⟩, rfl⟩
      have htable : (r.withRule entry).table? entry.1 =
          some { t with rules := entry.2 :: t.rules } := by
        rw [hwith, table?_withTable h, if_pos rfl]
      have htakes := (Gln.Table.takes_iff_wf hw).2 (hwf _ _ htable).2
      simp [Gln.Table.offer_of_takes htakes, hwith]

/-- Adding rules one after another goes through exactly when there are tables for all of them and
the tables with all of them are well formed: whatever stops the work on the way still stands in the
tables at the end. -/
theorem foldlM_addRange_eq_ok_iff {r next : Resolver} (hr : r.Wf)
    {entries : List (Nat × Gln.Rule)} :
    entries.foldlM Builder.addRange r = .ok next ↔
      ((∀ e ∈ entries, 3 ≤ e.1 ∧ e.1 ≤ 5) ∧ (entries.foldl withRule r).Wf) ∧
        next = entries.foldl withRule r := by
  induction entries generalizing r with
  | nil => simp [pure, Except.pure, hr, eq_comm]
  | cons entry rest ih =>
    rw [List.foldlM_cons, bind_eq_ok_iff, List.foldl_cons, List.forall_mem_cons]
    constructor
    · rintro ⟨mid, hmid, hrest⟩
      obtain ⟨⟨hentry, hwf⟩, rfl⟩ := (addRange_eq_ok_iff hr).1 hmid
      obtain ⟨⟨hall, hlast⟩, rfl⟩ := (ih hwf).1 hrest
      exact ⟨⟨⟨hentry, hall⟩, hlast⟩, rfl⟩
    · rintro ⟨⟨⟨hentry, hall⟩, hlast⟩, rfl⟩
      have hwf : (r.withRule entry).Wf := by
        intro digits t ht
        have hfold := table?_foldl_withRule (r.withRule entry) rest digits
        rw [ht, Option.map_some] at hfold
        obtain ⟨hdigits, hw⟩ := hlast _ _ hfold
        exact ⟨hdigits, hw.mono (List.subset_append_right _ _)⟩
      exact ⟨_, (addRange_eq_ok_iff hr).2 ⟨⟨hentry, hwf⟩, rfl⟩, (ih hwf).2 ⟨⟨hall, hlast⟩, rfl⟩⟩

/-- Rules change the prefix tables and nothing else. -/
theorem foldl_withRule_keeps (r : Resolver) (entries : List (Nat × Gln.Rule)) :
    (entries.foldl withRule r).schemes = r.schemes ∧
      (entries.foldl withRule r).overrides = r.overrides := by
  induction entries generalizing r with
  | nil => exact ⟨rfl, rfl⟩
  | cons entry rest ih =>
    rw [List.foldl_cons, (ih _).1, (ih _).2]
    unfold withRule withTable
    grind

/-! ## Adding schemes and overrides -/

section

variable {Refused : String → Prop} [DecidablePred Refused] {field message : String}
  {put : Resolver → String × Country → Resolver} {r next : Resolver}

theorem addEntry_eq_ok_iff {entry : String × Country} :
    Builder.addEntry Refused field message put r entry = .ok next ↔
      ¬ Refused entry.1 ∧ next = put r entry := by
  unfold Builder.addEntry
  split
  · simp_all
  · rename_i h
    rw [Except.ok.injEq]
    exact ⟨fun hnext => ⟨h, hnext.symm⟩, fun hnext => hnext.2.symm⟩

/-- Entries go in one after another exactly when all of them may. -/
theorem foldlM_addEntry_eq_ok_iff {entries : List (String × Country)} :
    entries.foldlM (Builder.addEntry Refused field message put) r = .ok next ↔
      (∀ e ∈ entries, ¬ Refused e.1) ∧ next = entries.foldl put r :=
  foldlM_eq_ok_iff fun _ _ _ => addEntry_eq_ok_iff

theorem foldl_insert_entry (f : CaselessTable → Resolver)
    (h : ∀ t entry, put (f t) entry = f (t.insert entry.1 entry.2)) (t : CaselessTable)
    (entries : List (String × Country)) : entries.foldl put (f t) = f (t.insertAll entries) :=
  List.foldl_hom f h

theorem foldlM_addScheme_eq_ok_iff {entries : List (String × Country)} :
    entries.foldlM Builder.addScheme r = .ok next ↔
      (∀ e ∈ entries, e.1 ≠ "") ∧
        next = { r with schemes := ⟨r.schemes.entries.insertAll entries⟩ } := by
  refine foldlM_addEntry_eq_ok_iff.trans (and_congr_right fun _ => Eq.congr_right ?_)
  exact foldl_insert_entry (fun t => { r with schemes := ⟨t⟩ }) (fun _ _ => rfl) _ _

theorem foldlM_addOverride_eq_ok_iff {entries : List (String × Country)} :
    entries.foldlM Builder.addOverride r = .ok next ↔
      (∀ e ∈ entries, ¬ Text.Blank e.1) ∧
        next = { r with overrides := r.overrides.insertAll entries } := by
  refine foldlM_addEntry_eq_ok_iff.trans (and_congr_right fun _ => Eq.congr_right ?_)
  exact foldl_insert_entry (fun t => { r with overrides := t }) (fun _ _ => rfl) _ _

end

/-! ## All entries on top of the built-in ones -/

theorem table?_builtin {digits : Nat} (h : 3 ≤ digits ∧ digits ≤ 5) :
    builtin.table? digits = some (.ofRules digits (Gln.allocated digits)) := by
  obtain rfl | rfl | rfl : digits = 3 ∨ digits = 4 ∨ digits = 5 := by omega
  all_goals rfl

theorem table?_with (r : Resolver) (schemes : Scheme.Table) (overrides : CaselessTable)
    (digits : Nat) : { r with schemes, overrides }.table? digits = r.table? digits := by
  unfold table?
  split <;> rfl

theorem wf_builtin_with (schemes : Scheme.Table) (overrides : CaselessTable) :
    { builtin with schemes, overrides }.Wf := by
  intro digits t ht
  have hdigits := exists_table?_eq_some_iff.1 ⟨t, ht⟩
  rw [table?_with, table?_builtin hdigits] at ht
  cases ht
  exact ⟨rfl, Gln.wf_ofRules_allocated hdigits⟩

namespace Builder

/-- The rules for prefixes of a length: those that are allocated, then those of the builder. -/
def rulesFor (b : Builder) (digits : Nat) : List Gln.Rule :=
  Gln.allocated digits ++ rulesOf digits b.ranges

/-- The resolver with the entries of a builder on top of the built-in ones, put in without any
check. -/
def layered (b : Builder) : Resolver :=
  b.ranges.foldl withRule
    { builtin with
      schemes := ⟨builtin.schemes.entries.insertAll b.schemes⟩
      overrides := builtin.overrides.insertAll b.overrides }

theorem table?_layered (b : Builder) {digits : Nat} (h : 3 ≤ digits ∧ digits ≤ 5) :
    b.layered.table? digits = some (.ofRules digits (b.rulesFor digits)) := by
  rw [layered, table?_foldl_withRule, table?_with, table?_builtin h, Option.map_some]
  simp only [Gln.Table.ofRules, rulesFor, List.reverse_append]

/-- The builders whose entries fit, by conditions on the entries alone. -/
structure Admissible (b : Builder) : Prop where
  schemes : ∀ e ∈ b.schemes, e.1 ≠ ""
  overrides : ∀ e ∈ b.overrides, ¬ Text.Blank e.1
  digits : ∀ e ∈ b.ranges, 3 ≤ e.1 ∧ e.1 ≤ 5
  tables : ∀ digits, 3 ≤ digits ∧ digits ≤ 5 → (Gln.Table.ofRules digits (b.rulesFor digits)).Wf

/-- Entries that fit leave the prefix tables well formed. -/
theorem Admissible.wf_layered {b : Builder} (hb : b.Admissible) : b.layered.Wf := by
  intro digits t ht
  have hd := exists_table?_eq_some_iff.1 ⟨t, ht⟩
  have hlayered := table?_layered b hd
  rw [ht, Option.some.injEq] at hlayered
  rw [hlayered]
  exact ⟨rfl, hb.tables digits hd⟩

/-- The builders that can be built, and what they give. -/
theorem build_eq_ok_iff {b : Builder} {r : Resolver} :
    b.build = .ok r ↔ b.Admissible ∧ r = b.layered := by
  unfold build
  simp only [bind_eq_ok_iff, foldlM_addScheme_eq_ok_iff, foldlM_addOverride_eq_ok_iff]
  constructor
  · rintro ⟨_, ⟨hschemes, rfl⟩, _, ⟨hoverrides, rfl⟩, hranges⟩
    obtain ⟨⟨hdigits, hwf⟩, rfl⟩ := (foldlM_addRange_eq_ok_iff (wf_builtin_with _ _)).1 hranges
    refine ⟨⟨hschemes, hoverrides, hdigits, fun digits hd => ?_⟩, rfl⟩
    exact (hwf _ _ (table?_layered b hd)).2
  · rintro ⟨hb, rfl⟩
    refine ⟨_, ⟨hb.schemes, rfl⟩, _, ⟨hb.overrides, rfl⟩, ?_⟩
    exact (foldlM_addRange_eq_ok_iff (wf_builtin_with _ _)).2 ⟨⟨hb.digits, hb.wf_layered⟩, rfl⟩

/-! ## Builders that cannot be built -/

/-- Where all lengths are allowed, only a table can refuse a rule. -/
theorem exists_toFault_of_foldlM_addRange {entries : List (Nat × Gln.Rule)}
    (hdigits : ∀ e ∈ entries, 3 ≤ e.1 ∧ e.1 ≤ 5) {r : Resolver} {fault : Fault}
    (h : entries.foldlM addRange r = .error fault) :
    ∃ digits, ∃ refusal : Gln.Refusal, fault = refusal.toFault digits := by
  induction entries generalizing r with
  | nil => cases h
  | cons entry rest ih =>
    obtain ⟨hentry, hrest⟩ := List.forall_mem_cons.1 hdigits
    rw [List.foldlM_cons, bind_eq_error_iff] at h
    rcases h with hadd | ⟨next, -, hnext⟩
    · obtain ⟨t, ht⟩ : ∃ t, r.table? entry.1 = some t := exists_table?_eq_some_iff.2 hentry
      unfold addRange at hadd
      simp only [ht] at hadd
      obtain ⟨-, hoff⟩ | ⟨refusal, -, hoff⟩ := t.offer_cases entry.2
      · rw [hoff] at hadd
        cases hadd
      · rw [hoff] at hadd
        cases hadd
        exact ⟨entry.1, refusal, rfl⟩
    · exact ih hrest hnext

/-- A builder whose schemes, overrides and lengths are allowed fails, if it does, because a table
refuses one of its rules. -/
theorem exists_toFault_of_build {b : Builder} (hschemes : ∀ e ∈ b.schemes, e.1 ≠ "")
    (hoverrides : ∀ e ∈ b.overrides, ¬ Text.Blank e.1)
    (hdigits : ∀ e ∈ b.ranges, 3 ≤ e.1 ∧ e.1 ≤ 5) {fault : Fault} (h : b.build = .error fault) :
    ∃ digits, ∃ refusal : Gln.Refusal, fault = refusal.toFault digits := by
  unfold build at h
  rcases bind_eq_error_iff.1 h with hstop | ⟨_, -, hmore⟩
  · rw [foldlM_addScheme_eq_ok_iff.2 ⟨hschemes, rfl⟩] at hstop
    cases hstop
  rcases bind_eq_error_iff.1 hmore with hstop | ⟨_, -, hrest⟩
  · rw [foldlM_addOverride_eq_ok_iff.2 ⟨hoverrides, rfl⟩] at hstop
    cases hstop
  · exact exists_toFault_of_foldlM_addRange hdigits hrest

end Builder

end EndpointCountry.Resolver
