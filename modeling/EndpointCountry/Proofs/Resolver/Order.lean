import EndpointCountry.Proofs.Config.Reference
import EndpointCountry.Proofs.Resolver.Calls

/-!
# The order of entries

A builder puts its entries in one by one: a rule is checked against the rules that are there
already, and a scheme or an override replaces what stands under its key. All the same the order
counts only between entries for the same key. Conflicts between rules are symmetric, so it does not
matter which of two rules comes first, and rules that do not conflict agree.

* `Rearranged` — builders with the same entries in an order that may differ; they can be built
  together or not at all, and give the same answers and the same counts.
* `Reordering` — lists of calls that differ in their order, though not between calls for one key.
* `Alike`, `alike_of_reordering` — resolvers that nobody can tell apart, and that such lists of
  calls build them.
-/

namespace EndpointCountry

/-! ## Rules in another order -/

namespace Gln.Table

variable {s t : Table}

/-- Well-formed tables of the same rules, in whatever order, give the same look-ups. -/
theorem lookup_congr (hs : s.Wf) (ht : t.Wf) (h : ∀ r, r ∈ s.rules ↔ r ∈ t.rules) (p : Nat) :
    s.lookup p = t.lookup p := by
  have hholder : s.holder? p = t.holder? p := by
    ext c
    simp only [holder?_eq_some_iff hs, holder?_eq_some_iff ht, h]
  rw [lookup, hholder, lookup]

end Gln.Table

namespace Resolver

theorem placed?_congr {digits : Nat} {rules others : List Gln.Rule}
    (hw : (Gln.Table.ofRules digits rules).Wf) (hw' : (Gln.Table.ofRules digits others).Wf)
    (h : ∀ r, r ∈ rules ↔ r ∈ others) (value : List Char) :
    placed? rules value digits = placed? others value digits := by
  cases hnumber : prefixNumber? value digits with
  | none => simp only [placed?, hnumber, Option.bind_none]
  | some number =>
    have hmem : ∀ r, r ∈ (Gln.Table.ofRules digits rules).rules ↔
        r ∈ (Gln.Table.ofRules digits others).rules := by
      simpa [Gln.Table.ofRules] using h
    rw [placed?_eq hw hnumber, placed?_eq hw' hnumber, Gln.Table.lookup_congr hw hw' hmem]

/-- Two resolvers that give the same answers and the same counts. -/
structure Alike (r s : Resolver) : Prop where
  explain : ∀ scheme value, r.explain scheme value = s.explain scheme value
  schemeCount : r.schemeCount = s.schemeCount
  overrideCount : r.overrideCount = s.overrideCount
  prefixCount : ∀ digits, r.prefixCount digits = s.prefixCount digits

namespace Builder

open CaselessTable (lastUnder?)

/-! ## The counts, read off the entries -/

theorem schemeCount_layered (b : Builder) :
    b.layered.schemeCount =
      ((Scheme.registered ++ ("", .unknown) :: b.schemes).map fun e =>
        Text.upper e.1).toFinset.card := by
  rw [schemeCount, Scheme.Table.size, entries_schemes_layered, CaselessTable.size_empty_insertAll]

theorem overrideCount_layered (b : Builder) :
    b.layered.overrideCount =
      ((Scheme.corrections ++ b.overrides).map fun e => Text.upper e.1).toFinset.card := by
  rw [overrideCount, overrides_layered, CaselessTable.size_empty_insertAll]

theorem prefixCount_layered {b : Builder} (hb : b.Admissible) (digits : Nat) :
    b.layered.prefixCount digits =
      if 3 ≤ digits ∧ digits ≤ 5 then (Gln.prefixesOf (b.rulesFor digits)).card else 0 := by
  unfold prefixCount
  split
  · rename_i t ht
    have hdigits := exists_table?_eq_some_iff.1 ⟨t, ht⟩
    rw [table?_layered b hdigits, Option.some.injEq] at ht
    have hset : Gln.prefixesOf (b.rulesFor digits).reverse =
        Gln.prefixesOf (b.rulesFor digits) := by
      ext p
      simp
    rw [if_pos hdigits, ← ht, Gln.Table.size_eq_card (hb.tables digits hdigits)]
    exact congrArg Finset.card hset
  · rename_i ht
    rw [if_neg]
    intro hdigits
    rw [table?_layered b hdigits] at ht
    cases ht

/-! ## Builders with the same entries -/

/-- The entries under all spellings of a key, in their order. -/
def entriesUnder (key : String) (entries : List (String × Country)) : List (String × Country) :=
  entries.filter fun e => Text.upper key = Text.upper e.1

theorem lastUnder?_congr {key : String} {xs ys : List (String × Country)}
    (h : entriesUnder key xs = entriesUnder key ys) : lastUnder? key xs = lastUnder? key ys :=
  congrArg (fun entries => entries.getLast?.map (·.2)) h

/-- Two builders have the same entries, and for each key the same one comes last. -/
structure Rearranged (b c : Builder) : Prop where
  schemes : b.schemes.Perm c.schemes
  overrides : b.overrides.Perm c.overrides
  ranges : b.ranges.Perm c.ranges
  lastScheme : ∀ key, lastUnder? key b.schemes = lastUnder? key c.schemes
  lastOverride : ∀ value, lastUnder? value b.overrides = lastUnder? value c.overrides

namespace Rearranged

variable {b c : Builder}

theorem symm (h : Rearranged b c) : Rearranged c b :=
  ⟨h.schemes.symm, h.overrides.symm, h.ranges.symm, fun key => (h.lastScheme key).symm,
    fun value => (h.lastOverride value).symm⟩

theorem mem_rulesFor (h : Rearranged b c) (digits : Nat) (r : Gln.Rule) :
    r ∈ b.rulesFor digits ↔ r ∈ c.rulesFor digits := by
  have hrules : (rulesOf digits b.ranges).Perm (rulesOf digits c.ranges) :=
    (h.ranges.filter _).map _
  exact (hrules.append_left (Gln.allocated digits)).mem_iff

/-- Whether entries fit does not depend on their order. -/
theorem admissible (h : Rearranged b c) (hb : b.Admissible) : c.Admissible := by
  refine ⟨?_, ?_, ?_, ?_⟩
  · intro e he
    exact hb.schemes e (h.schemes.mem_iff.2 he)
  · intro e he
    exact hb.overrides e (h.overrides.mem_iff.2 he)
  · intro e he
    exact hb.digits e (h.ranges.mem_iff.2 he)
  · intro digits hdigits
    refine (hb.tables digits hdigits).mono ?_
    intro r hr
    exact List.mem_reverse.2 ((h.mem_rulesFor digits r).2 (List.mem_reverse.1 hr))

theorem reference (h : Rearranged b c) (hb : b.Admissible) (scheme value : String) :
    b.reference scheme value = c.reference scheme value := by
  have hplaced :
      ([3, 4, 5].findSome? fun digits => placed? (b.rulesFor digits) value.toList digits) =
        [3, 4, 5].findSome? fun digits => placed? (c.rulesFor digits) value.toList digits := by
    have hlengths : ∀ digits ∈ [3, 4, 5], placed? (b.rulesFor digits) value.toList digits =
        placed? (c.rulesFor digits) value.toList digits := by
      intro digits hmem
      have hdigits : 3 ≤ digits ∧ digits ≤ 5 := by
        simp only [List.mem_cons, List.not_mem_nil, or_false] at hmem
        omega
      exact placed?_congr (hb.tables digits hdigits) ((h.admissible hb).tables digits hdigits)
        (h.mem_rulesFor digits) _
    simp only [List.findSome?_cons, List.findSome?_nil, hlengths 3 (by decide),
      hlengths 4 (by decide), hlengths 5 (by decide)]
  unfold Builder.reference locationReference
  rw [hplaced, List.append_cons _ _ b.schemes, List.append_cons _ _ c.schemes]
  simp only [CaselessTable.lastUnder?_append, h.lastScheme, h.lastOverride]

/-- Builders with the same entries can be built together, and their resolvers are alike. -/
theorem alike (h : Rearranged b c) (hb : b.Admissible) : Alike b.layered c.layered := by
  have hc := h.admissible hb
  refine ⟨?_, ?_, ?_, ?_⟩
  · intro scheme value
    rw [explain_layered hb, explain_layered hc, h.reference hb]
  · have hperm := (h.schemes.cons ("", Country.unknown)).append_left Scheme.registered
    rw [schemeCount_layered, schemeCount_layered,
      List.toFinset_eq_of_perm _ _ (hperm.map fun e => Text.upper e.1)]
  · have hperm := h.overrides.append_left Scheme.corrections
    rw [overrideCount_layered, overrideCount_layered,
      List.toFinset_eq_of_perm _ _ (hperm.map fun e => Text.upper e.1)]
  · intro digits
    have hset : Gln.prefixesOf (b.rulesFor digits) = Gln.prefixesOf (c.rulesFor digits) := by
      ext p
      simp only [Gln.mem_prefixesOf, h.mem_rulesFor digits]
    rw [prefixCount_layered hb, prefixCount_layered hc, hset]

end Rearranged

/-! ## Calls in another order -/

/-- The same calls in another order. Schemes that are spellings of one key stay in their order, and
so do values that are spellings of one value; all other calls may change places, those that add
rules among them. -/
structure Reordering (xs ys : List Call) : Prop where
  perm : xs.Perm ys
  schemes : ∀ key, entriesUnder key (xs.filterMap Call.scheme?) =
    entriesUnder key (ys.filterMap Call.scheme?)
  overrides : ∀ value, entriesUnder value (xs.filterMap Call.override?) =
    entriesUnder value (ys.filterMap Call.override?)

theorem Reordering.rearranged {xs ys : List Call} (h : Reordering xs ys) :
    Rearranged (ofCalls xs) (ofCalls ys) := by
  rw [ofCalls_eq, ofCalls_eq]
  exact ⟨h.perm.filterMap _, h.perm.filterMap _, h.perm.filterMap _,
    fun key => lastUnder?_congr (h.schemes key), fun value => lastUnder?_congr (h.overrides value)⟩

/-- Reordered calls succeed together, and the resolvers that they build are alike. -/
theorem alike_of_reordering {xs ys : List Call} (h : Reordering xs ys) :
    ((∃ r, (ofCalls xs).build = .ok r) ↔ ∃ s, (ofCalls ys).build = .ok s) ∧
      ∀ r s, (ofCalls xs).build = .ok r → (ofCalls ys).build = .ok s → Alike r s := by
  have hr := h.rearranged
  simp only [build_eq_ok_iff]
  constructor
  · constructor
    · rintro ⟨_, hadm, -⟩
      exact ⟨_, hr.admissible hadm, rfl⟩
    · rintro ⟨_, hadm, -⟩
      exact ⟨_, hr.symm.admissible hadm, rfl⟩
  · rintro r s ⟨hadm, rfl⟩ ⟨-, rfl⟩
    exact hr.alike hadm

/-- Overlapping rules of one country change places with each other and with a scheme; the two
spellings of the scheme keep their order. -/
theorem alike_of_overlapping_rules :
    let early : Call := .range 4 ⟨5560, 5569, .of 'S' 'E'⟩
    let late : Call := .range 4 ⟨5565, 5579, .of 'S' 'E'⟩
    let rest : List Call := [.scheme "mine" (.of 'N' 'O'), late, .scheme "MINE" (.of 'D' 'K')]
    ∃ r s, (ofCalls (early :: rest)).build = .ok r ∧ (ofCalls (rest ++ [early])).build = .ok s ∧
      Alike r s := by
  intro early late rest
  have hreordering : Reordering (early :: rest) (rest ++ [early]) :=
    ⟨(List.perm_append_singleton early rest).symm, fun _ => rfl, fun _ => rfl⟩
  obtain ⟨hbuilt, halike⟩ := alike_of_reordering hreordering
  obtain ⟨r, hr⟩ : ∃ r, (ofCalls (early :: rest)).build = .ok r :=
    exists_eq_ok_of_isOk (by decide +kernel)
  obtain ⟨s, hs⟩ := hbuilt.1 ⟨r, hr⟩
  exact ⟨r, s, hr, hs, halike r s hr hs⟩

end Builder

end Resolver

end EndpointCountry
