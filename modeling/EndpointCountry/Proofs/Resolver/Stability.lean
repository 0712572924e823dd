import EndpointCountry.Proofs.Config.Reference
import EndpointCountry.Proofs.Resolver.Calls

/-!
# What entries of a builder cannot change

A rule for short prefixes is asked before one for longer prefixes, so an added rule might take a
value away from a rule that placed it so far. It never takes one from the allocated rules: those of
three digits are asked first and cannot be contradicted, and those of four and five digits only
place values that start with so many zeros that no shorter prefix tells anything.

* `prefixNumber?_eq_none_of_lt` — a prefix with zeros in front tells nothing when it is cut short.
* `findSome?_placed?_rulesFor` — a value that the allocated rules place stays where it is.
* `country_locationReference_ne_unknown_iff` — which values get a country at all, so that more rules
  give a country to more values.
* `WithMoreRanges`, `explain_of_more_entries` — both, for the builders that lists of calls fill.
-/

namespace EndpointCountry.Resolver

/-! ## Zeros in front -/

/-- Cutting digits off the end of a prefix divides its number, and what is left of a small number is
zero. -/
theorem prefixNumber?_eq_none_of_lt {value : List Char} {m n number : Nat} (hmn : m ≤ n)
    (hn : n ≤ value.length) (h : prefixNumber? value n = some number)
    (hlt : number < 10 ^ (n - m)) : prefixNumber? value m = none := by
  have hsplit : value.take n = value.take m ++ (value.take n).drop m := by
    have htake : value.take m = (value.take n).take m := by
      rw [List.take_take, Nat.min_eq_left hmn]
    rw [htake, List.take_append_drop]
  have hlength : ((value.take n).drop m).length = n - m := by
    rw [List.length_drop, List.length_take, Nat.min_eq_left hn]
  have hnumber : Nat.ofDigitChars 10 (value.take n) 0 = number := by
    simp only [prefixNumber?, Option.ite_none_right_eq_some, Option.some.injEq] at h
    exact h.2
  have hsum : 10 ^ (n - m) * Nat.ofDigitChars 10 (value.take m) 0 ≤ number := by
    have happend : Nat.ofDigitChars 10 ((value.take n).drop m)
        (Nat.ofDigitChars 10 (value.take m) 0) = _ := Nat.ofDigitChars_eq_ofDigitChars_zero
    rw [hlength, ← Nat.ofDigitChars_append, ← hsplit, hnumber] at happend
    omega
  have hzero : Nat.ofDigitChars 10 (value.take m) 0 = 0 := by
    by_contra hne
    have hle : 10 ^ (n - m) ≤ 10 ^ (n - m) * Nat.ofDigitChars 10 (value.take m) 0 :=
      Nat.le_mul_of_pos_right _ (Nat.pos_of_ne_zero hne)
    omega
  unfold prefixNumber?
  rw [if_neg]
  rintro ⟨-, hne⟩
  exact hne hzero

/-! ## The answer of one length -/

theorem placed?_eq_some_iff {rules : List Gln.Rule} {value : List Char} {digits : Nat}
    {resolution : Resolution} :
    placed? rules value digits = some resolution ↔
      ∃ number, prefixNumber? value digits = some number ∧
        ∃ r, rules.find? (fun r => r.Covers number ∧ r.country ≠ .unknown) = some r ∧
          ⟨r.country, .glnPrefix digits number⟩ = resolution := by
  simp only [placed?, Option.bind_eq_some_iff, Option.map_eq_some_iff]

theorem covers_of_find? {rules : List Gln.Rule} {number : Nat} {r : Gln.Rule}
    (h : rules.find? (fun r => r.Covers number ∧ r.country ≠ .unknown) = some r) :
    r.Covers number ∧ r.country ≠ .unknown := by
  have hfound := List.find?_some h
  simpa using hfound

/-- Rules that are asked later do not change an answer. -/
theorem placed?_append {rules : List Gln.Rule} {value : List Char} {digits : Nat}
    {resolution : Resolution} (h : placed? rules value digits = some resolution)
    (more : List Gln.Rule) : placed? (rules ++ more) value digits = some resolution := by
  obtain ⟨number, hnumber, r, hr, rfl⟩ := placed?_eq_some_iff.1 h
  refine placed?_eq_some_iff.2 ⟨number, hnumber, r, ?_, rfl⟩
  rw [List.find?_append, hr, Option.some_or]

/-- An answer names a country. -/
theorem country_ne_unknown_of_placed? {rules : List Gln.Rule} {value : List Char} {digits : Nat}
    {resolution : Resolution} (h : placed? rules value digits = some resolution) :
    resolution.country ≠ .unknown := by
  obtain ⟨number, -, r, hr, rfl⟩ := placed?_eq_some_iff.1 h
  exact (covers_of_find? hr).2

/-- More rules answer for more values, though not always with the same country. -/
theorem exists_placed?_of_subset {rules more : List Gln.Rule} (hsub : rules ⊆ more)
    {value : List Char} {digits : Nat}
    (h : ∃ resolution, placed? rules value digits = some resolution) :
    ∃ resolution, placed? more value digits = some resolution := by
  obtain ⟨_, hplaced⟩ := h
  obtain ⟨number, hnumber, r, hr, -⟩ := placed?_eq_some_iff.1 hplaced
  have hsome : (more.find? fun r => r.Covers number ∧ r.country ≠ .unknown).isSome = true := by
    rw [List.find?_isSome]
    exact ⟨r, hsub (List.mem_of_find?_eq_some hr), decide_eq_true (covers_of_find? hr)⟩
  obtain ⟨s, hs⟩ := Option.isSome_iff_exists.1 hsome
  exact ⟨_, placed?_eq_some_iff.2 ⟨number, hnumber, s, hs, rfl⟩⟩

/-! ## The allocated rules -/

/-- The allocated prefixes of more than three digits have only zeros in front of their last
digit. -/
theorem last_lt_ten_of_mem_allocated {digits : Nat} (h : digits = 4 ∨ digits = 5) :
    ∀ r ∈ Gln.allocated digits, r.last < 10 := by
  obtain rfl | rfl := h
  all_goals decide

/-- A value that the allocated rules of some length place has no shorter prefix that tells
anything. -/
theorem prefixNumber?_eq_none_of_placed?_allocated {value : List Char} {m n : Nat}
    (hm : m ∈ [3, 4, 5]) (hn : n ∈ [3, 4, 5]) (hmn : m < n) (hlength : 5 ≤ value.length)
    {resolution : Resolution} (h : placed? (Gln.allocated n) value n = some resolution) :
    prefixNumber? value m = none := by
  have hbounds : 3 ≤ m ∧ n ≤ 5 := by
    simp only [List.mem_cons, List.not_mem_nil, or_false] at hm hn
    omega
  obtain ⟨number, hnumber, r, hr, -⟩ := placed?_eq_some_iff.1 h
  have hcovers : r.Covers number := (covers_of_find? hr).1
  have hlast : r.last < 10 :=
    last_lt_ten_of_mem_allocated (by omega) r (List.mem_of_find?_eq_some hr)
  have hten : 10 ^ 1 ≤ 10 ^ (n - m) := Nat.pow_le_pow_right (by omega) (by omega)
  have hle : number ≤ r.last := hcovers.2
  exact prefixNumber?_eq_none_of_lt hmn.le (by omega) hnumber (by omega)

namespace Builder

/-- No rule of a builder moves a value that the allocated rules place. -/
theorem findSome?_placed?_rulesFor (b : Builder) {value : List Char} (hlength : 5 ≤ value.length)
    {resolution : Resolution}
    (h : ([3, 4, 5].findSome? fun digits => placed? (Gln.allocated digits) value digits) =
      some resolution) :
    ([3, 4, 5].findSome? fun digits => placed? (b.rulesFor digits) value digits) =
      some resolution := by
  obtain ⟨shorter, n, longer, hlengths, hn, -⟩ := List.findSome?_eq_some_iff.1 h
  refine List.findSome?_eq_some_iff.2 ⟨shorter, n, longer, hlengths, placed?_append hn _, ?_⟩
  intro m hm
  have hsorted : (shorter ++ n :: longer).Pairwise (· < ·) := by
    rw [← hlengths]
    decide
  have hmn : m < n := (List.pairwise_append.1 hsorted).2.2 m hm n List.mem_cons_self
  have hmem : ∀ k ∈ shorter ++ n :: longer, k ∈ [3, 4, 5] := fun k hk => hlengths ▸ hk
  have hnone := prefixNumber?_eq_none_of_placed?_allocated (hmem m (List.mem_append_left _ hm))
    (hmem n (List.mem_append_right _ List.mem_cons_self)) hmn hlength hn
  rw [placed?, hnone, Option.bind_none]

/-! ## Location numbers with a country -/

/-- A location number gets a country exactly when it is long enough and the rules of some length or
an override give it one. Which length answers first does not matter here. -/
theorem country_locationReference_ne_unknown_iff (b : Builder) (value : String) :
    (b.locationReference value).country ≠ .unknown ↔
      5 ≤ value.length ∧
        ((∃ digits ∈ [3, 4, 5], ∃ resolution,
            placed? (b.rulesFor digits) value.toList digits = some resolution) ∨
          ∃ country, CaselessTable.lastUnder? value (Scheme.corrections ++ b.overrides) =
            some country ∧ country ≠ .unknown) := by
  unfold locationReference
  by_cases hlength : value.length < 5
  · simp [hlength, Nat.not_le.2 hlength]
  · rw [if_neg hlength]
    simp only [Nat.le_of_not_lt hlength, true_and]
    cases h : [3, 4, 5].findSome? fun digits =>
        placed? (b.rulesFor digits) value.toList digits with
    | some resolution =>
      obtain ⟨digits, hdigits, hplaced⟩ := List.exists_of_findSome?_eq_some h
      rw [Option.some_or, Option.getD_some]
      exact ⟨fun _ => .inl ⟨digits, hdigits, resolution, hplaced⟩,
        fun _ => country_ne_unknown_of_placed? hplaced⟩
    | none =>
      have hnone : ¬ ∃ digits ∈ [3, 4, 5], ∃ resolution,
          placed? (b.rulesFor digits) value.toList digits = some resolution := by
        rintro ⟨digits, hdigits, resolution, hplaced⟩
        have := List.findSome?_eq_none_iff.1 h digits hdigits
        rw [hplaced] at this
        cases this
      rw [Option.none_or, or_iff_right hnone]
      cases hover : CaselessTable.lastUnder? value (Scheme.corrections ++ b.overrides) with
      | none => simp
      | some country => simp

/-- With more rules every location number that had a country still has one. -/
theorem country_locationReference_ne_unknown_of_subset {b c : Builder}
    (hoverrides : b.overrides = c.overrides) (hranges : b.ranges ⊆ c.ranges) {value : String}
    (h : (b.locationReference value).country ≠ .unknown) :
    (c.locationReference value).country ≠ .unknown := by
  have hrules (digits : Nat) : b.rulesFor digits ⊆ c.rulesFor digits := by
    have hof : rulesOf digits b.ranges ⊆ rulesOf digits c.ranges :=
      List.map_subset _ (List.filter_subset _ hranges)
    exact List.append_subset.2
      ⟨List.subset_append_left _ _, List.subset_append_of_subset_right _ hof⟩
  rw [country_locationReference_ne_unknown_iff] at h ⊢
  obtain ⟨hlength, ⟨digits, hdigits, hplaced⟩ | hover⟩ := h
  · exact ⟨hlength, .inl ⟨digits, hdigits, exists_placed?_of_subset (hrules digits) hplaced⟩⟩
  · exact ⟨hlength, .inr (hoverrides ▸ hover)⟩

/-! ## The built-in resolver -/

theorem layered_empty : empty.layered = builtin := by
  -- said of any resolver, so that the built-in tables are not unfolded
  have hnothing (r : Resolver) :
      { r with
        schemes := ⟨r.schemes.entries.insertAll []⟩
        overrides := r.overrides.insertAll [] } = r := rfl
  exact hnothing builtin

theorem admissible_empty : empty.Admissible := by
  refine ⟨nofun, nofun, nofun, fun digits hdigits => ?_⟩
  have hrules : empty.rulesFor digits = Gln.allocated digits := List.append_nil _
  rw [hrules]
  exact Gln.wf_ofRules_allocated hdigits

/-- A builder agrees with the built-in tables on every location number that the prefixes of these
place. -/
theorem reference_of_builtin_glnPrefix (b : Builder) {marker value : String}
    (hmarker : isMarker marker = true) {digits number : Nat}
    (h : (builtin.explain marker value).source = .glnPrefix digits number) :
    b.reference marker value = builtin.explain marker value := by
  rw [← layered_empty, explain_layered admissible_empty] at h ⊢
  simp only [reference_of_isMarker _ hmarker] at h ⊢
  unfold locationReference at h ⊢
  by_cases hlength : value.length < 5
  · rw [if_pos hlength] at h
    cases h
  · rw [if_neg hlength] at h ⊢
    rw [if_neg hlength]
    have hrules : empty.rulesFor = Gln.allocated := by
      funext k
      exact List.append_nil _
    simp only [hrules] at h ⊢
    cases hplaced : [3, 4, 5].findSome? fun digits =>
        placed? (Gln.allocated digits) value.toList digits with
    | some resolution =>
      have hlist : 5 ≤ value.toList.length := by
        rw [String.length_toList]
        omega
      rw [findSome?_placed?_rulesFor b hlist hplaced]
      rfl
    | none =>
      -- Without a prefix only an override answers, and that is another source.
      rw [hplaced, Option.none_or] at h
      cases hover : CaselessTable.lastUnder? value (Scheme.corrections ++ empty.overrides) with
      | none =>
        rw [hover] at h
        cases h
      | some country =>
        rw [hover] at h
        cases h

/-! ## More calls -/

/-- The second list of calls adds more rules than the first and is the same otherwise. -/
inductive WithMoreRanges : List Call → List Call → Prop
  | nil : WithMoreRanges [] []
  | same (c : Call) {xs ys : List Call} : WithMoreRanges xs ys → WithMoreRanges (c :: xs) (c :: ys)
  | more (digits : Nat) (rule : Gln.Rule) {xs ys : List Call} :
    WithMoreRanges xs ys → WithMoreRanges xs (.range digits rule :: ys)

theorem WithMoreRanges.entries {xs ys : List Call} (h : WithMoreRanges xs ys) :
    (ofCalls xs).schemes = (ofCalls ys).schemes ∧ (ofCalls xs).overrides = (ofCalls ys).overrides ∧
      (ofCalls xs).ranges ⊆ (ofCalls ys).ranges := by
  simp only [ofCalls_eq]
  induction h with
  | nil => simp
  | same c _ ih =>
    obtain ⟨hschemes, hoverrides, hranges⟩ := ih
    cases c with
    | scheme key country =>
      simp [Call.scheme?, Call.override?, Call.range?, List.filterMap_cons, *]
    | override value country =>
      simp [Call.scheme?, Call.override?, Call.range?, List.filterMap_cons, *]
    | range digits rule =>
      simp [Call.scheme?, Call.override?, Call.range?, List.filterMap_cons, *]
  | more digits rule _ ih =>
    obtain ⟨hschemes, hoverrides, hranges⟩ := ih
    simp [Call.scheme?, Call.override?, Call.range?, List.filterMap_cons, *]

/-- Entries of a builder never move a location number that the built-in prefix tables place: it
keeps its country and the prefix that gives it. And with more rules beside the same schemes and
overrides, every value that had a country still has one. -/
theorem explain_of_more_entries {calls : List Call} {r : Resolver}
    (h : (ofCalls calls).build = .ok r) :
    (∀ marker value digits number, isMarker marker = true →
      (builtin.explain marker value).source = .glnPrefix digits number →
        r.explain marker value = builtin.explain marker value) ∧
    ∀ more r', WithMoreRanges calls more → (ofCalls more).build = .ok r' →
      ∀ scheme value, r.resolve scheme value ≠ .unknown → r'.resolve scheme value ≠ .unknown := by
  obtain ⟨hadm, rfl⟩ := build_eq_ok_iff.1 h
  constructor
  · intro marker value digits number hmarker hsource
    rw [explain_layered hadm]
    exact reference_of_builtin_glnPrefix _ hmarker hsource
  · intro more r' hmore hbuild scheme value
    obtain ⟨hadm', rfl⟩ := build_eq_ok_iff.1 hbuild
    obtain ⟨hschemes, hoverrides, hranges⟩ := hmore.entries
    unfold resolve
    rw [explain_layered hadm, explain_layered hadm']
    unfold reference
    by_cases hmem : Text.upper scheme ∈ ["EAN", "GLN", "0088"]
    · rw [if_pos hmem, if_pos hmem]
      exact country_locationReference_ne_unknown_of_subset hoverrides hranges
    · rw [if_neg hmem, if_neg hmem, hschemes]
      exact id

/-- Rules for the prefixes of zeros do not take a value from the prefix of five digits that places
it, and an override still counts beside more rules. -/
theorem explain_of_zeros_in_front :
    let calls : List Call :=
      [.override "abc-1" (.of 'N' 'O'), .range 3 ⟨0, 0, .of 'S' 'E'⟩, .range 4 ⟨0, 0, .of 'S' 'E'⟩]
    let more : List Call := .range 4 ⟨5560, 5569, .of 'S' 'E'⟩ :: calls
    ∃ r r', (ofCalls calls).build = .ok r ∧ (ofCalls more).build = .ok r' ∧
      r.explain "gln" "0000512345678" = ⟨.of 'U' 'S', .glnPrefix 5 5⟩ ∧
      r'.resolve "gln" "ABC-1" ≠ .unknown := by
  intro calls more
  obtain ⟨r, hr⟩ : ∃ r, (ofCalls calls).build = .ok r := exists_eq_ok_of_isOk (by decide +kernel)
  obtain ⟨r', hr'⟩ : ∃ r, (ofCalls more).build = .ok r := exists_eq_ok_of_isOk (by decide +kernel)
  obtain ⟨hplaced, hmore⟩ := explain_of_more_entries hr
  have hbuiltin : builtin.explain "gln" "0000512345678" = ⟨.of 'U' 'S', .glnPrefix 5 5⟩ := by
    decide +kernel
  have hoverride : r.resolve "gln" "ABC-1" ≠ .unknown := by
    obtain ⟨hadm, rfl⟩ := build_eq_ok_iff.1 hr
    rw [resolve, explain_layered hadm]
    decide +kernel
  have hcalls : WithMoreRanges calls calls := .same _ (.same _ (.same _ .nil))
  refine ⟨r, r', hr, hr', ?_, hmore more r' (.more _ _ hcalls) hr' _ _ hoverride⟩
  rw [hplaced "gln" "0000512345678" 5 5 (by decide +kernel) (by rw [hbuiltin]), hbuiltin]

end Builder

end EndpointCountry.Resolver
