import EndpointCountry.Proofs.Resolver.Stability

/-!
# What a prefix certifies

A location number that is placed by a prefix is answered with that prefix, and the answer can be
checked by looking at the number: the prefix is written with its zeros in front, so what is shown is
how the number begins, and every number that begins so has the same answer. The other sources say
what was not found.

* `source_of_findSome?`, `findSome?_placed?_of_take_eq` — the search finds a prefix and looks no
  further than at it.
* `text_glnPrefix` — a prefix is shown as it stands in the value.
* `Answered`, `answered_explain` — the ways in which a location number comes to its answer.
* `Certified`, `certified_of_build` — what each source tells.
-/

namespace EndpointCountry.Resolver

open CaselessTable (lastUnder?)

/-! ## One length -/

theorem prefixNumber?_eq_some_iff {value : List Char} {digits number : Nat} :
    prefixNumber? value digits = some number ↔
      Text.readDigits? (value.take digits) = some number ∧ number ≠ 0 := by
  rw [prefixNumber?_eq, Option.filter_eq_some_iff, decide_eq_true_iff]

/-- The answer of one length looks at the characters up to that length. -/
theorem placed?_eq_of_take_eq {value other : List Char} {digits : Nat}
    (h : other.take digits = value.take digits) (rules : List Gln.Rule) :
    placed? rules other digits = placed? rules value digits := by
  simp only [placed?, prefixNumber?, h]

/-- What one length answers names that length and the number of the prefix. -/
theorem source_of_placed? {rules : List Gln.Rule} {value : List Char} {digits : Nat}
    {resolution : Resolution} (h : placed? rules value digits = some resolution) :
    ∃ number, Text.readDigits? (value.take digits) = some number ∧ number ≠ 0 ∧
      resolution.source = .glnPrefix digits number := by
  obtain ⟨number, hnumber, r, -, rfl⟩ := placed?_eq_some_iff.1 h
  obtain ⟨hread, hne⟩ := prefixNumber?_eq_some_iff.1 hnumber
  exact ⟨number, hread, hne, rfl⟩

/-- Without an answer the table of the rules has no country for the prefix. -/
theorem lookup_of_placed?_eq_none {digits number : Nat} {rules : List Gln.Rule}
    (hw : (Gln.Table.ofRules digits rules).Wf) {value : List Char}
    (h : placed? rules value digits = none)
    (hread : Text.readDigits? (value.take digits) = some number) (hne : number ≠ 0) :
    (Gln.Table.ofRules digits rules).lookup number = .unknown := by
  rw [placed?_eq hw (prefixNumber?_eq_some_iff.2 ⟨hread, hne⟩)] at h
  by_contra hcountry
  rw [if_neg hcountry] at h
  cases h

/-! ## All lengths -/

/-- What the search finds is a prefix of one of the lengths. -/
theorem source_of_findSome? {rules : Nat → List Gln.Rule} {lengths : List Nat}
    {value : List Char} {resolution : Resolution}
    (h : (lengths.findSome? fun n => placed? (rules n) value n) = some resolution) :
    ∃ digits ∈ lengths, ∃ number, placed? (rules digits) value digits = some resolution ∧
      Text.readDigits? (value.take digits) = some number ∧ number ≠ 0 ∧
        resolution.source = .glnPrefix digits number := by
  obtain ⟨digits, hdigits, hplaced⟩ := List.exists_of_findSome?_eq_some h
  obtain ⟨number, hread, hne, hsource⟩ := source_of_placed? hplaced
  exact ⟨digits, hdigits, number, hplaced, hread, hne, hsource⟩

/-- The search through ever longer prefixes finds the same in every value that begins with the
prefix that it finds. -/
theorem findSome?_placed?_of_take_eq {rules : Nat → List Gln.Rule} {lengths : List Nat}
    (hsorted : lengths.Pairwise (· < ·)) {value other : List Char} {resolution : Resolution}
    (h : (lengths.findSome? fun n => placed? (rules n) value n) = some resolution)
    {digits number : Nat} (hsource : resolution.source = .glnPrefix digits number)
    (hsame : other.take digits = value.take digits) :
    (lengths.findSome? fun n => placed? (rules n) other n) = some resolution := by
  obtain ⟨shorter, n, longer, rfl, hn, hnone⟩ := List.findSome?_eq_some_iff.1 h
  obtain ⟨_, -, -, hsource'⟩ := source_of_placed? hn
  rw [hsource] at hsource'
  cases hsource'
  refine List.findSome?_eq_some_iff.2 ⟨shorter, digits, longer, rfl, ?_, ?_⟩
  · rw [placed?_eq_of_take_eq hsame, hn]
  · intro m hm
    have hlt : m < digits := (List.pairwise_append.1 hsorted).2.2 m hm digits List.mem_cons_self
    have hshort : other.take m = value.take m := by
      rw [← Nat.min_eq_left hlt.le, ← List.take_take, hsame, List.take_take]
    rw [placed?_eq_of_take_eq hshort, hnone m hm]

/-! ## What is shown -/

/-- A prefix is shown as it stands in the value, zeros in front included. -/
theorem text_glnPrefix {value : List Char} {digits number : Nat} (hlength : digits ≤ value.length)
    (hread : Text.readDigits? (value.take digits) = some number) :
    (Source.glnPrefix digits number).text =
      s!"{digits}-digit GLN prefix " ++ String.ofList (value.take digits) := by
  have hwidth : (value.take digits).length = digits := by
    rw [List.length_take]
    omega
  have hpadded := Text.padded_of_readDigits? hread
  rw [hwidth] at hpadded
  show _ ++ String.ofList (Text.padded digits number) = _
  rw [hpadded]

namespace Builder

/-! ## The ways to an answer -/

/-- The answers for a location number, each with what leads to it. -/
inductive Answered (b : Builder) (value : String) : Resolution → Prop
  /-- The value is too short to be placed. -/
  | tooShort : value.length < 5 → Answered b value ⟨.unknown, .glnUnresolved⟩
  /-- The shortest prefix with a country gives it. -/
  | byPrefix {resolution : Resolution} : 5 ≤ value.length →
    ([3, 4, 5].findSome? fun digits => placed? (b.rulesFor digits) value.toList digits) =
      some resolution →
    Answered b value resolution
  /-- No prefix has a country, and the value has one of its own. -/
  | byOverride {country : Country} :
    (∀ digits ∈ [3, 4, 5], placed? (b.rulesFor digits) value.toList digits = none) →
    lastUnder? value (Scheme.corrections ++ b.overrides) = some country →
    Answered b value ⟨country, .customOverride⟩
  /-- Nothing places the value. -/
  | nowhere : Answered b value ⟨.unknown, .glnUnresolved⟩

theorem answered_locationReference (b : Builder) (value : String) :
    Answered b value (b.locationReference value) := by
  unfold locationReference
  by_cases hlength : value.length < 5
  · rw [if_pos hlength]
    exact .tooShort hlength
  · rw [if_neg hlength]
    cases hplaced : [3, 4, 5].findSome? fun digits =>
        placed? (b.rulesFor digits) value.toList digits with
    | some resolution => exact .byPrefix (Nat.le_of_not_lt hlength) hplaced
    | none =>
      cases hover : lastUnder? value (Scheme.corrections ++ b.overrides) with
      | some country => exact .byOverride (List.findSome?_eq_none_iff.1 hplaced) hover
      | none => exact .nowhere

section Layered

variable {b : Builder} (hb : b.Admissible) {marker : String} (hmarker : isMarker marker = true)
include hb hmarker

theorem explain_layered_marker (value : String) :
    b.layered.explain marker value = b.locationReference value := by
  rw [explain_layered hb, reference_of_isMarker b hmarker]

/-- The tables of all entries come to their answer in one of these ways. -/
theorem answered_explain (value : String) :
    Answered b value (b.layered.explain marker value) := by
  rw [explain_layered_marker hb hmarker]
  exact answered_locationReference b value

/-- A value that is long enough has the answer that the search through its prefixes finds. -/
theorem explain_of_findSome? {value : String} (hlength : 5 ≤ value.length)
    {resolution : Resolution}
    (h : ([3, 4, 5].findSome? fun digits => placed? (b.rulesFor digits) value.toList digits) =
      some resolution) : b.layered.explain marker value = resolution := by
  rw [explain_layered_marker hb hmarker, locationReference, if_neg (Nat.not_lt.2 hlength), h]
  rfl

end Layered

end Builder

/-! ## What the sources tell -/

/-- What a prefix as a source tells of a location number. -/
structure Certified (r : Resolver) (marker value : String) (digits number : Nat) : Prop where
  digits_bounds : 3 ≤ digits ∧ digits ≤ 5
  number_bounds : 1 ≤ number ∧ number < 10 ^ digits
  country_ne : (r.explain marker value).country ≠ .unknown
  length_le : 5 ≤ value.length
  /-- The prefix is shown as it stands in the value. -/
  text_eq : (r.explain marker value).source.text =
    s!"{digits}-digit GLN prefix " ++ String.ofList (value.toList.take digits)
  /-- What stands behind the prefix does not matter. -/
  explain_eq : ∀ other : String, 5 ≤ other.length →
    other.toList.take digits = value.toList.take digits →
      r.explain marker other = r.explain marker value

namespace Builder

/-- An answer that the search finds certifies its prefix. -/
theorem certified_of_findSome? {b : Builder} (hb : b.Admissible) {marker value : String}
    (hmarker : isMarker marker = true) (hlength : 5 ≤ value.length) {resolution : Resolution}
    (h : ([3, 4, 5].findSome? fun digits => placed? (b.rulesFor digits) value.toList digits) =
      some resolution)
    {digits number : Nat} (hsource : resolution.source = .glnPrefix digits number) :
    b.layered.Certified marker value digits number := by
  have hexplain := explain_of_findSome? hb hmarker hlength h
  obtain ⟨_, hmem, _, hplaced, hread, hne, hsource'⟩ := source_of_findSome? h
  rw [hsource] at hsource'
  cases hsource'
  have hbounds : 3 ≤ digits ∧ digits ≤ 5 := by
    simp only [List.mem_cons, List.not_mem_nil, or_false] at hmem
    omega
  have hlong : digits ≤ value.toList.length := by
    rw [String.length_toList]
    omega
  constructor
  case digits_bounds => exact hbounds
  case number_bounds =>
    obtain ⟨-, hdigits, hvalue⟩ := Text.readDigits?_eq_some_iff.1 hread
    have hlt := Text.ofDigitChars_lt hdigits
    rw [hvalue, List.length_take, Nat.min_eq_left hlong] at hlt
    exact ⟨Nat.one_le_iff_ne_zero.2 hne, hlt⟩
  case country_ne =>
    rw [hexplain]
    exact country_ne_unknown_of_placed? hplaced
  case length_le => exact hlength
  case text_eq =>
    rw [hexplain, hsource]
    exact text_glnPrefix hlong hread
  case explain_eq =>
    intro other hother hsame
    have hfound := findSome?_placed?_of_take_eq (by decide) h hsource hsame
    rw [hexplain]
    exact explain_of_findSome? hb hmarker hother hfound

/-- The source of a location number can be relied on. A prefix is one of three to five digits that
stands in front of the value and is shown as it stands there, it has a country, and all values that
begin with it have that answer; a value that is unresolved has no country; and where an override
answers, no prefix table has a country for the value. -/
theorem certified_of_build {b : Builder} {r : Resolver} (h : b.build = .ok r) {marker : String}
    (hmarker : isMarker marker = true) (value : String) :
    (∀ digits number, (r.explain marker value).source = .glnPrefix digits number →
      r.Certified marker value digits number) ∧
    ((r.explain marker value).source = .glnUnresolved →
      (r.explain marker value).country = .unknown) ∧
    ((r.explain marker value).source = .customOverride →
      ∀ digits table number, r.table? digits = some table →
        Text.readDigits? (value.toList.take digits) = some number → number ≠ 0 →
          table.lookup number = .unknown) := by
  obtain ⟨hb, rfl⟩ := build_eq_ok_iff.1 h
  have hanswered := answered_explain hb hmarker value
  refine ⟨?_, ?_, ?_⟩
  · intro digits number hsource
    generalize b.layered.explain marker value = resolution at hanswered hsource
    cases hanswered with
    | tooShort => cases hsource
    | byPrefix hlength hfound => exact certified_of_findSome? hb hmarker hlength hfound hsource
    | byOverride => cases hsource
    | nowhere => cases hsource
  · intro hsource
    generalize b.layered.explain marker value = resolution at hanswered hsource ⊢
    cases hanswered with
    | tooShort => rfl
    | byPrefix _ hfound =>
      obtain ⟨_, -, _, -, -, -, hfront⟩ := source_of_findSome? hfound
      rw [hfront] at hsource
      cases hsource
    | byOverride => cases hsource
    | nowhere => rfl
  · intro hsource digits table number htable hread hne
    have hbounds := exists_table?_eq_some_iff.1 ⟨table, htable⟩
    rw [table?_layered b hbounds, Option.some.injEq] at htable
    generalize b.layered.explain marker value = resolution at hanswered hsource
    cases hanswered with
    | tooShort => cases hsource
    | byPrefix _ hfound =>
      obtain ⟨_, -, _, -, -, -, hfront⟩ := source_of_findSome? hfound
      rw [hfront] at hsource
      cases hsource
    | byOverride hnone _ =>
      have hmem : digits ∈ [3, 4, 5] := by
        simp only [List.mem_cons, List.not_mem_nil, or_false]
        omega
      rw [← htable]
      exact lookup_of_placed?_eq_none (hb.tables digits hbounds) (hnone digits hmem) hread hne
    | nowhere => cases hsource

/-- Four zeros in front tell nothing, and the fifth digit places the value; the zeros are shown. -/
theorem certified_of_zeros_in_front :
    let b : Builder := empty.range 4 ⟨5560, 5569, .of 'S' 'E'⟩
    ∃ r, b.build = .ok r ∧ isMarker "gln" = true ∧
      (r.explain "gln" "0000512345678").source = .glnPrefix 5 5 ∧
      r.Certified "gln" "0000512345678" 5 5 := by
  intro b
  obtain ⟨r, hr⟩ : ∃ r, b.build = .ok r := exists_eq_ok_of_isOk (by decide +kernel)
  have hmarker : isMarker "gln" = true := by decide +kernel
  have hsource : (r.explain "gln" "0000512345678").source = .glnPrefix 5 5 := by
    obtain ⟨hb, rfl⟩ := build_eq_ok_iff.1 hr
    rw [explain_layered hb]
    decide +kernel
  exact ⟨r, hr, hmarker, hsource, (certified_of_build hr hmarker "0000512345678").1 5 5 hsource⟩

end Builder

end EndpointCountry.Resolver
