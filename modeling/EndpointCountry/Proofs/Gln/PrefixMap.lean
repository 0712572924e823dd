import EndpointCountry.Proofs.Gln.Run
import EndpointCountry.Proofs.Gln.Table

/-!
# Prefix tables, prefix by prefix

A table keeps its rules and answers from their runs. The plain way is a map with one entry for each
prefix, which a rule fills prefix by prefix and which is searched prefix by prefix for another
country. This file shows that nobody can tell a table from such a map.

* `PrefixMap` — the map; `PrefixMap.fill`, `PrefixMap.offer` — a rule put into it, and offered to it.
* `Shows` — a map that has the holders of a table, and no other entries.
* `Shows.offer`, `Shows.offerAll` — one offer and a run of offers to both: the same answers.
* `sameRuns_ofRules` — a table and a map from the same rules on; `sameRuns_empty` and
  `sameRuns_allocated` for no rules and for the built-in ones.
-/

namespace EndpointCountry.Gln

/-! ## Maps of prefixes -/

/-- The prefixes of a rule in ascending order. -/
def Rule.run (r : Rule) : List Nat :=
  List.range' r.first r.width

theorem Rule.mem_run {r : Rule} {p : Nat} : p ∈ r.run ↔ r.Covers p := by
  simp only [run, width, List.mem_range'_1, Covers]
  omega

/-- A country for every prefix of a length that has one. -/
structure PrefixMap where
  digits : Nat
  countries : Std.HashMap Nat Country

namespace PrefixMap

/-- The map without entries. -/
def empty (digits : Nat) : PrefixMap :=
  ⟨digits, ∅⟩

/-- Gives the prefixes of a rule to its country, one after another. -/
def fill (m : PrefixMap) (rule : Rule) : PrefixMap :=
  { m with countries := rule.run.foldl (·.insert · rule.country) m.countries }

/-- The map of trusted rules; where two of them overlap, the later one counts. -/
def ofRules (digits : Nat) (rules : List Rule) : PrefixMap :=
  rules.foldl fill (empty digits)

/-- The first prefix of a rule that another country holds, and that country. -/
def conflict? (m : PrefixMap) (rule : Rule) : Option (Nat × Country) :=
  (rule.run.filterMap fun p => m.countries[p]?.map (p, ·)).find? (·.2 ≠ rule.country)

/-- Offers a rule: the map afterwards, and its answer. -/
def offer (m : PrefixMap) (rule : Rule) : PrefixMap × Except Refusal Unit :=
  if rule.last < rule.first then (m, .error (.reversed rule.first rule.last))
  else if 10 ^ m.digits ≤ rule.last then (m, .error (.tooLarge rule.last))
  else
    match m.conflict? rule with
    | some (p, holder) => (m, .error (.taken p holder rule.country))
    | none => (m.fill rule, .ok ())

/-- Rules offered one after another, whatever becomes of each. -/
def offerAll (m : PrefixMap) : List Rule → PrefixMap × List (Rule × Except Refusal Unit)
  | [] => (m, [])
  | rule :: rest =>
    let (next, answer) := m.offer rule
    let (last, log) := next.offerAll rest
    (last, (rule, answer) :: log)

/-- The country of a prefix; a prefix without an entry has none. -/
def lookup (m : PrefixMap) (p : Nat) : Country :=
  m.countries[p]?.getD .unknown

/-- How many prefixes have an entry. -/
def size (m : PrefixMap) : Nat :=
  m.countries.size

variable {m : PrefixMap} {rule : Rule}

theorem getElem?_foldl_insert (prefixes : List Nat) (c : Country) (countries : Std.HashMap Nat Country)
    (p : Nat) :
    (prefixes.foldl (·.insert · c) countries)[p]? =
      if p ∈ prefixes then some c else countries[p]? := by
  induction prefixes generalizing countries with
  | nil => simp
  | cons q rest ih =>
    rw [List.foldl_cons, ih, Std.HashMap.getElem?_insert]
    grind

theorem getElem?_fill (m : PrefixMap) (rule : Rule) (p : Nat) :
    (m.fill rule).countries[p]? = if rule.Covers p then some rule.country else m.countries[p]? := by
  rw [fill, getElem?_foldl_insert]
  simp only [Rule.mem_run]

/-- The prefixes of a rule that have another country in a map. -/
def disputed (m : PrefixMap) (rule : Rule) : Set Nat :=
  {p | rule.Covers p ∧ ∃ c, m.countries[p]? = some c ∧ c ≠ rule.country}

theorem mem_found {p : Nat} {c : Country} :
    (p, c) ∈ rule.run.filterMap (fun p => m.countries[p]?.map (p, ·)) ↔
      rule.Covers p ∧ m.countries[p]? = some c := by
  simp only [List.mem_filterMap, Rule.mem_run, Option.map_eq_some_iff, Prod.mk.injEq]
  constructor
  · rintro ⟨q, hq, d, hd, rfl, rfl⟩
    exact ⟨hq, hd⟩
  · rintro ⟨hp, hc⟩
    exact ⟨p, hp, c, hc, rfl, rfl⟩

theorem conflict?_eq_none_iff : m.conflict? rule = none ↔ m.disputed rule = ∅ := by
  simp only [conflict?, List.find?_eq_none, Prod.forall, mem_found, Set.eq_empty_iff_forall_notMem,
    disputed, Set.mem_ofPred_eq, not_and, not_exists]
  grind

/-- The search in ascending order finds the smallest prefix in dispute. -/
theorem isLeast_of_conflict? {p : Nat} {c : Country} (h : m.conflict? rule = some (p, c)) :
    IsLeast (m.disputed rule) p ∧ m.countries[p]? = some c := by
  obtain ⟨hne, before, after, hsplit, hbefore⟩ := List.find?_eq_some_iff_append.1 h
  obtain ⟨hp, hc⟩ := mem_found.1 (hsplit ▸ List.mem_append_right before List.mem_cons_self)
  refine ⟨⟨⟨hp, c, hc, by simpa using hne⟩, ?_⟩, hc⟩
  rintro q ⟨hq, d, hd, hdne⟩
  have hascending : (rule.run.filterMap fun p => m.countries[p]?.map (p, ·)).Pairwise
      fun a b => a.1 < b.1 := by
    refine (List.pairwise_lt_range' 1).filterMap _ fun a b hab x hx y hy => ?_
    obtain ⟨_, -, rfl⟩ := Option.map_eq_some_iff.1 hx
    obtain ⟨_, -, rfl⟩ := Option.map_eq_some_iff.1 hy
    exact hab
  have hmem := mem_found.2 ⟨hq, hd⟩
  rw [hsplit, List.mem_append, List.mem_cons] at hmem
  rw [hsplit, List.pairwise_append, List.pairwise_cons] at hascending
  obtain hfirst | heq | hlast := hmem
  · simpa [hdne] using hbefore _ hfirst
  · cases heq
    exact le_rfl
  · exact (hascending.2.1.1 _ hlast).le

end PrefixMap

/-! ## Maps that show a table -/

/-- A map has the holders of the prefixes of a table. -/
structure Shows (t : Table) (m : PrefixMap) : Prop where
  digits : m.digits = t.digits
  holder : ∀ p, m.countries[p]? = t.holder? p

namespace Shows

open Table

variable {t : Table} {m : PrefixMap} {rule : Rule}

theorem empty (digits : Nat) : Shows (.empty digits) (.empty digits) :=
  ⟨rfl, fun p => by simp [PrefixMap.empty, Table.empty, holder?]⟩

/-- A rule that is put into both. -/
theorem fill (h : Shows t m) (rule : Rule) :
    Shows { t with rules := rule :: t.rules } (m.fill rule) := by
  refine ⟨h.digits, fun p => ?_⟩
  rw [PrefixMap.getElem?_fill, holder?_cons, h.holder]

theorem ofRules (digits : Nat) (rules : List Rule) :
    Shows (.ofRules digits rules) (.ofRules digits rules) := by
  induction rules using List.reverseRecOn with
  | nil => exact .empty digits
  | append_singleton rules rule ih =>
    have hnext := ih.fill rule
    rw [PrefixMap.ofRules, List.foldl_append, Table.ofRules, List.reverse_append]
    exact hnext

theorem lookup (h : Shows t m) (p : Nat) : m.lookup p = t.lookup p := by
  rw [PrefixMap.lookup, Table.lookup, h.holder]

theorem disputed (h : Shows t m) (hw : t.Wf) : m.disputed rule = Table.disputed t.rules rule := by
  ext p
  simp only [PrefixMap.disputed, Table.disputed, Set.mem_ofPred_eq, h.holder,
    holder?_eq_some_iff hw]
  grind

theorem size (h : Shows t m) (hw : t.Wf) : m.size = t.size := by
  have hkeys : m.countries.keys.toFinset = prefixesOf t.rules := by
    ext p
    rw [List.mem_toFinset, Std.HashMap.mem_keys, Std.HashMap.mem_iff_isSome_getElem?, h.holder,
      mem_prefixesOf, Option.isSome_iff_exists]
    simp only [holder?_eq_some_iff hw]
    grind
  rw [size_eq_card hw, ← hkeys, List.toFinset_card_of_nodup Std.HashMap.nodup_keys,
    Std.HashMap.length_keys, PrefixMap.size]

/-- One offer to both: the same answer, and the same holders afterwards. -/
theorem offer (h : Shows t m) (hw : t.Wf) (rule : Rule) :
    (m.offer rule).2 = (t.offer rule).2 ∧ Shows (t.offer rule).1 (m.offer rule).1 := by
  unfold PrefixMap.offer
  rw [h.digits]
  obtain ⟨htakes, hoff⟩ | ⟨refusal, hrefuses, hoff⟩ := offer_cases t rule
  · have hnone : m.conflict? rule = none := by
      rw [PrefixMap.conflict?_eq_none_iff, h.disputed hw, Set.eq_empty_iff_forall_notMem]
      rintro p ⟨hp, held, hheld, hcov, hne⟩
      exact hne (forall_not_contradicts_iff.1 htakes.agree p hp held hheld hcov)
    rw [hoff, if_neg (Nat.not_lt.2 htakes.first_le_last), if_neg (Nat.not_le.2 htakes.last_lt),
      hnone]
    exact ⟨rfl, h.fill rule⟩
  · rw [hoff]
    cases hrefuses with
    | reversed hrev =>
      rw [if_pos hrev]
      exact ⟨rfl, h⟩
    | tooLarge hle hbig =>
      rw [if_neg (Nat.not_lt.2 hle), if_pos hbig]
      exact ⟨rfl, h⟩
    | @taken p hle hlt hp =>
      rw [if_neg (Nat.not_lt.2 hle), if_neg (Nat.not_le.2 hlt)]
      cases hconf : m.conflict? rule with
      | none =>
        rw [PrefixMap.conflict?_eq_none_iff, h.disputed hw] at hconf
        exact absurd hp.1 (hconf ▸ Set.notMem_empty p)
      | some found =>
        obtain ⟨q, c⟩ := found
        obtain ⟨hq, hc⟩ := PrefixMap.isLeast_of_conflict? hconf
        rw [h.disputed hw] at hq
        obtain rfl := hq.unique hp
        rw [h.holder] at hc
        have hlookup : t.lookup q = c := by rw [Table.lookup, hc, Option.getD_some]
        rw [hlookup]
        exact ⟨rfl, h⟩

/-- A run of offers to both: the same answers, and the same holders in the end. -/
theorem offerAll (h : Shows t m) (hw : t.Wf) (rules : List Rule) :
    (m.offerAll rules).2 = (t.offerAll rules).2 ∧
      Shows (t.offerAll rules).1 (m.offerAll rules).1 := by
  induction rules generalizing t m with
  | nil => exact ⟨rfl, h⟩
  | cons rule rest ih =>
    obtain ⟨hanswer, hnext⟩ := h.offer hw rule
    obtain ⟨hanswers, hlast⟩ := ih hnext (wf_offer hw rule)
    refine ⟨?_, hlast⟩
    simp only [PrefixMap.offerAll, Table.offerAll, hanswer, hanswers]

end Shows

/-- A table and a map give the same answers to all runs of offers, and place and count the same
prefixes after each. -/
def SameRuns (t : Table) (m : PrefixMap) : Prop :=
  ∀ offers, (m.offerAll offers).2 = (t.offerAll offers).2 ∧
    (∀ p, (m.offerAll offers).1.lookup p = (t.offerAll offers).1.lookup p) ∧
    (m.offerAll offers).1.size = (t.offerAll offers).1.size

/-- Trusted rules that agree make a table and a map with the same runs. -/
theorem sameRuns_ofRules {digits : Nat} {rules : List Rule} (h : (Table.ofRules digits rules).Wf) :
    SameRuns (.ofRules digits rules) (.ofRules digits rules) := by
  intro offers
  obtain ⟨hanswers, hshows⟩ := (Shows.ofRules digits rules).offerAll h offers
  exact ⟨hanswers, hshows.lookup, hshows.size (Table.wf_offerAll h offers)⟩

theorem sameRuns_empty (digits : Nat) : SameRuns (.empty digits) (.empty digits) := by
  have hw : (Table.ofRules digits []).Wf := Table.wf_empty digits
  exact sameRuns_ofRules hw

/-- The built-in tables and their maps have the same runs. -/
theorem sameRuns_allocated {digits : Nat} (h : 3 ≤ digits ∧ digits ≤ 5) :
    SameRuns (.ofRules digits (allocated digits)) (.ofRules digits (allocated digits)) :=
  sameRuns_ofRules (wf_ofRules_allocated h)

end EndpointCountry.Gln
