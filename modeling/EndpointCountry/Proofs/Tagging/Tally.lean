import EndpointCountry.Proofs.Country
import EndpointCountry.Tagging.Summary

/-!
# Counting countries

A tally is a map from countries to counts, kept as a list in the order of the codes. The order is
what makes it a map: counting one more country finds its entry, if there is one, before any greater
code, and puts a new entry there otherwise.

* `Ordered`, `ordered_countOne` — no country has two entries.
* `lookup_countOne`, `sum_countOne` — counting one more.
* `lookup_tally`, `sum_tally` — a tally has the countries that occur, as often as they do.
-/

namespace EndpointCountry.Tagging

/-- Counts in the order of the codes, with one entry for a country. -/
def Ordered (counts : List (Country × Nat)) : Prop :=
  counts.Pairwise fun p q => compare p.1 q.1 = .lt

/-- Counting one more brings in no other country. -/
theorem fst_of_mem_countOne {country : Country} {counts : List (Country × Nat)}
    {p : Country × Nat} (h : p ∈ countOne country counts) :
    p.1 = country ∨ ∃ q ∈ counts, p.1 = q.1 := by
  induction counts with
  | nil => simp_all [countOne]
  | cons q rest ih =>
    obtain ⟨c, n⟩ := q
    rw [countOne] at h
    split at h
    · rcases List.mem_cons.1 h with rfl | h
      · exact .inl rfl
      · exact .inr ⟨p, h, rfl⟩
    · rcases List.mem_cons.1 h with rfl | h
      · exact .inr ⟨(c, n), List.mem_cons_self .., rfl⟩
      · exact .inr ⟨p, List.mem_cons_of_mem _ h, rfl⟩
    · rcases List.mem_cons.1 h with rfl | h
      · exact .inr ⟨(c, n), List.mem_cons_self .., rfl⟩
      · rcases ih h with heq | ⟨q, hq, heq⟩
        · exact .inl heq
        · exact .inr ⟨q, List.mem_cons_of_mem _ hq, heq⟩

theorem ordered_countOne (country : Country) {counts : List (Country × Nat)}
    (h : Ordered counts) : Ordered (countOne country counts) := by
  induction counts with
  | nil => exact List.pairwise_singleton ..
  | cons p rest ih =>
    obtain ⟨c, n⟩ := p
    obtain ⟨hhead, hrest⟩ := List.pairwise_cons.1 h
    rw [countOne]
    split
    · rename_i hlt
      refine List.pairwise_cons.2 ⟨fun q hq => ?_, h⟩
      rcases List.mem_cons.1 hq with rfl | hq
      · exact hlt
      · exact Std.TransCmp.lt_trans hlt (hhead q hq)
    · exact List.pairwise_cons.2 ⟨hhead, hrest⟩
    · rename_i hgt
      refine List.pairwise_cons.2 ⟨fun q hq => ?_, ih hrest⟩
      rcases fst_of_mem_countOne hq with heq | ⟨q', hq', heq⟩
      · rw [heq]
        exact Std.OrientedCmp.gt_iff_lt.1 hgt
      · rw [heq]
        exact hhead q' hq'

theorem lookup_cons_eq_ite (country c : Country) (n : Nat) (counts : List (Country × Nat)) :
    ((c, n) :: counts).lookup country =
      if country = c then some n else counts.lookup country := by
  rw [List.lookup_cons]
  by_cases h : country = c
  · simp [h]
  · have hne : (country == c) = false := by simpa using h
    rw [hne, if_neg h]

/-- A country that stands before all others has no entry. -/
theorem lookup_eq_none {country : Country} {counts : List (Country × Nat)}
    (h : ∀ p ∈ counts, compare country p.1 = .lt) : counts.lookup country = none := by
  rw [List.lookup_eq_none_iff]
  intro p hp
  rw [bne_iff_ne]
  rintro rfl
  have hlt := h p hp
  rw [Std.compare_self] at hlt
  cases hlt

/-- After counting one more the country has one more, and every other has what it had. -/
theorem lookup_countOne {country other : Country} {counts : List (Country × Nat)}
    (h : Ordered counts) :
    (countOne country counts).lookup other =
      if other = country then some (countOf counts country + 1) else counts.lookup other := by
  induction counts with
  | nil => exact lookup_cons_eq_ite other country 1 []
  | cons p rest ih =>
    obtain ⟨c, n⟩ := p
    obtain ⟨hhead, hrest⟩ := List.pairwise_cons.1 h
    rw [countOne]
    split
    · rename_i hlt
      have hnone : ((c, n) :: rest).lookup country = none := by
        refine lookup_eq_none fun q hq => ?_
        rcases List.mem_cons.1 hq with rfl | hq
        · exact hlt
        · exact Std.TransCmp.lt_trans hlt (hhead q hq)
      rw [lookup_cons_eq_ite, countOf, hnone]
      rfl
    · rename_i heq
      obtain rfl := Std.LawfulEqOrd.eq_of_compare heq
      rw [countOf, lookup_cons_eq_ite, lookup_cons_eq_ite, lookup_cons_eq_ite, if_pos rfl]
      by_cases ho : other = country
      · rw [if_pos ho, if_pos ho]
        rfl
      · rw [if_neg ho, if_neg ho, if_neg ho]
    · rename_i hgt
      have hne : country ≠ c := by
        rintro rfl
        rw [Std.compare_self] at hgt
        cases hgt
      rw [countOf, lookup_cons_eq_ite, lookup_cons_eq_ite, lookup_cons_eq_ite, if_neg hne,
        ih hrest]
      by_cases hc : other = c
      · rw [if_pos hc, if_neg fun ho => hne (ho.symm.trans hc), if_pos hc]
      · rw [if_neg hc, if_neg hc]
        rfl

theorem sum_countOne (country : Country) (counts : List (Country × Nat)) :
    ((countOne country counts).map (·.2)).sum = (counts.map (·.2)).sum + 1 := by
  induction counts with
  | nil => rfl
  | cons p rest ih =>
    obtain ⟨c, n⟩ := p
    rw [countOne]
    split
    · simp only [List.map_cons, List.sum_cons]
      omega
    · simp only [List.map_cons, List.sum_cons]
      omega
    · simp only [List.map_cons, List.sum_cons, ih]
      omega

/-! ## Whole tallies -/

theorem tally_append_singleton (countries : List Country) (country : Country) :
    tally (countries ++ [country]) = countOne country (tally countries) := by
  rw [tally, List.foldl_append]
  rfl

theorem ordered_tally (countries : List Country) : Ordered (tally countries) := by
  induction countries using List.reverseRecOn with
  | nil => exact List.Pairwise.nil
  | append_singleton countries country ih =>
    rw [tally_append_singleton]
    exact ordered_countOne country ih

/-- The entry of a country is how often it occurs; one that does not occur has no entry. -/
theorem lookup_tally (countries : List Country) (country : Country) :
    (tally countries).lookup country =
      if countries.count country = 0 then none else some (countries.count country) := by
  induction countries using List.reverseRecOn with
  | nil => rfl
  | append_singleton countries last ih =>
    rw [tally_append_singleton, lookup_countOne (ordered_tally countries), List.count_append]
    by_cases h : country = last
    · subst h
      rw [if_pos rfl, countOf, ih]
      by_cases hzero : countries.count country = 0 <;> simp [hzero]
    · have hlast : [last].count country = 0 := List.count_eq_zero.2 (by simpa using h)
      rw [if_neg h, ih, hlast, Nat.add_zero]

theorem countOf_tally (countries : List Country) (country : Country) :
    countOf (tally countries) country = countries.count country := by
  rw [countOf, lookup_tally]
  split
  · rename_i hzero
    rw [hzero]
    rfl
  · rfl

theorem sum_tally (countries : List Country) :
    ((tally countries).map (·.2)).sum = countries.length := by
  induction countries using List.reverseRecOn with
  | nil => rfl
  | append_singleton countries country ih =>
    rw [tally_append_singleton, sum_countOne, ih, List.length_append, List.length_singleton]

end EndpointCountry.Tagging
