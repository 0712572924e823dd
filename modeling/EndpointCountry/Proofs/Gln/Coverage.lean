import Mathlib
import EndpointCountry.Gln.Table

/-!
# Counting covered prefixes

A table counts its prefixes by intervals: every rule adds the parts of its run that the older rules
leave over. This file shows that the count is the number of distinct prefixes.

* `Rule.prefixes`, `prefixesOf` — the prefixes of one rule and of a list of rules, as finite sets.
* `prefixesOf_uncovered`, `pairwise_uncovered` — what is left of a rule beside other rules, and that
  the parts that are left have no prefix in common.
* `coverage_eq_card` — the count, for rules that do not end before they start.
-/

namespace EndpointCountry.Gln

/-! ## Prefixes as finite sets -/

namespace Rule

/-- The prefixes that a rule covers. -/
def prefixes (r : Rule) : Finset Nat := Finset.Icc r.first r.last

@[simp] theorem mem_prefixes {r : Rule} {p : Nat} : p ∈ r.prefixes ↔ r.Covers p := by
  simp [prefixes, Covers]

theorem card_prefixes (r : Rule) : r.prefixes.card = r.width := by
  simp [prefixes, width]

/-- Cutting a rule out of a single run leaves two runs that do not meet. -/
theorem pairwise_without {r s : Rule} (hs : s.first ≤ s.last) :
    (r.without s).Pairwise fun a b => Disjoint a.prefixes b.prefixes := by
  unfold without
  split
  · simp
  · by_cases h₁ : r.first < s.first <;> by_cases h₂ : s.last < r.last <;> simp [h₁, h₂]
    rw [Finset.disjoint_left]
    intro p hp hq
    simp only [mem_prefixes, Covers] at hp hq
    omega

theorem prefixes_subset_of_mem_without {r s part : Rule} (h : part ∈ r.without s) :
    part.prefixes ⊆ r.prefixes := by
  intro p hp
  rw [mem_prefixes] at hp ⊢
  exact (covers_without.1 ⟨part, h, hp⟩).1

end Rule

/-- The prefixes that some rule of a list covers. -/
def prefixesOf (rules : List Rule) : Finset Nat :=
  rules.foldr (fun r ps => r.prefixes ∪ ps) ∅

@[simp] theorem prefixesOf_nil : prefixesOf [] = ∅ := rfl

@[simp] theorem prefixesOf_cons (r : Rule) (rules : List Rule) :
    prefixesOf (r :: rules) = r.prefixes ∪ prefixesOf rules := rfl

@[simp] theorem mem_prefixesOf {rules : List Rule} {p : Nat} :
    p ∈ prefixesOf rules ↔ ∃ r ∈ rules, r.Covers p := by
  induction rules with
  | nil => simp
  | cons r rules ih => simp [ih]

/-- Rules that have no prefix in common cover as many prefixes as they do one by one. -/
theorem totalWidth_eq_card {parts : List Rule}
    (h : parts.Pairwise fun a b => Disjoint a.prefixes b.prefixes) :
    Table.totalWidth parts = (prefixesOf parts).card := by
  induction parts with
  | nil => rfl
  | cons part rest ih =>
    rw [List.pairwise_cons] at h
    have hdisj : Disjoint part.prefixes (prefixesOf rest) := by
      rw [Finset.disjoint_left]
      intro p hp hq
      obtain ⟨other, hmem, hcov⟩ := mem_prefixesOf.1 hq
      exact Finset.disjoint_left.1 (h.1 other hmem) hp (Rule.mem_prefixes.2 hcov)
    rw [Table.totalWidth, ih h.2, prefixesOf_cons, Finset.card_union_of_disjoint hdisj,
      Rule.card_prefixes]

/-! ## Cutting rules out of one another -/

theorem prefixesOf_flatMap_without (parts : List Rule) (held : Rule) :
    prefixesOf (parts.flatMap (·.without held)) = prefixesOf parts \ held.prefixes := by
  ext p
  simp only [mem_prefixesOf, List.mem_flatMap, Finset.mem_sdiff, Rule.mem_prefixes]
  constructor
  · rintro ⟨part, ⟨r, hr, hpart⟩, hcov⟩
    obtain ⟨h₁, h₂⟩ := Rule.covers_without.1 ⟨part, hpart, hcov⟩
    exact ⟨⟨r, hr, h₁⟩, h₂⟩
  · rintro ⟨⟨r, hr, hcov⟩, hheld⟩
    obtain ⟨part, hpart, hp⟩ := Rule.covers_without.2 ⟨hcov, hheld⟩
    exact ⟨part, ⟨r, hr, hpart⟩, hp⟩

theorem pairwise_flatMap_without {parts : List Rule} {held : Rule} (hheld : held.first ≤ held.last)
    (h : parts.Pairwise fun a b => Disjoint a.prefixes b.prefixes) :
    (parts.flatMap (·.without held)).Pairwise fun a b => Disjoint a.prefixes b.prefixes := by
  rw [List.pairwise_flatMap]
  refine ⟨fun r _ => Rule.pairwise_without hheld, h.imp ?_⟩
  intro a b hab x hx y hy
  exact Finset.disjoint_of_subset_left (Rule.prefixes_subset_of_mem_without hx)
    (Finset.disjoint_of_subset_right (Rule.prefixes_subset_of_mem_without hy) hab)

/-- What `uncovered` leaves of some runs. The claim is about a list of runs and not about a single
one, since each rule that is cut out may split every run. -/
theorem foldl_without {rules : List Rule} (hrules : ∀ r ∈ rules, r.first ≤ r.last)
    {parts : List Rule} (h : parts.Pairwise fun a b => Disjoint a.prefixes b.prefixes) :
    let left := rules.foldl (fun parts held => parts.flatMap (·.without held)) parts
    prefixesOf left = prefixesOf parts \ prefixesOf rules ∧
      left.Pairwise fun a b => Disjoint a.prefixes b.prefixes := by
  induction rules generalizing parts with
  | nil => simpa using h
  | cons held rest ih =>
    have hheld : held.first ≤ held.last := hrules held (by simp)
    have hrest : ∀ r ∈ rest, r.first ≤ r.last := fun r hr => hrules r (by simp [hr])
    obtain ⟨hset, hpair⟩ := ih hrest (pairwise_flatMap_without hheld h)
    refine ⟨?_, hpair⟩
    rw [List.foldl_cons, hset, prefixesOf_flatMap_without, prefixesOf_cons, sdiff_sdiff_left]
    rfl

theorem prefixesOf_uncovered {rules : List Rule} (h : ∀ r ∈ rules, r.first ≤ r.last) (rule : Rule) :
    prefixesOf (Table.uncovered rules rule) = rule.prefixes \ prefixesOf rules := by
  simpa [Table.uncovered] using (foldl_without h (List.pairwise_singleton _ rule)).1

theorem pairwise_uncovered {rules : List Rule} (h : ∀ r ∈ rules, r.first ≤ r.last) (rule : Rule) :
    (Table.uncovered rules rule).Pairwise fun a b => Disjoint a.prefixes b.prefixes :=
  (foldl_without h (List.pairwise_singleton _ rule)).2

/-- The count of a list of rules is the number of prefixes that some rule of it covers. -/
theorem coverage_eq_card {rules : List Rule} (h : ∀ r ∈ rules, r.first ≤ r.last) :
    Table.coverage rules = (prefixesOf rules).card := by
  induction rules with
  | nil => rfl
  | cons rule rest ih =>
    have hrest : ∀ r ∈ rest, r.first ≤ r.last := fun r hr => h r (by simp [hr])
    rw [Table.coverage, totalWidth_eq_card (pairwise_uncovered hrest rule),
      prefixesOf_uncovered hrest, ih hrest, prefixesOf_cons,
      ← Finset.card_union_of_disjoint Finset.sdiff_disjoint, Finset.sdiff_union_self_eq_union]

end EndpointCountry.Gln
