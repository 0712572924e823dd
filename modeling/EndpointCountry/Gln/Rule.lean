import EndpointCountry.Country

/-!
# Prefix rules

The first digits of a global location number tell the organisation that issued it. A rule gives a
run of such prefixes, of one length, to a country.
-/

namespace EndpointCountry.Gln

/-- The prefixes from `first` to `last`, both included, belong to `country`. -/
structure Rule where
  first : Nat
  last : Nat
  country : Country
  deriving DecidableEq

namespace Rule

/-- One prefix that belongs to a country. -/
def single (p : Nat) (country : Country) : Rule :=
  ⟨p, p, country⟩

/-- A rule covers the prefixes of its run. -/
def Covers (r : Rule) (p : Nat) : Prop :=
  r.first ≤ p ∧ p ≤ r.last

instance (r : Rule) (p : Nat) : Decidable (r.Covers p) :=
  inferInstanceAs (Decidable (_ ∧ _))

/-- How many prefixes a rule covers. -/
def width (r : Rule) : Nat :=
  r.last + 1 - r.first

/-- The prefixes that two rules cover both, given to the country of the first. -/
def meet (r s : Rule) : Rule :=
  ⟨max r.first s.first, min r.last s.last, r.country⟩

/-- The prefixes of the meet of two rules are those that both of them cover. -/
theorem covers_meet {r s : Rule} {p : Nat} : (r.meet s).Covers p ↔ r.Covers p ∧ s.Covers p := by
  simp only [Covers, meet]
  omega

/-- Two rules contradict each other when they give some prefix to different countries. -/
def Contradicts (r s : Rule) : Prop :=
  (r.meet s).first ≤ (r.meet s).last ∧ r.country ≠ s.country

instance (r s : Rule) : Decidable (r.Contradicts s) :=
  inferInstanceAs (Decidable (_ ∧ _))

/-- Two rules contradict each other exactly when they cover a common prefix for different
countries. -/
theorem contradicts_iff {r s : Rule} :
    r.Contradicts s ↔ (∃ p, r.Covers p ∧ s.Covers p) ∧ r.country ≠ s.country := by
  constructor
  · rintro ⟨h, hc⟩
    exact ⟨⟨_, covers_meet.1 ⟨Nat.le_refl _, h⟩⟩, hc⟩
  · rintro ⟨⟨p, hp⟩, hc⟩
    obtain ⟨h₁, h₂⟩ := covers_meet.2 hp
    exact ⟨Nat.le_trans h₁ h₂, hc⟩

/-- The parts of a rule that another rule does not cover. -/
def without (r s : Rule) : List Rule :=
  if r.last < s.first ∨ s.last < r.first then [r]
  else
    (if r.first < s.first then [⟨r.first, s.first - 1, r.country⟩] else []) ++
      (if s.last < r.last then [⟨s.last + 1, r.last, r.country⟩] else [])

/-- The parts of a rule without another cover exactly what the rule covers and the other does
not. -/
theorem covers_without {r s : Rule} {p : Nat} :
    (∃ part ∈ r.without s, part.Covers p) ↔ r.Covers p ∧ ¬ s.Covers p := by
  unfold without
  split
  · simp only [List.mem_singleton, exists_eq_left, Covers]
    omega
  · simp only [List.mem_append, or_and_right, exists_or]
    by_cases h₁ : r.first < s.first <;> by_cases h₂ : s.last < r.last <;>
      simp [h₁, h₂, Covers] <;> omega

end Rule

end EndpointCountry.Gln
