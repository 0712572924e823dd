import Mathlib
import EndpointCountry.Country

/-!
# Spelling country codes

A text spells a code when it is two ASCII letters, in capitals or not; the text of the code is then
the text in capitals.

* `Spelled`, `exists_parse?_eq_some_iff` — the texts that spell a code.
* `parse?_eq_some_iff`, `text_injective` — the code that is read, known by its text.
* `Std.TransOrd Country`, `Std.LawfulEqOrd Country` — codes are ordered, letter by letter.
-/

namespace EndpointCountry.Country

/-- Two ASCII letters, in capitals or not. -/
def Spelled (s : String) : Prop :=
  ∃ a b, s.toList = [a, b] ∧ a.isAlpha = true ∧ b.isAlpha = true

theorem ofCapitals?_eq_some_iff {a b : Char} {c : Country} :
    ofCapitals? a b = some c ↔ a.isUpper = true ∧ b.isUpper = true ∧ c.letters = [a, b] := by
  unfold ofCapitals?
  split
  · rename_i h
    obtain ⟨first, second, hf, hs⟩ := c
    simp [letters, h.1, h.2, eq_comm]
  · rename_i h
    constructor
    · simp
    · rintro ⟨ha, hb, -⟩
      exact absurd ⟨ha, hb⟩ h

theorem parse?_eq_some_iff {s : String} {c : Country} :
    parse? s = some c ↔ Spelled s ∧ c.text = s.toUpper := by
  have htext : c.text = s.toUpper ↔ c.letters = s.toList.map Char.toUpper := by
    rw [← String.toList_inj, text, String.toList_ofList, String.toUpper, String.toList_map]
  rw [htext]
  unfold parse? Spelled
  split
  · rename_i a b hs
    rw [ofCapitals?_eq_some_iff, Char.isUpper_toUpper_eq_isAlpha, Char.isUpper_toUpper_eq_isAlpha]
    simp [hs, and_assoc]
  · rename_i hs
    constructor
    · simp
    · rintro ⟨⟨a, b, hab, -⟩, -⟩
      exact absurd hab (hs a b)

/-- The texts that spell a code. -/
theorem exists_parse?_eq_some_iff {s : String} : (∃ c, parse? s = some c) ↔ Spelled s := by
  constructor
  · rintro ⟨c, hc⟩
    exact (parse?_eq_some_iff.1 hc).1
  · intro h
    obtain ⟨a, b, hs, ha, hb⟩ := h
    rw [← Char.isUpper_toUpper_eq_isAlpha] at ha hb
    refine ⟨⟨a.toUpper, b.toUpper, ha, hb⟩, ?_⟩
    simp [parse?, hs, ofCapitals?, ha, hb]

theorem text_injective {c d : Country} (h : c.text = d.text) : c = d := by
  obtain ⟨a, b, ha, hb⟩ := c
  obtain ⟨a', b', ha', hb'⟩ := d
  simpa [text, letters, String.ofList_inj] using h

theorem parse_eq_ok_iff {s : String} {c : Country} : parse s = .ok c ↔ parse? s = some c := by
  unfold parse
  split <;> simp_all

/-! ## Order -/

theorem compare_eq (a b : Country) :
    compare a b = (compare a.first b.first).then (compare a.second b.second) := rfl

instance : Std.TransOrd Country :=
  inferInstanceAs (Std.TransCmp (compareLex (compareOn first) (compareOn second)))

instance : Std.LawfulEqOrd Country where
  eq_of_compare {a b} h := by
    obtain ⟨hfirst, hsecond⟩ := Ordering.then_eq_eq.1 (compare_eq a b ▸ h)
    obtain ⟨_, _, _, _⟩ := a
    obtain ⟨_, _, _, _⟩ := b
    obtain rfl := Std.LawfulEqOrd.eq_of_compare hfirst
    obtain rfl := Std.LawfulEqOrd.eq_of_compare hsecond
    rfl

end EndpointCountry.Country
