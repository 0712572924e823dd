import Mathlib
import EndpointCountry.Text

/-!
# Decimal digits and the numbers they write

The digits of this library are those of the core library, and so are the numbers they denote. A
number that is written with leading zeros reads back as itself, and a run of digits is what is
written for its number at its length.
-/

namespace EndpointCountry.Text

theorem isDigit_eq (c : Char) : isDigit c = c.isDigit := by
  simp only [isDigit, Char.isDigit, Char.le_def]

theorem digitsValue_eq (cs : List Char) : digitsValue cs = Nat.ofDigitChars 10 cs 0 := rfl

/-- What it takes to be read as a number: at least one character, and digits only. -/
theorem readDigits?_eq_some_iff {cs : List Char} {n : Nat} :
    readDigits? cs = some n ↔
      cs ≠ [] ∧ (∀ c ∈ cs, c.isDigit = true) ∧ Nat.ofDigitChars 10 cs 0 = n := by
  have hall : cs.all isDigit = true ↔ ∀ c ∈ cs, c.isDigit = true := by
    simp [List.all_eq_true, isDigit_eq]
  unfold readDigits?
  split
  · rename_i h
    rw [digitsValue_eq, Option.some.injEq]
    exact ⟨fun hn => ⟨h.1, hall.1 h.2, hn⟩, fun hn => hn.2.2⟩
  · rename_i h
    exact ⟨fun hn => by simp at hn, fun hn => absurd ⟨hn.1, hall.2 hn.2.1⟩ h⟩

theorem length_padded {width n : Nat} (h : n < 10 ^ width) :
    (padded width n).length = max 1 width := by
  have hpos : 0 < (Nat.toDigits 10 n).length := Nat.length_toDigits_pos
  have hle : (Nat.toDigits 10 n).length ≤ max 1 width := by
    rw [Nat.length_toDigits_le_iff (by omega) (by omega)]
    exact Nat.lt_of_lt_of_le h (Nat.pow_le_pow_right (by omega) (by omega))
  simp only [padded, List.length_append, List.length_replicate]
  omega

/-- Leading zeros do not change the number. -/
theorem readDigits?_padded (width n : Nat) : readDigits? (padded width n) = some n := by
  rw [readDigits?_eq_some_iff]
  refine ⟨by simp [padded, Nat.toDigits_ne_nil], ?_, by simp [padded, Nat.ofDigitChars_append]⟩
  intro c hc
  simp only [padded, List.mem_append] at hc
  rcases hc with hc | hc
  · rw [List.eq_of_mem_replicate hc]
    decide
  · exact Nat.isDigit_of_mem_toDigits (by decide) (by decide) hc

theorem toNat_of_isDigit {c : Char} (h : c.isDigit = true) : 48 ≤ c.toNat ∧ c.toNat ≤ 57 := by
  simpa [Char.isDigit, UInt32.le_iff_toNat_le] using h

/-- More digits do not make a number smaller. -/
theorem le_ofDigitChars (cs : List Char) (n : Nat) : n ≤ Nat.ofDigitChars 10 cs n := by
  induction cs generalizing n with
  | nil => exact Nat.le_refl n
  | cons c cs ih =>
    rw [Nat.ofDigitChars_cons]
    exact Nat.le_trans (by omega) (ih _)

/-- A number is smaller than the power of ten with as many zeros as the number has digits. -/
theorem ofDigitChars_lt {cs : List Char} (h : ∀ c ∈ cs, c.isDigit = true) :
    Nat.ofDigitChars 10 cs 0 < 10 ^ cs.length := by
  have hgeneral (cs : List Char) (h : ∀ c ∈ cs, c.isDigit = true) (n : Nat) :
      Nat.ofDigitChars 10 cs n < (n + 1) * 10 ^ cs.length := by
    induction cs generalizing n with
    | nil => simp
    | cons c cs ih =>
      obtain ⟨hc, hcs⟩ := List.forall_mem_cons.1 h
      have hdigit : c.toNat - '0'.toNat < 10 := by
        have hle := (toNat_of_isDigit hc).2
        have hzero : '0'.toNat = 48 := rfl
        omega
      rw [Nat.ofDigitChars_cons]
      calc Nat.ofDigitChars 10 cs (10 * n + (c.toNat - '0'.toNat))
          < (10 * n + (c.toNat - '0'.toNat) + 1) * 10 ^ cs.length := ih hcs _
        _ ≤ ((n + 1) * 10) * 10 ^ cs.length := Nat.mul_le_mul_right _ (by omega)
        _ = (n + 1) * 10 ^ (c :: cs).length := by
          rw [List.length_cons, Nat.pow_succ, Nat.mul_assoc, Nat.mul_comm 10]
  have hlt := hgeneral cs h 0
  rwa [Nat.zero_add, Nat.one_mul] at hlt

/-- Two runs of digits of one length that denote one number are the same. -/
theorem eq_of_ofDigitChars_eq {cs ds : List Char} (hc : ∀ c ∈ cs, c.isDigit = true)
    (hd : ∀ d ∈ ds, d.isDigit = true) (hlength : cs.length = ds.length)
    (h : Nat.ofDigitChars 10 cs 0 = Nat.ofDigitChars 10 ds 0) : cs = ds := by
  -- from the last digit on, which is what is left of the number after division by ten
  induction cs using List.reverseRecOn generalizing ds with
  | nil => exact (List.eq_nil_of_length_eq_zero hlength.symm).symm
  | append_singleton cs c ih =>
    cases ds using List.reverseRecOn with
    | nil => simp at hlength
    | append_singleton ds d =>
      obtain ⟨hcs, hc⟩ := List.forall_mem_append.1 hc
      obtain ⟨hds, hd⟩ := List.forall_mem_append.1 hd
      have hc' := toNat_of_isDigit (hc c (List.mem_singleton_self c))
      have hd' := toNat_of_isDigit (hd d (List.mem_singleton_self d))
      have hzero : '0'.toNat = 48 := rfl
      simp only [Nat.ofDigitChars_append, Nat.ofDigitChars_cons, Nat.ofDigitChars_nil, hzero] at h
      have hfront : Nat.ofDigitChars 10 cs 0 = Nat.ofDigitChars 10 ds 0 := by omega
      have hlast : c = d := Char.toNat_inj.1 (by omega)
      have hlengths : cs.length = ds.length := by simpa using hlength
      rw [ih hcs hds hlengths hfront, hlast]

/-- A run of digits is what is written for its number at its length. -/
theorem padded_of_readDigits? {cs : List Char} {n : Nat} (h : readDigits? cs = some n) :
    padded cs.length n = cs := by
  obtain ⟨hne, hdigits, rfl⟩ := readDigits?_eq_some_iff.1 h
  obtain ⟨-, hpadded, hvalue⟩ :=
    readDigits?_eq_some_iff.1 (readDigits?_padded cs.length (Nat.ofDigitChars 10 cs 0))
  have hpos : 0 < cs.length := List.length_pos_iff.2 hne
  have hlength : (padded cs.length (Nat.ofDigitChars 10 cs 0)).length = cs.length := by
    rw [length_padded (ofDigitChars_lt hdigits)]
    omega
  exact eq_of_ofDigitChars_eq hpadded hdigits hlength hvalue

end EndpointCountry.Text
