import EndpointCountry.Proofs.Unicode.Uppercase
import EndpointCountry.Unicode.Lowercase

/-!
# Lower-casing and upper-casing

Upper-casing the lower-case form of a text gives its upper-case form, but for six characters. They
have small forms and are the capital forms of nothing, so their small forms have other capitals than
they are themselves.

* `find?_caseRuns`, `upperChars_smallOf` — a run of letters and their capitals is undone.
* `strays`, `flatMap_upperChars_lowerChars` — the six characters, and all others.
* `toList_upper_lower` — the form of a sigma does not matter.
* `upper_lower` — texts without the six.
-/

namespace EndpointCountry.Text

/-! ## Runs -/

theorem first_le_last {run : CaseRun} (h : run ∈ caseRuns) : run.first ≤ run.last := by
  have hall : (caseRuns.all fun run => Nat.ble run.first run.last) = true := by decide
  exact Nat.le_of_ble_eq_true (List.all_eq_true.1 hall run h)

/-- The runs follow one another without overlap. -/
theorem pairwise_caseRuns : caseRuns.Pairwise fun run next => run.last < next.first := by
  have hchain : caseRuns.IsChain fun run next =>
      run.last < next.first ∧ next.first ≤ next.last := by decide +kernel
  have htrans : IsTrans CaseRun fun run next =>
      run.last < next.first ∧ next.first ≤ next.last :=
    ⟨fun _ _ _ hab hbc => ⟨by omega, hbc.2⟩⟩
  exact (List.isChain_iff_pairwise.1 hchain).imp And.left

/-- A run that covers a code point is the one that is found for it. -/
theorem find?_caseRuns {run : CaseRun} {n : Nat} (hmem : run ∈ caseRuns)
    (hcovers : run.covers n = true) : caseRuns.find? (·.covers n) = some run := by
  obtain ⟨before, after, hsplit⟩ := List.append_of_mem hmem
  have hpairwise := pairwise_caseRuns
  rw [hsplit] at hpairwise ⊢
  refine List.find?_eq_some_iff_append.2 ⟨hcovers, before, after, rfl, fun other hother => ?_⟩
  have hlast : other.last < run.first :=
    (List.pairwise_append.1 hpairwise).2.2 other hother run List.mem_cons_self
  simp only [CaseRun.covers, Bool.and_eq_true, decide_eq_true_eq] at hcovers
  simp only [CaseRun.covers, Bool.not_eq_true', Bool.and_eq_false_iff, decide_eq_false_iff_not]
  omega

/-- The letter below a capital has that capital. -/
theorem CaseRun.covers_smallOf {run : CaseRun} {n : Nat} (hle : run.first ≤ run.last)
    (h : run.coversCapital n = true) :
    run.covers (run.smallOf n) = true ∧ run.capitalOf (run.smallOf n) = n := by
  simp only [CaseRun.coversCapital, Bool.and_eq_true, decide_eq_true_eq, beq_iff_eq] at h
  obtain ⟨⟨hfirst, hlast⟩, hstep⟩ := h
  simp only [CaseRun.covers, CaseRun.smallOf, CaseRun.capitalOf, Nat.add_sub_cancel_left,
    Bool.and_eq_true, beq_iff_eq]
  exact ⟨⟨⟨decide_eq_true (by omega), decide_eq_true (by omega)⟩, hstep⟩, by omega⟩

theorem isValidChar_of_mem_changing {n : Nat} (h : n ∈ changing) : n.isValidChar := by
  have hall : changing.all isCodePoint = true := by decide +kernel
  exact isCodePoint_iff.1 (List.all_eq_true.1 hall n h)

/-- A capital is the upper-case form of the letter below it, and of itself. -/
theorem upperChars_smallOf {run : CaseRun} {c : Char} (hmem : run ∈ caseRuns)
    (h : run.coversCapital c.toNat = true) :
    upperChars (Char.ofNat (run.smallOf c.toNat)) = [c] ∧ upperChars c = [c] := by
  obtain ⟨hcovers, hcapital⟩ := CaseRun.covers_smallOf (first_le_last hmem) h
  have hletter := CaseRun.mem_letters hcovers
  have hchanging : run.smallOf c.toNat ∈ changing :=
    List.mem_append_left _ (List.mem_flatMap.2 ⟨run, hmem, hletter⟩)
  have hcapitals : c.toNat ∈ capitals := by
    refine List.mem_append_left _ (List.mem_flatMap.2 ⟨run, hmem, ?_⟩)
    exact List.mem_map.2 ⟨_, hletter, hcapital⟩
  refine ⟨?_, upperChars_of_notMem (of_mem_capitals hcapitals).2.2⟩
  rw [upperChars, Char.toNat_ofNat, if_pos (isValidChar_of_mem_changing hchanging),
    find?_caseRuns hmem hcovers]
  simp only [hcapital, Char.ofNat_toNat]

/-! ## One character -/

/-- The characters whose small form has another capital form than they have: the capital I with a
dot, the capital theta sign, the capital sharp s, and the signs for ohm, kelvin and angstrom. -/
def strays : List Char :=
  ['\u0130', '\u03F4', '\u1E9E', '\u2126', '\u212A', '\u212B']

/-- The letters below letters that are not their capitals have the capital forms of these, but for
strays. -/
theorem upperChars_of_mem_uncapitalRuns {run : CaseRun} (hrun : run ∈ uncapitalRuns) {n : Nat}
    (hn : n ∈ run.letters) (hstray : Char.ofNat (run.capitalOf n) ∉ strays) :
    upperChars (Char.ofNat n) = upperChars (Char.ofNat (run.capitalOf n)) := by
  have hall : (uncapitalRuns.all fun run => run.letters.all fun n =>
      strays.contains (Char.ofNat (run.capitalOf n)) ||
        upperChars (Char.ofNat n) == upperChars (Char.ofNat (run.capitalOf n))) = true := by
    decide +kernel
  have h := List.all_eq_true.1 (List.all_eq_true.1 hall run hrun) n hn
  rw [Bool.or_eq_true, List.contains_iff_mem, beq_iff_eq] at h
  exact h.resolve_left hstray

/-- The small form of a character has the capital form of the character, unless it is a stray. -/
theorem flatMap_upperChars_lowerChars {c : Char} (hc : c ∉ strays) :
    (lowerChars c).flatMap upperChars = upperChars c := by
  unfold lowerChars
  cases hrun : smallRuns.find? (·.coversCapital c.toNat) with
  | none =>
    have hne : c ≠ '\u0130' := by
      rintro rfl
      exact hc List.mem_cons_self
    simp only [if_neg hne, List.flatMap_singleton]
  | some run =>
    have hcovers : run.coversCapital c.toNat = true :=
      List.find?_some (p := fun r : CaseRun => r.coversCapital c.toNat) hrun
    simp only [List.flatMap_singleton]
    rcases List.mem_append.1 (List.mem_of_find?_eq_some hrun) with hmem | hmem
    · obtain ⟨hsmall, hself⟩ := upperChars_smallOf (List.mem_filter.1 hmem).1 hcovers
      rw [hsmall, hself]
    · have hle : run.first ≤ run.last := by
        have hall : (uncapitalRuns.all fun run => Nat.ble run.first run.last) = true := by
          decide
        exact Nat.le_of_ble_eq_true (List.all_eq_true.1 hall run hmem)
      obtain ⟨hletter, hcapital⟩ := CaseRun.covers_smallOf hle hcovers
      have hback : Char.ofNat (run.capitalOf (run.smallOf c.toNat)) = c := by
        rw [hcapital, Char.ofNat_toNat]
      have hform := upperChars_of_mem_uncapitalRuns hmem (CaseRun.mem_letters hletter)
        (by rwa [hback])
      rw [hform, hback]

/-! ## Texts -/

/-- Both small sigmas have the same capital. -/
theorem upperChars_smallSigma (before after : List Char) :
    upperChars (smallSigma before after) = ['\u03A3'] := by
  unfold smallSigma
  split
  · rfl
  · rfl

theorem flatMap_upperChars_lowerFrom (before cs : List Char) :
    (lowerFrom before cs).flatMap upperChars =
      cs.flatMap fun c => (lowerChars c).flatMap upperChars := by
  induction cs generalizing before with
  | nil => rfl
  | cons c cs ih =>
    rw [lowerFrom, List.flatMap_append, ih, List.flatMap_cons]
    congr 1
    split
    · rename_i hsigma
      have halone : (lowerChars '\u03A3').flatMap upperChars = ['\u03A3'] := rfl
      rw [hsigma, List.flatMap_singleton, upperChars_smallSigma, halone]
    · rfl

/-- The capital form of a lower-case form is found character by character. -/
theorem toList_upper_lower (s : String) :
    (upper (lower s)).toList = s.toList.flatMap fun c => (lowerChars c).flatMap upperChars := by
  rw [toList_upper, lower, String.toList_ofList, flatMap_upperChars_lowerFrom]

/-- Upper-casing the lower-case form of a text gives its upper-case form, unless it has a stray. -/
theorem upper_lower {s : String} (h : ∀ c ∈ s.toList, c ∉ strays) : upper (lower s) = upper s := by
  rw [← String.toList_inj, toList_upper_lower, toList_upper]
  exact List.flatMap_congr fun c hc => flatMap_upperChars_lowerChars (h c hc)

end EndpointCountry.Text
