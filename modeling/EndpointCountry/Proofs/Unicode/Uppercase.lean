import EndpointCountry.Proofs.Text
import EndpointCountry.Unicode.Uppercase

/-!
# Upper-case forms

What the upper-case table says of all characters at once. The characters with another upper-case
form and those that stand in upper-case forms are finitely many, and the two kinds have nothing in
common, so that upper-casing a second time changes nothing. Digits are of neither kind, so the
digits in front of a text are those in front of its upper-case form.

* `bits`, `testBit_bits` — a finite set of code points as one number.
* `distinct`, `nodup_of_distinct` — numbers that are all different, checked with such sets.
* `changing`, `capitals` — the code points of the two kinds, listed from the table.
* `upperChars_cases` — a character stays or its form consists of capitals.
* `upper_eq_empty_iff` — no other text has the empty upper-case form.
* `upper_upper` — upper-casing twice.
* `readDigits?_take_flatMap_upperChars` — numbers in front of a text.
-/

namespace EndpointCountry.Text

/-! ## Finite sets of code points -/

/-- A set of numbers as one number, whose bits tell which of them are in the set. A question about
one of many code points is then asked of this number and not of each of them. -/
def bits (ns : List Nat) : Nat :=
  ns.foldr (fun n set => 1 <<< n ||| set) 0

theorem testBit_bits {ns : List Nat} {n : Nat} : (bits ns).testBit n = true ↔ n ∈ ns := by
  induction ns with
  | nil => simp [bits]
  | cons m ns ih =>
    have hstep : bits (m :: ns) = 1 <<< m ||| bits ns := rfl
    rw [hstep, Nat.testBit_or, Bool.or_eq_true, ih, List.mem_cons, Nat.one_shiftLeft,
      Nat.testBit_two_pow, decide_eq_true_eq, eq_comm]

/-- Whether each number is new to the set of those behind it. -/
def distinct : List Nat → Bool
  | [] => true
  | n :: ns => !(bits ns).testBit n && distinct ns

theorem nodup_of_distinct {ns : List Nat} (h : distinct ns = true) : ns.Nodup := by
  induction ns with
  | nil => exact List.nodup_nil
  | cons n ns ih =>
    rw [distinct, Bool.and_eq_true, Bool.not_eq_true'] at h
    refine List.nodup_cons.2 ⟨fun hmem => ?_, ih h.2⟩
    rw [testBit_bits.2 hmem] at h
    cases h.1

/-! ## The code points of the table -/

/-- The code points that a run covers. -/
def CaseRun.letters (run : CaseRun) : List Nat :=
  List.range' run.first ((run.last - run.first) / run.step + 1) run.step

theorem CaseRun.mem_letters {run : CaseRun} {n : Nat} (h : run.covers n = true) :
    n ∈ run.letters := by
  simp only [CaseRun.covers, Bool.and_eq_true, decide_eq_true_eq, beq_iff_eq] at h
  obtain ⟨⟨hfirst, hlast⟩, hstep⟩ := h
  have hdiv : (n - run.first) / run.step ≤ (run.last - run.first) / run.step :=
    Nat.div_le_div_right (by omega)
  have hmul : run.step * ((n - run.first) / run.step) = n - run.first :=
    Nat.mul_div_cancel' (Nat.dvd_of_mod_eq_zero hstep)
  exact List.mem_range'.2 ⟨(n - run.first) / run.step, by omega, by omega⟩

/-- The code points of the characters whose upper-case form is another one. -/
def changing : List Nat :=
  caseRuns.flatMap CaseRun.letters ++ caseExpansions.map (·.1)

/-- The code points of the characters in the upper-case forms of those. -/
def capitals : List Nat :=
  caseRuns.flatMap (fun run => run.letters.map run.capitalOf) ++ caseExpansions.flatMap (·.2)

theorem le_of_mem_changing {n : Nat} (h : n ∈ changing) : 0x61 ≤ n := by
  have hall : (changing.all fun n => Nat.ble 0x61 n) = true := by decide +kernel
  exact Nat.le_of_ble_eq_true (List.all_eq_true.1 hall n h)

/-- Whether a number is the code point of a character, by comparisons that evaluate fast. -/
def isCodePoint (n : Nat) : Bool :=
  Nat.blt n 0xD800 || Nat.blt 0xDFFF n && Nat.blt n 0x110000

theorem isCodePoint_iff {n : Nat} : isCodePoint n = true ↔ n.isValidChar := by
  simp [isCodePoint, Nat.isValidChar, Nat.blt_eq]

/-- The capitals are characters, none is a digit and none has another upper-case form. -/
theorem of_mem_capitals {n : Nat} (h : n ∈ capitals) :
    n.isValidChar ∧ 0x41 ≤ n ∧ n ∉ changing := by
  have hall : (capitals.all fun n =>
      isCodePoint n && Nat.ble 0x41 n && !(bits changing).testBit n) = true := by
    decide +kernel
  have hn := List.all_eq_true.1 hall n h
  simp only [Bool.and_eq_true, isCodePoint_iff, Nat.ble_eq, Bool.not_eq_true'] at hn
  obtain ⟨⟨hvalid, hle⟩, hbit⟩ := hn
  refine ⟨hvalid, hle, fun hmem => ?_⟩
  rw [testBit_bits.2 hmem] at hbit
  cases hbit

/-! ## One character -/

/-- A character stays as it is, or its upper-case form is made of capitals. -/
theorem upperChars_cases (c : Char) :
    (upperChars c = [c]) ∨
      c.toNat ∈ changing ∧ ∃ codes ⊆ capitals, upperChars c = codes.map Char.ofNat := by
  unfold upperChars
  cases hrun : caseRuns.find? (·.covers c.toNat) with
  | some run =>
    have hmem : run ∈ caseRuns := List.mem_of_find?_eq_some hrun
    have hletter : c.toNat ∈ run.letters :=
      CaseRun.mem_letters (List.find?_some (p := fun r : CaseRun => r.covers c.toNat) hrun)
    refine .inr ⟨List.mem_append_left _ (List.mem_flatMap.2 ⟨run, hmem, hletter⟩),
      [run.capitalOf c.toNat], ?_, rfl⟩
    intro n hn
    rw [List.mem_singleton.1 hn]
    exact List.mem_append_left _
      (List.mem_flatMap.2 ⟨run, hmem, List.mem_map_of_mem hletter⟩)
  | none =>
    cases hlookup : caseExpansions.lookup c.toNat with
    | none => exact .inl rfl
    | some codes =>
      have hmem : (c.toNat, codes) ∈ caseExpansions := by
        obtain ⟨l₁, l₂, hl, -⟩ := List.lookup_eq_some_iff.1 hlookup
        rw [hl]
        exact List.mem_append_right _ List.mem_cons_self
      refine .inr ⟨List.mem_append_right _ (List.mem_map_of_mem hmem), codes, ?_, rfl⟩
      intro n hn
      exact List.mem_append_right _ (List.mem_flatMap.2 ⟨_, hmem, hn⟩)

theorem upperChars_of_notMem {c : Char} (h : c.toNat ∉ changing) : upperChars c = [c] := by
  obtain hc | ⟨hc, -⟩ := upperChars_cases c
  · exact hc
  · exact absurd hc h

theorem upperChars_ne_nil (c : Char) : upperChars c ≠ [] := by
  have hcodes : ∀ e ∈ caseExpansions, e.2 ≠ [] := by decide
  unfold upperChars
  split
  · exact List.cons_ne_nil _ _
  · split
    · rename_i codes hlookup
      obtain ⟨l₁, l₂, hl, -⟩ := List.lookup_eq_some_iff.1 hlookup
      have hmem : (c.toNat, codes) ∈ caseExpansions := by
        rw [hl]
        exact List.mem_append_right _ List.mem_cons_self
      rw [Ne, List.map_eq_nil_iff]
      exact hcodes _ hmem
    · exact List.cons_ne_nil _ _

theorem upperChars_of_lt {c : Char} (h : c.toNat < 0x61) : upperChars c = [c] :=
  upperChars_of_notMem fun hmem => absurd (le_of_mem_changing hmem) (Nat.not_le.2 h)

/-- A character of an upper-case form is its own upper-case form. -/
theorem upperChars_of_mem {c d : Char} (h : d ∈ upperChars c) : upperChars d = [d] := by
  obtain hc | ⟨-, codes, hcodes, hc⟩ := upperChars_cases c
  · rw [hc, List.mem_singleton] at h
    rw [h, hc]
  · rw [hc] at h
    obtain ⟨n, hn, rfl⟩ := List.mem_map.1 h
    obtain ⟨hvalid, -, hstays⟩ := of_mem_capitals (hcodes hn)
    refine upperChars_of_notMem ?_
    rwa [Char.toNat_ofNat, if_pos hvalid]

/-! ## Texts -/

theorem toList_upper (s : String) : (upper s).toList = s.toList.flatMap upperChars :=
  String.toList_ofList

/-- Upper-casing leaves something of every text that is not empty. -/
theorem upper_eq_empty_iff {s : String} : upper s = "" ↔ s = "" := by
  rw [upper, String.ofList_eq_empty_iff, List.flatMap_eq_nil_iff, ← String.toList_eq_nil_iff]
  constructor
  · intro h
    rw [List.eq_nil_iff_forall_not_mem]
    intro c hc
    exact upperChars_ne_nil c (h c hc)
  · intro h c hc
    rw [h] at hc
    cases hc

theorem upper_eq_self {s : String} (h : ∀ c ∈ s.toList, upperChars c = [c]) : upper s = s := by
  rw [← String.toList_inj, toList_upper, List.flatMap_congr h, List.flatMap_singleton']

/-- Upper-casing a text a second time changes nothing. -/
theorem upper_upper (s : String) : upper (upper s) = upper s := by
  refine upper_eq_self fun d hd => ?_
  rw [toList_upper] at hd
  obtain ⟨c, -, hd⟩ := List.mem_flatMap.1 hd
  exact upperChars_of_mem hd

/-! ## Digits -/

theorem toNat_le_of_isDigit {c : Char} (h : isDigit c = true) : c.toNat ≤ 0x39 := by
  simp only [isDigit, Bool.and_eq_true, decide_eq_true_eq] at h
  exact h.2

theorem upperChars_of_isDigit {c : Char} (h : isDigit c = true) : upperChars c = [c] := by
  have hle := toNat_le_of_isDigit h
  exact upperChars_of_lt (by omega)

/-- No digit stands in the upper-case form of anything else. -/
theorem not_isDigit_of_mem_upperChars {c d : Char} (hc : ¬ isDigit c = true)
    (hd : d ∈ upperChars c) : ¬ isDigit d = true := by
  obtain hstays | ⟨-, codes, hcodes, hform⟩ := upperChars_cases c
  · rw [hstays, List.mem_singleton] at hd
    rwa [hd]
  · rw [hform] at hd
    obtain ⟨n, hn, rfl⟩ := List.mem_map.1 hd
    obtain ⟨hvalid, hge, -⟩ := of_mem_capitals (hcodes hn)
    intro hdigit
    have hle := toNat_le_of_isDigit hdigit
    rw [Char.toNat_ofNat, if_pos hvalid] at hle
    omega

/-- The front of an upper-case form is that of the text, or neither is all digits. -/
theorem take_flatMap_upperChars (cs : List Char) (n : Nat) :
    (cs.flatMap upperChars).take n = cs.take n ∨
      (∃ c ∈ (cs.flatMap upperChars).take n, ¬ isDigit c = true) ∧
        ∃ c ∈ cs.take n, ¬ isDigit c = true := by
  induction cs generalizing n with
  | nil => exact .inl rfl
  | cons c cs ih =>
    cases n with
    | zero => exact .inl rfl
    | succ n =>
      by_cases hc : isDigit c = true
      · rw [List.flatMap_cons, upperChars_of_isDigit hc, List.singleton_append, List.take_succ_cons,
          List.take_succ_cons]
        obtain heq | ⟨⟨d, hd, hd'⟩, e, he, he'⟩ := ih n
        · exact .inl (by rw [heq])
        · exact .inr ⟨⟨d, List.mem_cons_of_mem c hd, hd'⟩, e, List.mem_cons_of_mem c he, he'⟩
      · obtain ⟨d, ds, hform⟩ := List.exists_cons_of_ne_nil (upperChars_ne_nil c)
        have hd : ¬ isDigit d = true :=
          not_isDigit_of_mem_upperChars hc (by rw [hform]; exact List.mem_cons_self)
        rw [List.flatMap_cons, hform, List.cons_append, List.take_succ_cons, List.take_succ_cons]
        exact .inr ⟨⟨d, List.mem_cons_self, hd⟩, c, List.mem_cons_self, hc⟩

theorem readDigits?_eq_none_of_mem {cs : List Char} {c : Char} (hmem : c ∈ cs)
    (hc : ¬ isDigit c = true) : readDigits? cs = none := by
  rw [readDigits?, if_neg]
  rintro ⟨-, hall⟩
  exact hc (List.all_eq_true.1 hall c hmem)

/-- The front of a text denotes the number that the front of its upper-case form denotes. -/
theorem readDigits?_take_flatMap_upperChars (cs : List Char) (n : Nat) :
    readDigits? ((cs.flatMap upperChars).take n) = readDigits? (cs.take n) := by
  obtain heq | ⟨⟨c, hc, hc'⟩, d, hd, hd'⟩ := take_flatMap_upperChars cs n
  · rw [heq]
  · rw [readDigits?_eq_none_of_mem hc hc', readDigits?_eq_none_of_mem hd hd']

end EndpointCountry.Text
