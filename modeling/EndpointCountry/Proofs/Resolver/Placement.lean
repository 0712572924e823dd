import EndpointCountry.Proofs.Gln.Table
import EndpointCountry.Proofs.Text
import EndpointCountry.Resolver

/-!
# Placing a value by its first digits

A resolver walks through its prefix tables from the shortest prefixes to the longest, goes on when
a table gives no country and stops at a prefix that is not all digits. This file shows that the walk
is a plain search: each length answers by itself from the rules of that length, and the shortest
length that answers is taken.

* `prefixNumber?`, `placed?` — what one length answers, read off the rules.
* `placed?_eq` — the same, read off the table of the rules.
* `placeByPrefix_eq_findSome?` — the walk.
-/

namespace EndpointCountry.Resolver

/-- The number that the first characters of a value write, if they are digits and not all zeros. -/
def prefixNumber? (value : List Char) (digits : Nat) : Option Nat :=
  let front := value.take digits
  if front.all Char.isDigit = true ∧ Nat.ofDigitChars 10 front 0 ≠ 0 then
    some (Nat.ofDigitChars 10 front 0)
  else none

/-- The answer of the rules for prefixes of a length: some rule that covers the prefix gives it a
country. -/
def placed? (rules : List Gln.Rule) (value : List Char) (digits : Nat) : Option Resolution :=
  (prefixNumber? value digits).bind fun number =>
    (rules.find? fun r => r.Covers number ∧ r.country ≠ .unknown).map fun r =>
      ⟨r.country, .glnPrefix digits number⟩

theorem prefixNumber?_eq (value : List Char) (digits : Nat) :
    prefixNumber? value digits = (Text.readDigits? (value.take digits)).filter (· ≠ 0) := by
  unfold prefixNumber?
  cases h : Text.readDigits? (value.take digits) with
  | none =>
    rw [Option.filter_none, if_neg]
    rintro ⟨hdigits, hne⟩
    have hnil : value.take digits ≠ [] := by
      intro hnil
      rw [hnil] at hne
      exact hne rfl
    have hsome := Text.readDigits?_eq_some_iff.2 ⟨hnil, List.all_eq_true.1 hdigits, rfl⟩
    rw [h] at hsome
    cases hsome
  | some n =>
    obtain ⟨-, hdigits, rfl⟩ := Text.readDigits?_eq_some_iff.1 h
    rw [Option.filter_some]
    by_cases hn : Nat.ofDigitChars 10 (value.take digits) 0 = 0
    · simp [hn]
    · rw [if_pos ⟨List.all_eq_true.2 hdigits, hn⟩, if_pos (decide_eq_true hn)]

/-- A prefix that is not all digits makes every longer prefix one that is not all digits. -/
theorem readDigits?_take_eq_none {value : List Char} {m n : Nat} (hm : 0 < m) (hmn : m ≤ n)
    (h : Text.readDigits? (value.take m) = none) : Text.readDigits? (value.take n) = none := by
  by_contra hne
  obtain ⟨number, hnumber⟩ := Option.ne_none_iff_exists'.1 hne
  obtain ⟨hnil, hdigits, -⟩ := Text.readDigits?_eq_some_iff.1 hnumber
  have hvalue : value ≠ [] := fun hv => hnil (by rw [hv, List.take_nil])
  have hfront : value.take m ≠ [] := by
    rw [Ne, List.take_eq_nil_iff]
    exact not_or.2 ⟨by omega, hvalue⟩
  have hall : ∀ c ∈ value.take m, c.isDigit = true :=
    fun c hc => hdigits c (List.take_subset_take_left value hmn hc)
  have hsome := Text.readDigits?_eq_some_iff.2 ⟨hfront, hall, rfl⟩
  rw [h] at hsome
  cases hsome

/-- Among agreeing rules, any one that covers a prefix and names a country tells what their table
says of it. -/
theorem map_find?_country {digits : Nat} {rules : List Gln.Rule}
    (hw : (Gln.Table.ofRules digits rules).Wf) (p : Nat) :
    (rules.find? fun r => r.Covers p ∧ r.country ≠ .unknown).map (·.country) =
      (some ((Gln.Table.ofRules digits rules).lookup p)).filter (· ≠ .unknown) := by
  cases h : rules.find? fun r => r.Covers p ∧ r.country ≠ .unknown with
  | none =>
    have hnot : ∀ r ∈ rules, r.Covers p → r.country = .unknown := by
      simpa using h
    have hlookup : (Gln.Table.ofRules digits rules).lookup p = .unknown := by
      by_cases hcov : ∃ r ∈ rules, r.Covers p
      · obtain ⟨r, hr, hp⟩ := hcov
        rw [Gln.Table.lookup_eq_of_covers hw (List.mem_reverse.2 hr) hp]
        exact hnot r hr hp
      · apply Gln.Table.lookup_eq_unknown
        intro r hr hp
        exact hcov ⟨r, List.mem_reverse.1 hr, hp⟩
    rw [hlookup]
    rfl
  | some r =>
    have hr : r ∈ rules := List.mem_of_find?_eq_some h
    have hfound := List.find?_some h
    obtain ⟨hp, hne⟩ := of_decide_eq_true hfound
    rw [Gln.Table.lookup_eq_of_covers hw (List.mem_reverse.2 hr) hp, Option.filter_some,
      if_pos (decide_eq_true hne), Option.map_some]

/-- What one table does in the walk, read off its rules. -/
theorem placed?_eq {digits : Nat} {rules : List Gln.Rule}
    (hw : (Gln.Table.ofRules digits rules).Wf) {value : List Char} {number : Nat}
    (h : prefixNumber? value digits = some number) :
    placed? rules value digits =
      if (Gln.Table.ofRules digits rules).lookup number = .unknown then none
      else some ⟨(Gln.Table.ofRules digits rules).lookup number, .glnPrefix digits number⟩ := by
  have hmap : placed? rules value digits =
      ((rules.find? fun r => r.Covers number ∧ r.country ≠ .unknown).map (·.country)).map
        fun country => ⟨country, .glnPrefix digits number⟩ := by
    rw [placed?, h, Option.bind_some, Option.map_map]
    rfl
  rw [hmap, map_find?_country hw, Option.filter_some]
  split <;> split <;> simp_all

/-- The walk through the tables of some rules, from the shortest prefixes to the longest, finds the
shortest length whose rules give a country. -/
theorem placeByPrefix_eq_findSome? (rules : Nat → List Gln.Rule) (value : List Char)
    {lengths : List Nat} (hpos : ∀ n ∈ lengths, 0 < n) (hsorted : lengths.Pairwise (· ≤ ·))
    (hw : ∀ n ∈ lengths, (Gln.Table.ofRules n (rules n)).Wf) :
    placeByPrefix value (lengths.map fun n => .ofRules n (rules n)) =
      lengths.findSome? fun n => placed? (rules n) value n := by
  induction lengths with
  | nil => rfl
  | cons n rest ih =>
    obtain ⟨hn, hrest⟩ := List.forall_mem_cons.1 hpos
    obtain ⟨hle, hsorted⟩ := List.pairwise_cons.1 hsorted
    obtain ⟨hwn, hwrest⟩ := List.forall_mem_cons.1 hw
    have ih := ih hrest hsorted hwrest
    have hdigits : (Gln.Table.ofRules n (rules n)).digits = n := rfl
    rw [List.map_cons, placeByPrefix, hdigits, ih, List.findSome?_cons]
    cases h : Text.readDigits? (value.take n) with
    | none =>
      -- The walk ends here, and no longer prefix could have answered.
      have hnone : ∀ m, n ≤ m → placed? (rules m) value m = none := by
        intro m hm
        rw [placed?, prefixNumber?_eq, readDigits?_take_eq_none hn hm h]
        rfl
      rw [hnone n (Nat.le_refl n)]
      exact (List.findSome?_eq_none_iff.2 fun m hm => hnone m (hle m hm)).symm
    | some number =>
      have hnumber : prefixNumber? value n = (some number).filter (· ≠ 0) := by
        rw [prefixNumber?_eq, h]
      cases number with
      | zero =>
        have hnone : placed? (rules n) value n = none := by
          rw [placed?, hnumber]
          rfl
        rw [hnone]
        rfl
      | succ k =>
        rw [placed?_eq hwn hnumber]
        by_cases hc : (Gln.Table.ofRules n (rules n)).lookup (k + 1) = .unknown
        · simp [Country.isUnknown, hc]
        · simp [Country.isUnknown, hc]

end EndpointCountry.Resolver
