import EndpointCountry.Proofs.Gln.Table
import EndpointCountry.Proofs.Text

/-!
# Filling a prefix table

A table is offered rules one after another; some are taken, some refused, and the next one is
offered all the same. The table is at every moment what the rules it has taken say.

* `offerAll`, `taken` — a run of offers, and the rules it has taken.
* `wf_offerAll`, `offerAll_fst` — what a run keeps, and what it leaves in the table.
* `offer_after_offerAll` — the answer to an offer after any run, and the table after that run.
-/

namespace EndpointCountry.Gln.Table

/-- Rules offered one after another, whatever becomes of each: the table in the end, and every rule
with the answer to it. -/
def offerAll (t : Table) : List Rule → Table × List (Rule × Except Refusal Unit)
  | [] => (t, [])
  | rule :: rest =>
    let (next, answer) := t.offer rule
    let (last, log) := next.offerAll rest
    (last, (rule, answer) :: log)

/-- The rules of a log that were taken, in the order of the offers. -/
def taken (log : List (Rule × Except Refusal Unit)) : List Rule :=
  (log.filter (·.2.isOk)).map (·.1)

/-! ## Runs -/

/-- The invariant holds after every run. -/
theorem wf_offerAll {t : Table} (hw : t.Wf) (rules : List Rule) : (t.offerAll rules).1.Wf := by
  induction rules generalizing t with
  | nil => exact hw
  | cons rule rest ih => exact ih (wf_offer hw rule)

/-- A run adds to a table the rules that were taken, the latest first, and changes nothing else. -/
theorem offerAll_fst (t : Table) (rules : List Rule) :
    (t.offerAll rules).1 = { t with rules := (taken (t.offerAll rules).2).reverse ++ t.rules } := by
  induction rules generalizing t with
  | nil => rfl
  | cons rule rest ih =>
    obtain ⟨-, hoff⟩ | ⟨refusal, -, hoff⟩ := offer_cases t rule
    all_goals
      simp only [offerAll, hoff]
      rw [ih]
      simp [taken, Except.isOk, Except.toBool]

/-! ## What a run says -/

/-- The wording of a conflict shows the prefix with zeros in front. -/
theorem toFault_taken {digits p : Nat} (h : p < 10 ^ digits) (holder claimant : Country) :
    ∃ shown, shown.length = max 1 digits ∧ Text.readDigits? shown = some p ∧
      (Refusal.taken p holder claimant).toFault digits = .setting s!"gln_ranges[{digits}-digit]"
        s!"prefix {String.ofList shown} is already mapped to {holder.text}, cannot remap to {claimant.text}" :=
  ⟨Text.padded digits p, Text.length_padded h, Text.readDigits?_padded digits p, rfl⟩

/-- After any run of offers to an empty table, a further rule is taken exactly when it fits and
gives no prefix to another country than the rules taken before. A refused rule leaves the table as
it is, and a refusal for a conflict names the smallest prefix in dispute, with zeros in front, and
its holder. The rules taken so far agree wherever they overlap; look-ups and the count are theirs. -/
theorem offer_after_offerAll (digits : Nat) (offers : List Rule) (rule : Rule) :
    let t := ((empty digits).offerAll offers).1
    let held := taken ((empty digits).offerAll offers).2
    ((t.offer rule).2 = .ok () ↔
      rule.first ≤ rule.last ∧ rule.last < 10 ^ digits ∧
        ∀ p, rule.Covers p → ∀ r ∈ held, r.Covers p → r.country = rule.country) ∧
    (∀ refusal, (t.offer rule).2 = .error refusal →
      (t.offer rule).1 = t ∧
        (rule.first ≤ rule.last → rule.last < 10 ^ digits →
          ∃ p, IsLeast (disputed held rule) p ∧
            ∃ shown, shown.length = max 1 digits ∧ Text.readDigits? shown = some p ∧
              refusal.toFault digits = .setting s!"gln_ranges[{digits}-digit]"
                s!"prefix {String.ofList shown} is already mapped to {(t.lookup p).text}, cannot remap to {rule.country.text}")) ∧
    (∀ r ∈ held, ∀ s ∈ held, ∀ p, r.Covers p → s.Covers p → r.country = s.country) ∧
    (∀ r ∈ held, ∀ p, r.Covers p → t.lookup p = r.country) ∧
    (∀ p, (∀ r ∈ held, ¬ r.Covers p) → t.lookup p = .unknown) ∧
    (∀ p, 10 ^ digits ≤ p → t.holder? p = none) ∧
    t.size = (prefixesOf held).card := by
  intro t held
  have hw : t.Wf := wf_offerAll (wf_empty digits) offers
  have ht : t = ⟨digits, held.reverse⟩ := by
    have h := offerAll_fst (empty digits) offers
    rwa [show (empty digits).rules = [] from rfl, List.append_nil] at h
  have hdigits : t.digits = digits := by rw [ht]
  have hmem : ∀ r, r ∈ t.rules ↔ r ∈ held := by simp [ht]
  refine ⟨?_, ?_, ?_, ?_, ?_, ?_, ?_⟩
  · rw [offer_snd_eq_ok_iff, takes_iff, forall_not_contradicts_iff]
    simp only [hmem, hdigits]
  · intro refusal h
    obtain ⟨hsame, hrefuses⟩ := offer_of_error h
    refine ⟨hsame, fun hle hlt => ?_⟩
    cases hrefuses with
    | reversed hrev => omega
    | tooLarge _ hbig =>
      rw [hdigits] at hbig
      omega
    | @taken p _ _ hp =>
      have hdisputed : disputed t.rules rule = disputed held rule := by
        simp only [disputed, hmem]
      rw [hdisputed] at hp
      exact ⟨p, hp, toFault_taken (Nat.lt_of_le_of_lt hp.1.1.2 hlt) _ _⟩
  · intro r hr s hs
    exact hw.agree r ((hmem r).2 hr) s ((hmem s).2 hs)
  · intro r hr p hp
    exact lookup_eq_of_covers hw ((hmem r).2 hr) hp
  · intro p h
    exact lookup_eq_unknown fun r hr => h r ((hmem r).1 hr)
  · intro p hp
    exact holder?_eq_none_of_le hw (by rwa [hdigits])
  · have hset : prefixesOf t.rules = prefixesOf held := by
      ext p
      simp [hmem]
    rw [size_eq_card hw, hset]

end EndpointCountry.Gln.Table
