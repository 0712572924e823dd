import EndpointCountry.Gln.Allocation
import EndpointCountry.Proofs.Gln.Coverage

/-!
# Well-formed prefix tables

The rules of a table that was filled by offers fit the table and agree wherever they overlap. This
file states that invariant, what a look-up gives under it, and what an offer does.

* `Table.Wf` — the invariant; `wf_empty`, `wf_offer`.
* `Takes`, `Refuses`, `offer_cases` — an offer inverted: what is asked of a rule, what stands against
  it, and the table afterwards.
* `takes_iff_wf` — the rules that are taken are those that leave the table well formed.
* `lookup_eq_of_covers`, `size_eq_card` — look-ups and the count, read off the rules.
* `wf_ofRules_allocated` — the built-in tables are well formed.
-/

namespace EndpointCountry.Gln

namespace Table

/-- The rules of a table fit it and agree on the prefixes that they share. -/
structure Wf (t : Table) : Prop where
  first_le_last : ∀ r ∈ t.rules, r.first ≤ r.last
  last_lt : ∀ r ∈ t.rules, r.last < 10 ^ t.digits
  agree : ∀ r ∈ t.rules, ∀ s ∈ t.rules, ∀ p, r.Covers p → s.Covers p → r.country = s.country

theorem wf_empty (digits : Nat) : (empty digits).Wf := by
  constructor <;> simp [empty]

/-- A table with fewer rules is as well formed. -/
theorem Wf.mono {t : Table} (hw : t.Wf) {rules : List Rule} (h : rules ⊆ t.rules) :
    Wf { t with rules := rules } :=
  ⟨fun r hr => hw.first_le_last r (h hr), fun r hr => hw.last_lt r (h hr),
    fun r hr s hs => hw.agree r (h hr) s (h hs)⟩

variable {t : Table} {rule : Rule}

/-! ## Conflicts -/

/-- No rule of a table contradicts a rule exactly when the table gives each of its prefixes to the
rule's country or to none. -/
theorem forall_not_contradicts_iff {rules : List Rule} :
    (∀ held ∈ rules, ¬ held.Contradicts rule) ↔
      ∀ p, rule.Covers p → ∀ held ∈ rules, held.Covers p → held.country = rule.country := by
  simp only [Rule.contradicts_iff, not_and, not_not]
  constructor
  · intro h p hp held hmem hheld
    exact h held hmem ⟨p, hheld, hp⟩
  · rintro h held hmem ⟨p, hheld, hp⟩
    exact h p hp held hmem hheld

/-- The prefixes of a rule that a list of rules gives to another country. -/
def disputed (rules : List Rule) (rule : Rule) : Set Nat :=
  {p | rule.Covers p ∧ ∃ held ∈ rules, held.Covers p ∧ held.country ≠ rule.country}

/-- The prefix that `conflict?` finds is the smallest one in dispute. -/
theorem isLeast_of_conflict? {p : Nat} (h : t.conflict? rule = some p) :
    IsLeast (disputed t.rules rule) p := by
  obtain ⟨hmem, hmin⟩ := List.min?_eq_some_iff.1 h
  simp only [List.mem_map, List.mem_filter, decide_eq_true_eq] at hmem hmin
  constructor
  · obtain ⟨held, ⟨hheld, hcon⟩, rfl⟩ := hmem
    have hmeet : (held.meet rule).Covers (held.meet rule).first := ⟨Nat.le_refl _, hcon.1⟩
    obtain ⟨h₁, h₂⟩ := Rule.covers_meet.1 hmeet
    exact ⟨h₂, held, hheld, h₁, hcon.2⟩
  · rintro q ⟨hq, held, hheld, hcov, hne⟩
    have hcon : held.Contradicts rule := Rule.contradicts_iff.2 ⟨⟨q, hcov, hq⟩, hne⟩
    have hmeet : (held.meet rule).Covers q := Rule.covers_meet.2 ⟨hcov, hq⟩
    exact Nat.le_trans (hmin _ ⟨held, ⟨hheld, hcon⟩, rfl⟩) hmeet.1

/-! ## Offers -/

/-- What a table asks of a rule. -/
@[mk_iff]
structure Takes (t : Table) (rule : Rule) : Prop where
  first_le_last : rule.first ≤ rule.last
  last_lt : rule.last < 10 ^ t.digits
  agree : ∀ held ∈ t.rules, ¬ held.Contradicts rule

/-- What stands against a rule, and the refusal that tells it. -/
inductive Refuses (t : Table) (rule : Rule) : Refusal → Prop
  /-- Its run ends before it starts. -/
  | reversed (h : rule.last < rule.first) : Refuses t rule (.reversed rule.first rule.last)
  /-- Its run ends beyond the largest prefix. -/
  | tooLarge (hle : rule.first ≤ rule.last) (h : 10 ^ t.digits ≤ rule.last) :
    Refuses t rule (.tooLarge rule.last)
  /-- Other countries hold some of its prefixes. -/
  | taken {p : Nat} (hle : rule.first ≤ rule.last) (hlt : rule.last < 10 ^ t.digits)
    (h : IsLeast (disputed t.rules rule) p) : Refuses t rule (.taken p (t.lookup p) rule.country)

theorem offer_of_takes (h : t.Takes rule) :
    t.offer rule = ({ t with rules := rule :: t.rules }, .ok ()) := by
  have hcap : ¬ t.capacity ≤ rule.last := Nat.not_le.2 h.last_lt
  rw [offer, if_neg (Nat.not_lt.2 h.first_le_last), if_neg hcap, conflict?_eq_none_iff.2 h.agree]

/-- An offer, taken or refused. A refused rule leaves the table as it is. -/
theorem offer_cases (t : Table) (rule : Rule) :
    (t.Takes rule ∧ t.offer rule = ({ t with rules := rule :: t.rules }, .ok ())) ∨
      ∃ refusal, t.Refuses rule refusal ∧ t.offer rule = (t, .error refusal) := by
  by_cases hle : rule.last < rule.first
  · exact .inr ⟨_, .reversed hle, by rw [offer, if_pos hle]⟩
  by_cases hcap : t.capacity ≤ rule.last
  · exact .inr ⟨_, .tooLarge (Nat.not_lt.1 hle) hcap, by rw [offer, if_neg hle, if_pos hcap]⟩
  cases hconf : t.conflict? rule with
  | some p =>
    refine .inr ⟨_, .taken (Nat.not_lt.1 hle) (Nat.not_le.1 hcap) (isLeast_of_conflict? hconf), ?_⟩
    rw [offer, if_neg hle, if_neg hcap, hconf]
  | none =>
    have htakes : t.Takes rule :=
      ⟨Nat.not_lt.1 hle, Nat.not_le.1 hcap, conflict?_eq_none_iff.1 hconf⟩
    exact .inl ⟨htakes, offer_of_takes htakes⟩

theorem offer_snd_eq_ok_iff : (t.offer rule).2 = .ok () ↔ t.Takes rule := by
  constructor
  · intro h
    obtain ⟨htakes, -⟩ | ⟨refusal, -, hoff⟩ := offer_cases t rule
    · exact htakes
    · rw [hoff] at h
      cases h
  · intro h
    rw [offer_of_takes h]

/-- A refused rule leaves no trace. -/
theorem offer_of_error {refusal : Refusal} (h : (t.offer rule).2 = .error refusal) :
    (t.offer rule).1 = t ∧ t.Refuses rule refusal := by
  obtain ⟨-, hoff⟩ | ⟨other, hrefuses, hoff⟩ := offer_cases t rule
  · rw [hoff] at h
    cases h
  · rw [hoff] at h ⊢
    cases h
    exact ⟨rfl, hrefuses⟩

/-- A well-formed table takes exactly the rules that leave it well formed. -/
theorem takes_iff_wf (hw : t.Wf) : t.Takes rule ↔ Wf { t with rules := rule :: t.rules } := by
  constructor
  · intro h
    have hagree := forall_not_contradicts_iff.1 h.agree
    refine ⟨?_, ?_, ?_⟩
    · exact List.forall_mem_cons.2 ⟨h.first_le_last, hw.first_le_last⟩
    · exact List.forall_mem_cons.2 ⟨h.last_lt, hw.last_lt⟩
    · intro r hr s hs p hrp hsp
      rcases List.mem_cons.1 hr with rfl | hr' <;> rcases List.mem_cons.1 hs with rfl | hs'
      · rfl
      · exact (hagree p hrp s hs' hsp).symm
      · exact hagree p hsp r hr' hrp
      · exact hw.agree r hr' s hs' p hrp hsp
  · intro hnext
    have hmem : rule ∈ rule :: t.rules := List.mem_cons_self
    refine ⟨hnext.first_le_last rule hmem, hnext.last_lt rule hmem, ?_⟩
    rw [forall_not_contradicts_iff]
    intro p hp held hheld hcov
    exact hnext.agree held (List.mem_cons_of_mem _ hheld) rule hmem p hcov hp

/-- No offer makes a table worse. -/
theorem wf_offer (hw : t.Wf) (rule : Rule) : (t.offer rule).1.Wf := by
  obtain ⟨htakes, hoff⟩ | ⟨refusal, -, hoff⟩ := offer_cases t rule
  · rw [hoff]
    exact (takes_iff_wf hw).1 htakes
  · rw [hoff]
    exact hw

/-! ## Look-ups and the count -/

/-- The prefixes of the latest rule belong to its country, all others to whom they belonged
before. -/
theorem holder?_cons (t : Table) (rule : Rule) (p : Nat) :
    holder? { t with rules := rule :: t.rules } p =
      if rule.Covers p then some rule.country else t.holder? p := by
  by_cases hp : rule.Covers p <;> simp [holder?, hp]

theorem holder?_eq_none_iff {p : Nat} : t.holder? p = none ↔ ∀ r ∈ t.rules, ¬ r.Covers p := by
  simp [holder?]

/-- In a well-formed table any rule that covers a prefix tells its holder. -/
theorem holder?_eq_some_iff (hw : t.Wf) {p : Nat} {c : Country} :
    t.holder? p = some c ↔ ∃ r ∈ t.rules, r.Covers p ∧ r.country = c := by
  simp only [holder?, Option.map_eq_some_iff]
  constructor
  · rintro ⟨r, hr, rfl⟩
    exact ⟨r, List.mem_of_find?_eq_some hr, by simpa using List.find?_some hr, rfl⟩
  · rintro ⟨r, hr, hp, rfl⟩
    obtain ⟨s, hs⟩ : ∃ s, t.rules.find? (·.Covers p) = some s := by
      rw [← Option.isSome_iff_exists, List.find?_isSome]
      exact ⟨r, hr, by simpa using hp⟩
    have hsp : s.Covers p := by simpa using List.find?_some hs
    exact ⟨s, hs, hw.agree s (List.mem_of_find?_eq_some hs) r hr p hsp hp⟩

theorem lookup_eq_of_covers (hw : t.Wf) {r : Rule} (hr : r ∈ t.rules) {p : Nat} (hp : r.Covers p) :
    t.lookup p = r.country := by
  rw [lookup, (holder?_eq_some_iff hw).2 ⟨r, hr, hp, rfl⟩, Option.getD_some]

theorem lookup_eq_unknown {p : Nat} (h : ∀ r ∈ t.rules, ¬ r.Covers p) : t.lookup p = .unknown := by
  rw [lookup, holder?_eq_none_iff.2 h, Option.getD_none]

theorem holder?_eq_none_of_le (hw : t.Wf) {p : Nat} (hp : 10 ^ t.digits ≤ p) :
    t.holder? p = none := by
  rw [holder?_eq_none_iff]
  intro r hr hcov
  have hlast := hw.last_lt r hr
  have hple := hcov.2
  omega

theorem size_eq_card (hw : t.Wf) : t.size = (prefixesOf t.rules).card :=
  coverage_eq_card hw.first_le_last

end Table

/-! ## Built-in tables -/

theorem contradicts_symm {r s : Rule} (h : r.Contradicts s) : s.Contradicts r := by
  rw [Rule.contradicts_iff] at h ⊢
  obtain ⟨⟨p, hr, hs⟩, hne⟩ := h
  exact ⟨⟨p, hs, hr⟩, hne.symm⟩

theorem fits_allocated {digits : Nat} (h : 3 ≤ digits ∧ digits ≤ 5) :
    ∀ r ∈ allocated digits, r.first ≤ r.last ∧ r.last < 10 ^ digits := by
  obtain rfl | rfl | rfl : digits = 3 ∨ digits = 4 ∨ digits = 5 := by omega
  all_goals decide +kernel

theorem pairwise_allocated {digits : Nat} (h : 3 ≤ digits ∧ digits ≤ 5) :
    (allocated digits).Pairwise fun r s => ¬ r.Contradicts s := by
  obtain rfl | rfl | rfl : digits = 3 ∨ digits = 4 ∨ digits = 5 := by omega
  all_goals decide +kernel

/-- The built-in table of each length is well formed. -/
theorem wf_ofRules_allocated {digits : Nat} (h : 3 ≤ digits ∧ digits ≤ 5) :
    (Table.ofRules digits (allocated digits)).Wf := by
  have hfits := fits_allocated h
  have hmem : ∀ r, r ∈ (Table.ofRules digits (allocated digits)).rules → r ∈ allocated digits := by
    simp [Table.ofRules]
  have hnot : ∀ r ∈ allocated digits, ∀ s ∈ allocated digits, ¬ r.Contradicts s :=
    fun r hr s hs => (pairwise_allocated h).forall_of_forall_of_flip
      (fun x _ hx => hx.2 rfl) ((pairwise_allocated h).imp fun hn hc => hn (contradicts_symm hc)) hr hs
  refine ⟨fun r hr => (hfits r (hmem r hr)).1, fun r hr => (hfits r (hmem r hr)).2, ?_⟩
  intro r hr s hs p hrp hsp
  by_contra hne
  exact hnot r (hmem r hr) s (hmem s hs) (Rule.contradicts_iff.2 ⟨⟨p, hrp, hsp⟩, hne⟩)

end EndpointCountry.Gln
