import EndpointCountry.Proofs.Datum.Json
import EndpointCountry.Proofs.Resolver.Builder
import EndpointCountry.Proofs.Resolver.Placement

/-!
# The source of a resolution

A source that is a prefix names a length for which the resolver has a table and a number of no more
digits than that, so JSON holds the source of every resolution as it is.

* `placeByPrefix_source`, `source_explainGln_cases` — the sources of a location number.
* `exact_toDatum_source` — sources as data.
-/

namespace EndpointCountry.Resolver

/-- A prefix table answers with its length and with a number of that many digits. -/
theorem placeByPrefix_source {value : List Char} {tables : List Gln.Table} {res : Resolution}
    (h : placeByPrefix value tables = some res) :
    ∃ table ∈ tables, ∃ number < 10 ^ table.digits,
      res.source = .glnPrefix table.digits number := by
  induction tables with
  | nil => cases h
  | cons table rest ih =>
    have hlater (h : placeByPrefix value rest = some res) :
        ∃ t ∈ table :: rest, ∃ number < 10 ^ t.digits, res.source = .glnPrefix t.digits number := by
      obtain ⟨t, ht, hres⟩ := ih h
      exact ⟨t, List.mem_cons_of_mem _ ht, hres⟩
    rw [placeByPrefix] at h
    split at h
    · cases h
    · exact hlater h
    · rename_i number _ hread
      dsimp only at h
      split at h
      · exact hlater h
      · cases h
        obtain ⟨-, hdigits, rfl⟩ := Text.readDigits?_eq_some_iff.1 hread
        have hlt := Text.ofDigitChars_lt hdigits
        have hle : (value.take table.digits).length ≤ table.digits := List.length_take_le _ _
        refine ⟨table, List.mem_cons_self, _, ?_, rfl⟩
        exact Nat.lt_of_lt_of_le hlt (Nat.pow_le_pow_right (by decide) hle)

/-- The sources of a location number. -/
theorem source_explainGln_cases (r : Resolver) (value : String) :
    (∃ table ∈ [r.three, r.four, r.five], ∃ number < 10 ^ table.digits,
      (r.explainGln value).source = .glnPrefix table.digits number) ∨
    (r.explainGln value).source = .customOverride ∨
    (r.explainGln value).source = .glnUnresolved := by
  unfold explainGln
  by_cases hlength : value.toList.length < shortestValue
  · rw [if_pos hlength]
    exact .inr (.inr rfl)
  · rw [if_neg hlength]
    cases hplaced : placeByPrefix value.toList [r.three, r.four, r.five] with
    | some resolution => exact .inl (placeByPrefix_source hplaced)
    | none =>
      cases r.overrides.get? value with
      | some country => exact .inr (.inl rfl)
      | none => exact .inr (.inr rfl)

/-- A source that is a prefix comes from one of the prefix tables. -/
theorem source_explain_glnPrefix {r : Resolver} {scheme value : String} {digits number : Nat}
    (h : (r.explain scheme value).source = .glnPrefix digits number) :
    ∃ table ∈ [r.three, r.four, r.five], digits = table.digits ∧ number < 10 ^ table.digits := by
  unfold explain at h
  split at h
  · obtain ⟨table, htable, n, hlt, hsource⟩ | hsource | hsource := source_explainGln_cases r value
    · rw [hsource] at h
      cases h
      exact ⟨table, htable, rfl, hlt⟩
    · rw [hsource] at h
      cases h
    · rw [hsource] at h
      cases h
  · split at h <;> cases h

/-- The source of a location number is no key of a scheme. -/
theorem source_explainGln_ne_scheme (r : Resolver) (value key : String) :
    (r.explainGln value).source ≠ .scheme key := by
  obtain ⟨_, -, _, -, hsource⟩ | hsource | hsource := source_explainGln_cases r value <;>
    simp [hsource]

/-- A resolver whose tables stand at their lengths gives sources that JSON holds as they are. -/
theorem exact_toDatum_source {r : Resolver} (hr : r.Wf) (scheme value : String) :
    (r.explain scheme value).source.toDatum.Exact := by
  cases h : (r.explain scheme value).source with
  | scheme key =>
    refine .record (by simp) ?_
    simp [Datum.Exact.text]
  | glnPrefix digits number =>
    obtain ⟨table, htable, rfl, hnumber⟩ := source_explain_glnPrefix h
    have hdigits : table.digits ≤ 5 := by
      have hthree : r.three.digits = 3 := (hr 3 _ rfl).1
      have hfour : r.four.digits = 4 := (hr 4 _ rfl).1
      have hfive : r.five.digits = 5 := (hr 5 _ rfl).1
      simp only [List.mem_cons, List.not_mem_nil, or_false] at htable
      rcases htable with rfl | rfl | rfl <;> omega
    have hmax : 10 ^ 5 ≤ Datum.maxWhole := by decide
    have hpow : 10 ^ table.digits ≤ 10 ^ 5 := Nat.pow_le_pow_right (by decide) hdigits
    refine .record (by simp) ?_
    simp only [List.mem_cons, List.not_mem_nil, or_false]
    rintro f (rfl | rfl | rfl)
    · exact .text _
    · exact .integer (by omega)
    · exact .integer (by omega)
  | schemeDefault | customOverride | glnUnresolved =>
    refine .record (by simp) ?_
    simp [Datum.Exact.text]

end EndpointCountry.Resolver
