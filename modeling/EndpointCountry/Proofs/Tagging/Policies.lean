import EndpointCountry.Proofs.Tagging.Rows

/-!
# The three policies on one table

The same table is tagged three times, and only the policy for malformed endpoints differs. The
policies meet the same entries. What they do about an entry differs: one gives up at the first, one
leaves the row out, one keeps it with no country. Without entries they cannot be told apart.

* `kept_outcomes`, `outcomes_eq_of_rejections_eq_nil` — what a run keeps, policy by policy.
* `rows_skip_eq` — leaving rows out and keeping all of them, compared.
* `Agreement`, `policies_agree` — how the three runs go together.
-/

namespace EndpointCountry.Tagging

/-! ## What a run keeps -/

section Kept

variable {mapper : Mapper} {l : Layout} {place number : Nat} {rows : List (List String)}

/-- The rows that are kept, with their countries: those without an entry, or all of them. -/
theorem kept_outcomes (policy : Config.Policy) :
    (outcomes mapper l policy place number rows).filterMap Outcome.kept? =
      ((rows.zipIdx number).filter fun p =>
        policy = .unknown ∨ rejection? mapper l p.2 p.1 = none).map fun p =>
          (countryOrUnknown mapper l p.1, withCountry mapper l place p.1) := by
  rw [outcomes, List.filterMap_map, ← List.filterMap_eq_map, List.filterMap_filter]
  refine List.filterMap_congr fun p _ => ?_
  simp only [Function.comp_apply, kept?_outcome, decide_eq_true_eq]

/-- All rows are kept where none is left out. -/
theorem kept_outcomes_unknown :
    (outcomes mapper l .unknown place number rows).filterMap Outcome.kept? =
      rows.map fun row => (countryOrUnknown mapper l row, withCountry mapper l place row) := by
  rw [kept_outcomes, List.filter_eq_self.2 (by simp)]
  conv_rhs => rw [← List.zipIdx_map_fst number rows, List.map_map]
  rfl

/-- A row has an entry exactly where its number is among those of the entries. -/
theorem mem_map_row_rejections {p : List String × Nat} (hp : p ∈ rows.zipIdx number) :
    p.2 ∈ (rejections mapper l number rows).map (·.row) ↔ rejection? mapper l p.2 p.1 ≠ none := by
  rw [Option.ne_none_iff_exists']
  constructor
  · intro h
    obtain ⟨i, hi, hnumber⟩ := List.mem_map.1 h
    obtain ⟨row, hrow, hi⟩ := mem_rejections.1 hi
    -- both rows have the number of the entry, so they are one
    rw [hnumber] at hrow hi
    have hsame : row = p.1 := by
      have hp : (p.1, p.2) ∈ rows.zipIdx number := hp
      rw [List.mk_mem_zipIdx_iff_le_and_getElem?_sub] at hp hrow
      exact Option.some.inj (hrow.2.symm.trans hp.2)
    rw [hsame] at hi
    exact ⟨i, hi⟩
  · rintro ⟨i, hi⟩
    obtain hnumber := row_of_rejection? hi
    refine List.mem_map.2 ⟨i, mem_rejections.2 ⟨p.1, ?_, ?_⟩, hnumber⟩
    · rwa [hnumber]
    · rwa [hnumber]

/-- Without entries the policies have the same outcomes. -/
theorem outcomes_eq_of_rejections_eq_nil (h : rejections mapper l number rows = [])
    (policy other : Config.Policy) :
    outcomes mapper l policy place number rows = outcomes mapper l other place number rows := by
  refine List.map_congr_left fun p hp => ?_
  have hnone : rejection? mapper l p.2 p.1 = none := by
    by_contra hsome
    have hmem := (mem_map_row_rejections hp).2 hsome
    rw [h] at hmem
    cases hmem
  simp only [outcome, hnone]

end Kept

/-- Rows without those of some numbers, counted from one. -/
def rowsWithout (numbers : List Nat) (rows : List (List String)) : List (List String) :=
  ((rows.zipIdx 1).filter fun p => p.2 ∉ numbers).map (·.1)

/-- Leaving out the rows with an entry keeps what is left of all rows without them. -/
theorem rows_skip_eq (mapper : Mapper) (l : Layout) (place : Nat) (rows : List (List String)) :
    ((outcomes mapper l .skip place 1 rows).filterMap Outcome.kept?).map (·.2) =
      rowsWithout ((rejections mapper l 1 rows).map (·.row))
        (((outcomes mapper l .unknown place 1 rows).filterMap Outcome.kept?).map (·.2)) := by
  rw [kept_outcomes_unknown, kept_outcomes, rowsWithout, List.map_map, List.map_map,
    List.zipIdx_map, List.filter_map, List.map_map]
  have hkeep : ∀ p ∈ rows.zipIdx 1,
      decide ((.skip : Config.Policy) = .unknown ∨ rejection? mapper l p.2 p.1 = none) =
        decide (p.2 ∉ (rejections mapper l 1 rows).map (·.row)) := by
    intro p hp
    simp only [mem_map_row_rejections hp, reduceCtorEq, false_or, not_not]
  rw [List.filter_congr hkeep]
  rfl

/-! ## The three runs -/

/-- A result with another time. -/
def Result.datedAt (r : Result) (time : String) : Result :=
  { r with summary := { r.summary with generatedAt := time } }

/-- The run under a policy; every policy has a time of its own. -/
def transformUnder (mapper : Mapper) (config : Config.Batch) (time : Config.Policy → String)
    (table : Delimited.Table) (policy : Config.Policy) : Except Fault Result :=
  transform mapper { config with policy } (time policy) table

/-- How the runs under the three policies go together, where the columns are there. -/
structure Agreement (config : Config.Batch) (time : Config.Policy → String)
    (run : Config.Policy → Except Fault Result) (skip unknown : Result) : Prop where
  run_skip : run .skip = .ok skip
  run_unknown : run .unknown = .ok unknown
  invalid_eq : skip.summary.invalid = unknown.summary.invalid
  /-- Leaving rows out is keeping all of them and taking those with an entry away. -/
  rows_eq : skip.table.rows =
    rowsWithout (unknown.summary.invalid.map (·.row)) unknown.table.rows
  /-- Rows with an entry that are kept have no country. -/
  kept : ∀ i ∈ unknown.summary.invalid, ∃ row, (row, i.row) ∈ unknown.table.rows.zipIdx 1 ∧
    row[unknown.table.headers.idxOf config.output.countryName]? = some "ZZ"
  exists_fail_iff : (∃ result, run .fail = .ok result) ↔ unknown.summary.invalid = []
  /-- Without entries the three results are the same up to their times. -/
  run_fail : unknown.summary.invalid = [] →
    run .fail = .ok (unknown.datedAt (time .fail)) ∧ skip = unknown.datedAt (time .skip)
  /-- With entries, giving up names the first one. -/
  run_fail_error : ∀ first ∈ unknown.summary.invalid.head?,
    run .fail = .error (.processing s!"row {first.row}: {first.reason}")
  /-- Schemes and values that stand apart are never malformed. -/
  split : ∀ scheme value, config.input.endpointColumns = .ok (.split scheme value) →
    unknown.summary.invalid = []

theorem rejections_split (mapper : Mapper) (scheme value number : Nat)
    (rows : List (List String)) : rejections mapper (.split scheme value) number rows = [] := by
  refine List.eq_nil_iff_forall_not_mem.2 fun i hi => ?_
  obtain ⟨_, -, hi⟩ := mem_rejections.1 hi
  obtain ⟨_, _, hl, -⟩ := rejection?_eq_some_iff.1 hi
  cases hl

section Runs

variable (mapper : Mapper) (config : Config.Batch) (time : Config.Policy → String)
  (table : Delimited.Table)

/-- What the run under a policy gives that does not give up. -/
def resultUnder (l : Layout) (policy : Config.Policy) : Result :=
  resultOf mapper { config with policy } (time policy) table l

variable {mapper config time table} {l : Layout}

theorem invalid_resultUnder (policy : Config.Policy) :
    (resultUnder mapper config time table l policy).summary.invalid =
      rejections mapper l 1 table.rows :=
  invalid_resultOf l

theorem transformUnder_eq_ok (hl : locate config.input table.headers = .ok l)
    {policy : Config.Policy} (h : policy = .fail → rejections mapper l 1 table.rows = []) :
    transformUnder mapper config time table policy =
      .ok (resultUnder mapper config time table l policy) :=
  transform_eq_ok_iff.2 ⟨l, hl, h, rfl⟩

/-- Without entries the result under a policy is that under another, but for the time. -/
theorem resultUnder_eq_datedAt (h : rejections mapper l 1 table.rows = [])
    (policy other : Config.Policy) :
    resultUnder mapper config time table l policy =
      (resultUnder mapper config time table l other).datedAt (time policy) := by
  simp only [resultUnder, resultOf, Result.datedAt,
    outcomes_eq_of_rejections_eq_nil h policy other]
  rfl

/-- A row with an entry that is kept stands at its number, without a country. -/
theorem exists_row_of_mem_rejections {i : InvalidRow} (hi : i ∈ rejections mapper l 1 table.rows) :
    ∃ row, (row, i.row) ∈ (resultUnder mapper config time table l .unknown).table.rows.zipIdx 1 ∧
      row[(resultUnder mapper config time table l .unknown).table.headers.idxOf
        config.output.countryName]? = some "ZZ" := by
  have hrows : (resultUnder mapper config time table l .unknown).table.rows =
      table.rows.map
        (withCountry mapper l (table.headers.idxOf config.output.countryName)) := by
    simp only [resultUnder, resultOf, kept_outcomes_unknown, List.map_map]
    rfl
  have hheaders : (resultUnder mapper config time table l .unknown).table.headers =
      (placeCountry table.headers config.output.countryName).1 := rfl
  obtain ⟨row, hrow, hrejection⟩ := mem_rejections.1 hi
  refine ⟨withCountry mapper l (table.headers.idxOf config.output.countryName) row, ?_, ?_⟩
  · rw [hrows, List.zipIdx_map]
    exact List.mem_map_of_mem hrow
  · rw [hheaders, idxOf_placeCountry, withCountry, getElem?_setCell_self,
      countryOrUnknown_of_rejection? hrejection]
    rfl

theorem agreement_resultUnder (hl : locate config.input table.headers = .ok l) :
    Agreement config time (transformUnder mapper config time table)
      (resultUnder mapper config time table l .skip)
      (resultUnder mapper config time table l .unknown) := by
  have hinvalid (policy : Config.Policy) :
      (resultUnder mapper config time table l policy).summary.invalid =
        rejections mapper l 1 table.rows := invalid_resultUnder policy
  constructor
  case run_skip => exact transformUnder_eq_ok hl (by simp)
  case run_unknown => exact transformUnder_eq_ok hl (by simp)
  case invalid_eq => rw [hinvalid, hinvalid]
  case rows_eq =>
    rw [hinvalid]
    exact rows_skip_eq mapper l _ table.rows
  case kept =>
    intro i hi
    rw [hinvalid] at hi
    exact exists_row_of_mem_rejections hi
  case exists_fail_iff =>
    rw [hinvalid]
    constructor
    · rintro ⟨result, hresult⟩
      obtain ⟨l', hl', hfail, -⟩ := transform_eq_ok_iff.1 hresult
      cases hl.symm.trans hl'
      exact hfail rfl
    · intro hnil
      exact ⟨_, transformUnder_eq_ok hl fun _ => hnil⟩
  case run_fail =>
    intro hnil
    rw [hinvalid] at hnil
    rw [transformUnder_eq_ok hl fun _ => hnil, ← resultUnder_eq_datedAt hnil,
      ← resultUnder_eq_datedAt hnil]
    exact ⟨rfl, rfl⟩
  case run_fail_error =>
    intro first hfirst
    rw [hinvalid] at hfirst
    exact transform_eq_error_iff.2 (.inr ⟨l, hl, rfl, first, hfirst, rfl⟩)
  case split =>
    intro scheme value hsplit
    obtain ⟨columns, hcolumns, -, rfl⟩ := locate_eq_ok_iff.1 hl
    cases hsplit.symm.trans hcolumns
    rw [hinvalid]
    exact rejections_split mapper _ _ 1 table.rows

/-- A table is tagged under each of the three policies. If a column is not there, the three runs
stop with the same fault. Otherwise only giving up can stop, and the results agree. -/
theorem policies_agree (mapper : Mapper) (config : Config.Batch) (time : Config.Policy → String)
    (table : Delimited.Table) :
    (∀ fault, locate config.input table.headers = .error fault →
      ∀ policy, transformUnder mapper config time table policy = .error fault) ∧
    ∀ l, locate config.input table.headers = .ok l →
      ∃ skip unknown,
        Agreement config time (transformUnder mapper config time table) skip unknown := by
  constructor
  · intro fault hfault policy
    exact transform_eq_error_iff.2 (.inl hfault)
  · intro l hl
    exact ⟨_, _, agreement_resultUnder hl⟩

/-- The second row is malformed; the runs agree on that, and giving up names it. -/
theorem agreement_of_second_row :
    let config : Config.Batch :=
      ⟨⟨"night", none⟩, ⟨"in.csv", none, some "receiver", none, none⟩, ⟨"out", none, none, none⟩,
        {}, .fail⟩
    let run := transformUnder (.ofResolve fun _ _ => .of 'D' 'K') config (fun _ => "")
      ⟨["receiver"], [["GLN:5"], ["5"], ["GLN:7"]]⟩
    (∃ skip unknown, Agreement config (fun _ => "") run skip unknown ∧
      skip.table.rows = [["GLN:5", "DK"], ["GLN:7", "DK"]] ∧
      unknown.table.rows = [["GLN:5", "DK"], ["5", "ZZ"], ["GLN:7", "DK"]]) ∧
    run .fail = .error (.processing
      "row 2: Invalid argument: invalid endpoint format '5', expected 'type:value'") := by
  intro config run
  obtain ⟨skip, unknown, h⟩ := (policies_agree (.ofResolve fun _ _ => .of 'D' 'K') config (fun _ => "")
    ⟨["receiver"], [["GLN:5"], ["5"], ["GLN:7"]]⟩).2 (.joined 0) rfl
  have hskip : run .skip = .ok skip := h.run_skip
  have hunknown : run .unknown = .ok unknown := h.run_unknown
  refine ⟨⟨skip, unknown, h, ?_, ?_⟩, rfl⟩
  · cases hskip
    rfl
  · cases hunknown
    rfl

end Runs

end EndpointCountry.Tagging
