import EndpointCountry.Proofs.Tagging.Policies
import EndpointCountry.Proofs.Tagging.Tally

/-!
# The account of a batch

Whatever the policy and however ragged the rows, the account of a tagged table can be checked
against the table that was given and the one that came out, without the run that made it: every row
is counted once, with the country that stands in it, and the entries are those of the rejected
endpoints.

* `length_kept_add_skipped` — a row is kept or left out.
* `count_kept` — countries are counted as they stand in the rows.
* `skipped_eq`, `length_rejections_le` — how many rows have an entry.
* `Accurate`, `accurate_of_transform` — the account is exact.
-/

namespace EndpointCountry.Tagging

section Outcomes

variable {mapper : Mapper} {l : Layout} {policy : Config.Policy} {place number : Nat}
  {rows : List (List String)}

theorem isSkipped_eq (o : Outcome) : o.isSkipped = o.kept?.isNone := by
  cases o <;> rfl

/-- Every row is kept or left out. -/
theorem length_kept_add_skipped (os : List Outcome) :
    (os.filterMap Outcome.kept?).length + os.countP Outcome.isSkipped = os.length := by
  rw [List.length_filterMap_eq_countP, List.length_eq_countP_add_countP fun o => o.kept?.isSome]
  congr 2
  funext o
  rw [isSkipped_eq]
  cases o.kept? <;> rfl

theorem length_outcomes :
    (outcomes mapper l policy place number rows).length = rows.length := by
  rw [outcomes, List.length_map, List.length_zipIdx]

/-- A row that is kept has its country at the place. -/
theorem cell_of_mem_kept {p : Country × List String}
    (hp : p ∈ (outcomes mapper l policy place number rows).filterMap Outcome.kept?) :
    p.2[place]? = some p.1.text := by
  rw [kept_outcomes] at hp
  obtain ⟨q, -, rfl⟩ := List.mem_map.1 hp
  exact getElem?_setCell_self ..

/-- A country is counted as often as it stands in the rows that are kept. -/
theorem count_kept (country : Country) :
    (((outcomes mapper l policy place number rows).filterMap Outcome.kept?).map (·.1)).count
        country =
      (((outcomes mapper l policy place number rows).filterMap Outcome.kept?).map (·.2)).countP
        fun row => row[place]? = some country.text := by
  rw [List.count, List.countP_map, List.countP_map]
  refine List.countP_congr fun p hp => ?_
  simp only [Function.comp_apply, beq_iff_eq, decide_eq_true_eq, cell_of_mem_kept hp,
    Option.some.injEq]
  constructor
  · rintro rfl
    rfl
  · exact Country.text_injective

theorem isSkipped_outcome {row : List String} :
    (outcome mapper l policy place number row).isSkipped =
      (policy ≠ .unknown && (rejection? mapper l number row).isSome) := by
  unfold outcome
  cases rejection? mapper l number row with
  | none => simp [Outcome.isSkipped]
  | some i => cases policy <;> rfl

/-- The rows that are left out are those with an entry, unless the policy keeps them. -/
theorem skipped_eq :
    (outcomes mapper l policy place number rows).countP Outcome.isSkipped =
      if policy = .unknown then 0 else (rejections mapper l number rows).length := by
  rw [outcomes, rejections, List.countP_map, List.length_filterMap_eq_countP]
  split
  · rename_i hpolicy
    rw [List.countP_eq_zero]
    intro p _
    simp [isSkipped_outcome, hpolicy]
  · rename_i hpolicy
    congr 1
    funext p
    simp [isSkipped_outcome, hpolicy]

/-- Rows with an entry that are kept count as rows without a country. -/
theorem length_rejections_le :
    (rejections mapper l number rows).length ≤
      (((outcomes mapper l .unknown place number rows).filterMap Outcome.kept?).map
        (·.1)).count .unknown := by
  rw [kept_outcomes, List.filter_eq_self.2 (by simp), List.map_map, List.count, List.countP_map,
    rejections, List.length_filterMap_eq_countP]
  refine List.countP_mono_left fun p _ hp => ?_
  obtain ⟨i, hi⟩ := Option.isSome_iff_exists.1 hp
  simpa using countryOrUnknown_of_rejection? hi

end Outcomes

/-! ## The account -/

/-- How many rows of a result have a country in the column for countries. -/
def rowsOf (config : Config.Batch) (result : Result) (country : Country) : Nat :=
  result.table.rows.countP fun row =>
    row[result.table.headers.idxOf config.output.countryName]? = some country.text

/-- An entry is about a row of a table whose endpoint is rejected. -/
def Rejected (mapper : Mapper) (input : Config.Input) (table : Delimited.Table)
    (i : InvalidRow) : Prop :=
  ∃ column row fault, input.endpointColumns = .ok (.joined column) ∧
    (row, i.row) ∈ table.rows.zipIdx 1 ∧
    i.endpoint = cellAt row (table.headers.idxOf column) ∧
    mapper.resolveEndpoint i.endpoint = .error fault ∧ i.reason = fault.message

/-- The account of a result agrees with the table that was given and the one that came out. -/
structure Accurate (mapper : Mapper) (config : Config.Batch) (table : Delimited.Table)
    (result : Result) : Prop where
  totalRows : result.summary.totalRows = table.rows.length
  taggedRows : result.summary.taggedRows = result.table.rows.length
  tagged_add_skipped :
    result.summary.taggedRows + result.summary.skippedRows = result.summary.totalRows
  /-- A country has an entry exactly where it has rows, and the entry is their number. -/
  perCountry : ∀ country, result.summary.perCountry.lookup country =
    if rowsOf config result country = 0 then none else some (rowsOf config result country)
  /-- No country has a second entry. -/
  perCountry_ordered : Ordered result.summary.perCountry
  perCountry_sum : (result.summary.perCountry.map (·.2)).sum = result.summary.taggedRows
  unknownRows : result.summary.unknownRows = rowsOf config result .unknown
  invalid_ordered : result.summary.invalid.Pairwise (·.row < ·.row)
  invalid_bounds : ∀ i ∈ result.summary.invalid, 1 ≤ i.row ∧ i.row ≤ result.summary.totalRows
  mem_invalid_iff : ∀ i, i ∈ result.summary.invalid ↔ Rejected mapper config.input table i
  skip : config.policy = .skip → result.summary.skippedRows = result.summary.invalid.length
  unknown : config.policy = .unknown →
    result.summary.skippedRows = 0 ∧ result.summary.invalid.length ≤ result.summary.unknownRows
  fail : config.policy = .fail → result.summary.invalid = [] ∧ result.summary.skippedRows = 0

section Account

variable {mapper : Mapper} {config : Config.Batch} {generatedAt : String}
  {table : Delimited.Table} {l : Layout}

theorem mem_rejections_iff_rejected (hl : locate config.input table.headers = .ok l)
    {i : InvalidRow} :
    i ∈ rejections mapper l 1 table.rows ↔ Rejected mapper config.input table i := by
  obtain ⟨columns, hcolumns, -, rfl⟩ := locate_eq_ok_iff.1 hl
  simp only [mem_rejections, rejection?_eq_some_iff, Rejected]
  constructor
  · rintro ⟨row, hrow, place, fault, hplace, hfault, hi⟩
    cases columns with
    | split scheme value => cases hplace
    | joined column =>
      cases hplace
      have hendpoint : i.endpoint = cellAt row (table.headers.idxOf column) := by rw [hi]
      exact ⟨column, row, fault, hcolumns, hrow, hendpoint, hendpoint ▸ hfault, by rw [hi]⟩
  · rintro ⟨column, row, fault, hjoined, hrow, hendpoint, hfault, hreason⟩
    cases hcolumns.symm.trans hjoined
    refine ⟨row, hrow, _, fault, rfl, hendpoint ▸ hfault, ?_⟩
    obtain ⟨n, endpoint, reason⟩ := i
    subst hendpoint hreason
    rfl

theorem rowsOf_resultOf (country : Country) :
    rowsOf config (resultOf mapper config generatedAt table l) country =
      (((outcomes mapper l config.policy (table.headers.idxOf config.output.countryName) 1
        table.rows).filterMap Outcome.kept?).map (·.1)).count country := by
  have hheaders : (resultOf mapper config generatedAt table l).table.headers =
      (placeCountry table.headers config.output.countryName).1 := rfl
  rw [rowsOf, hheaders, idxOf_placeCountry, count_kept]
  rfl

/-- The account of a table that was tagged is exact: rows are counted once, under the country that
stands in them, and the entries are those of the rows whose endpoint is rejected. -/
theorem accurate_of_transform {result : Result}
    (h : transform mapper config generatedAt table = .ok result) :
    Accurate mapper config table result := by
  obtain ⟨l, hl, hfail, rfl⟩ := transform_eq_ok_iff.1 h
  have hinvalid : (resultOf mapper config generatedAt table l).summary.invalid =
      rejections mapper l 1 table.rows := filterMap_invalid?_outcomes
  have hskipped : (resultOf mapper config generatedAt table l).summary.skippedRows =
      if config.policy = .unknown then 0 else (rejections mapper l 1 table.rows).length :=
    skipped_eq
  have hunknown : (resultOf mapper config generatedAt table l).summary.unknownRows =
      rowsOf config (resultOf mapper config generatedAt table l) .unknown :=
    (countOf_tally _ _).trans (rowsOf_resultOf .unknown).symm
  constructor
  case totalRows => rfl
  case taggedRows => exact (List.length_map _).symm
  case tagged_add_skipped => exact (length_kept_add_skipped _).trans length_outcomes
  case perCountry =>
    intro country
    rw [rowsOf_resultOf]
    exact lookup_tally _ country
  case perCountry_ordered => exact ordered_tally _
  case perCountry_sum => exact (sum_tally _).trans (List.length_map _)
  case unknownRows => exact hunknown
  case invalid_ordered =>
    rw [hinvalid]
    exact pairwise_rejections 1 table.rows
  case invalid_bounds =>
    intro i hi
    rw [hinvalid] at hi
    obtain ⟨row, hrow, -⟩ := mem_rejections.1 hi
    obtain ⟨hlow, hhigh, -⟩ := List.mem_zipIdx hrow
    exact ⟨hlow, Nat.le_of_lt_succ (by rwa [Nat.add_comm] at hhigh)⟩
  case mem_invalid_iff =>
    intro i
    rw [hinvalid]
    exact mem_rejections_iff_rejected hl
  case skip =>
    intro hpolicy
    rw [hinvalid, hskipped, hpolicy, if_neg (by simp)]
  case unknown =>
    intro hpolicy
    refine ⟨by rw [hskipped, if_pos hpolicy], ?_⟩
    rw [hinvalid, hunknown, rowsOf_resultOf, hpolicy]
    exact length_rejections_le
  case fail =>
    intro hpolicy
    rw [hinvalid, hskipped, hpolicy, if_neg (by simp), hfail hpolicy]
    exact ⟨rfl, rfl⟩

/-- The second row has no cell for the endpoint, the third has one too many. -/
theorem accurate_of_ragged_rows :
    ∃ result, transform (.ofResolve fun _ _ => .of 'D' 'K')
        ⟨⟨"night", none⟩, ⟨"in.csv", none, some "receiver", none, none⟩, ⟨"out", none, none, none⟩,
          {}, .unknown⟩ ""
        ⟨["id", "receiver"], [["1", "GLN:5"], ["2"], ["3", "x", "y"]]⟩ = .ok result ∧
      result.table.rows = [["1", "GLN:5", "DK"], ["2", "", "ZZ"], ["3", "x", "ZZ"]] ∧
      result.summary.perCountry = [(.of 'D' 'K', 1), (.unknown, 2)] ∧
      Accurate (.ofResolve fun _ _ => .of 'D' 'K')
        ⟨⟨"night", none⟩, ⟨"in.csv", none, some "receiver", none, none⟩, ⟨"out", none, none, none⟩,
          {}, .unknown⟩
        ⟨["id", "receiver"], [["1", "GLN:5"], ["2"], ["3", "x", "y"]]⟩ result :=
  ⟨_, rfl, rfl, rfl, accurate_of_transform rfl⟩

end Account

end EndpointCountry.Tagging
