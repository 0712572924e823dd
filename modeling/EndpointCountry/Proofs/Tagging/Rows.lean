import EndpointCountry.Proofs.Tagging.Columns

/-!
# Rows one by one

What is done with a row depends on the row, its number and the policy, not on the rows around it:
it has a country or an entry about its rejected endpoint, and the policy decides what becomes of
the latter. A run over rows is this, row by row, unless the policy is to give up and there is an
entry; then the first one ends it.

* `rejection?`, `countryOrUnknown`, `outcome` — what there is to a row.
* `tagRow_eq_ok_iff`, `tagRow_eq_error_iff` — one row.
* `invalid?_outcome`, `kept?_outcome` — what an outcome tells of its row.
* `tagRows_eq_ok_iff`, `tagRows_eq_error_iff` — a run over rows.
* `mem_rejections`, `pairwise_rejections` — the entries are those of the rows, in their order.
* `transform_eq_ok_iff`, `transform_eq_error_iff` — a table.
-/

namespace EndpointCountry.Tagging

section

variable (mapper : Mapper) (l : Layout)

/-- The entry about the endpoint of the row of a number, if it is rejected. -/
def rejection? (number : Nat) (row : List String) : Option InvalidRow :=
  match countryOf mapper l row with
  | .ok _ => none
  | .error ⟨endpoint, reason⟩ => some ⟨number, endpoint, reason⟩

/-- The country of a row; a rejected endpoint has none. -/
def countryOrUnknown (row : List String) : Country :=
  match countryOf mapper l row with
  | .ok country => country
  | .error _ => .unknown

/-- A row with its country at a place. -/
def withCountry (place : Nat) (row : List String) : List String :=
  setCell row place (countryOrUnknown mapper l row).text

/-- What becomes of the row of a number, unless it is given up. -/
def outcome (policy : Config.Policy) (place number : Nat) (row : List String) : Outcome :=
  match rejection? mapper l number row with
  | none => .tagged (countryOrUnknown mapper l row) (withCountry mapper l place row)
  | some invalid =>
    if policy = .unknown then .unknown invalid (withCountry mapper l place row)
    else .skipped invalid

/-- The entries about rows, counted from `number` on. -/
def rejections (number : Nat) (rows : List (List String)) : List InvalidRow :=
  (rows.zipIdx number).filterMap fun p => rejection? mapper l p.2 p.1

/-- What becomes of rows, counted from `number` on. -/
def outcomes (policy : Config.Policy) (place number : Nat) (rows : List (List String)) :
    List Outcome :=
  (rows.zipIdx number).map fun p => outcome mapper l policy place p.2 p.1

end

/-- The fault of a batch that is given up because of a row. -/
def givenUp (invalid : InvalidRow) : Fault :=
  .processing s!"row {invalid.row}: {invalid.reason}"

variable {mapper : Mapper} {l : Layout}

/-! ## One row -/

section Row

variable {policy : Config.Policy} {place number : Nat} {row : List String}

theorem tagRow_eq_ok_iff {o : Outcome} :
    tagRow mapper l policy place number row = .ok o ↔
      (policy = .fail → rejection? mapper l number row = none) ∧
        o = outcome mapper l policy place number row := by
  cases h : countryOf mapper l row with
  | ok country =>
    simp [tagRow, rejection?, outcome, withCountry, countryOrUnknown, h, eq_comm]
  | error rejection =>
    cases policy <;>
      simp [tagRow, rejection?, outcome, withCountry, countryOrUnknown, h, eq_comm]

theorem tagRow_eq_error_iff {fault : Fault} :
    tagRow mapper l policy place number row = .error fault ↔
      policy = .fail ∧ ∃ i, rejection? mapper l number row = some i ∧ fault = givenUp i := by
  cases h : countryOf mapper l row with
  | ok country => simp [tagRow, rejection?, h]
  | error rejection =>
    cases policy <;> simp [tagRow, rejection?, givenUp, h, eq_comm]

theorem countryOf_eq_error_iff {rejection : Rejection} :
    countryOf mapper l row = .error rejection ↔
      ∃ place fault, l = .joined place ∧
        mapper.resolveEndpoint (cellAt row place) = .error fault ∧
        rejection = ⟨cellAt row place, fault.message⟩ := by
  cases l with
  | split scheme value => simp [countryOf]
  | joined place =>
    cases h : mapper.resolveEndpoint (cellAt row place) with
    | ok country => simp [countryOf, Except.mapError, h]
    | error fault => simp [countryOf, Except.mapError, h, eq_comm]

/-- The rows with an entry: those with a rejected endpoint, which has to be a joined one. -/
theorem rejection?_eq_some_iff {i : InvalidRow} :
    rejection? mapper l number row = some i ↔
      ∃ place fault, l = .joined place ∧
        mapper.resolveEndpoint (cellAt row place) = .error fault ∧
        i = ⟨number, cellAt row place, fault.message⟩ := by
  have hentry : rejection? mapper l number row = some i ↔
      ∃ r, countryOf mapper l row = .error r ∧ i = ⟨number, r.endpoint, r.reason⟩ := by
    unfold rejection?
    cases countryOf mapper l row with
    | ok country => simp
    | error r => simp [eq_comm]
  simp only [hentry, countryOf_eq_error_iff]
  constructor
  · rintro ⟨_, ⟨place, fault, hplace, hfault, rfl⟩, rfl⟩
    exact ⟨place, fault, hplace, hfault, rfl⟩
  · rintro ⟨place, fault, hplace, hfault, rfl⟩
    exact ⟨_, ⟨place, fault, hplace, hfault, rfl⟩, rfl⟩

/-- Whether a row has an entry does not depend on its number. -/
theorem rejection?_eq_none_iff :
    rejection? mapper l number row = none ↔ ∃ country, countryOf mapper l row = .ok country := by
  unfold rejection?
  cases countryOf mapper l row with
  | ok country => simp
  | error rejection => simp

theorem row_of_rejection? {i : InvalidRow} (h : rejection? mapper l number row = some i) :
    i.row = number := by
  obtain ⟨_, _, _, _, rfl⟩ := rejection?_eq_some_iff.1 h
  rfl

theorem countryOrUnknown_of_rejection? {i : InvalidRow}
    (h : rejection? mapper l number row = some i) : countryOrUnknown mapper l row = .unknown := by
  unfold rejection? at h
  unfold countryOrUnknown
  cases hcountry : countryOf mapper l row with
  | ok country =>
    rw [hcountry] at h
    cases h
  | error rejection => rfl

theorem invalid?_outcome :
    (outcome mapper l policy place number row).invalid? = rejection? mapper l number row := by
  unfold outcome
  cases rejection? mapper l number row with
  | none => rfl
  | some i => cases policy <;> rfl

/-- A row is kept if it has no entry or the policy keeps it nevertheless. -/
theorem kept?_outcome :
    (outcome mapper l policy place number row).kept? =
      if policy = .unknown ∨ rejection? mapper l number row = none then
        some (countryOrUnknown mapper l row, withCountry mapper l place row)
      else none := by
  unfold outcome
  cases h : rejection? mapper l number row with
  | none => simp [Outcome.kept?]
  | some i =>
    rw [countryOrUnknown_of_rejection? h]
    cases policy <;> simp [Outcome.kept?]

end Row

/-! ## Rows -/

section Rows

variable {policy : Config.Policy} {place number : Nat} {rows : List (List String)}

theorem rejections_cons (number : Nat) (row : List String) (rows : List (List String)) :
    rejections mapper l number (row :: rows) =
      (rejection? mapper l number row).toList ++ rejections mapper l (number + 1) rows := by
  unfold rejections
  rw [List.zipIdx_cons, List.filterMap_cons]
  cases rejection? mapper l number row <;> rfl

theorem outcomes_cons (number : Nat) (row : List String) (rows : List (List String)) :
    outcomes mapper l policy place number (row :: rows) =
      outcome mapper l policy place number row ::
        outcomes mapper l policy place (number + 1) rows := rfl

theorem filterMap_invalid?_outcomes :
    (outcomes mapper l policy place number rows).filterMap Outcome.invalid? =
      rejections mapper l number rows := by
  rw [outcomes, rejections, List.filterMap_map]
  exact List.filterMap_congr fun p _ => invalid?_outcome

theorem mem_rejections {i : InvalidRow} :
    i ∈ rejections mapper l number rows ↔
      ∃ row, (row, i.row) ∈ rows.zipIdx number ∧ rejection? mapper l i.row row = some i := by
  simp only [rejections, List.mem_filterMap, Prod.exists]
  constructor
  · rintro ⟨row, n, hmem, hi⟩
    obtain rfl := row_of_rejection? hi
    exact ⟨row, hmem, hi⟩
  · rintro ⟨row, hmem, hi⟩
    exact ⟨row, i.row, hmem, hi⟩

/-- A row with a rejected endpoint has an entry, wherever it stands. -/
theorem exists_mem_rejections {row : List String} (hrow : row ∈ rows) {column : Nat}
    {fault : Fault} (hfault : mapper.resolveEndpoint (cellAt row column) = .error fault) :
    ∃ i, i ∈ rejections mapper (.joined column) number rows := by
  obtain ⟨n, hn⟩ := List.mem_iff_getElem?.1 hrow
  have hplace : (row, number + n) ∈ rows.zipIdx number := List.mk_add_mem_zipIdx_iff_getElem?.2 hn
  have hentry : rejection? mapper (.joined column) (number + n) row =
      some ⟨number + n, cellAt row column, fault.message⟩ :=
    rejection?_eq_some_iff.2 ⟨column, fault, rfl, hfault, rfl⟩
  exact ⟨⟨number + n, _, _⟩, mem_rejections.2 ⟨row, hplace, hentry⟩⟩

/-- The numbers of the entries increase. -/
theorem pairwise_rejections (number : Nat) (rows : List (List String)) :
    (rejections mapper l number rows).Pairwise (·.row < ·.row) := by
  have hnumbers : (rows.zipIdx number).Pairwise (·.2 < ·.2) := by
    rw [← List.pairwise_map, List.zipIdx_map_snd]
    exact List.pairwise_lt_range'
  unfold rejections
  refine List.Pairwise.filterMap _ ?_ hnumbers
  intro p q hlt i hi j hj
  rwa [row_of_rejection? hi, row_of_rejection? hj]

/-- A run goes through unless it has to give up a row. -/
theorem tagRows_eq_ok_iff {os : List Outcome} :
    tagRows mapper l policy place number rows = .ok os ↔
      (policy = .fail → rejections mapper l number rows = []) ∧
        os = outcomes mapper l policy place number rows := by
  induction rows generalizing number os with
  | nil => simp [tagRows, rejections, outcomes, eq_comm]
  | cons row rest ih =>
    rw [tagRows, bind_eq_ok_iff, rejections_cons, outcomes_cons]
    constructor
    · rintro ⟨o, ho, hrest⟩
      obtain ⟨os', hos', hpure⟩ := bind_eq_ok_iff.1 hrest
      obtain ⟨hrow, rfl⟩ := tagRow_eq_ok_iff.1 ho
      obtain ⟨hrows, rfl⟩ := ih.1 hos'
      cases hpure
      exact ⟨fun hfail => by simp [hrow hfail, hrows hfail], rfl⟩
    · rintro ⟨hfail, rfl⟩
      simp only [List.append_eq_nil_iff, Option.toList_eq_nil_iff] at hfail
      exact ⟨_, tagRow_eq_ok_iff.2 ⟨fun h => (hfail h).1, rfl⟩,
        bind_eq_ok_iff.2 ⟨_, ih.2 ⟨fun h => (hfail h).2, rfl⟩, rfl⟩⟩

/-- A run that gives up does so because of the first row with an entry. -/
theorem tagRows_eq_error_iff {fault : Fault} :
    tagRows mapper l policy place number rows = .error fault ↔
      policy = .fail ∧
        ∃ i, (rejections mapper l number rows).head? = some i ∧ fault = givenUp i := by
  induction rows generalizing number with
  | nil => simp [tagRows, rejections]
  | cons row rest ih =>
    rw [tagRows, bind_eq_error_iff, tagRow_eq_error_iff, rejections_cons]
    simp only [tagRow_eq_ok_iff, bind_eq_error_iff, ih]
    cases h : rejection? mapper l number row with
    | none => simp [pure, Except.pure]
    | some i =>
      simp only [Option.toList_some, List.singleton_append, List.head?_cons]
      constructor
      · rintro (hi | ⟨_, ⟨hnone, -⟩, ⟨hfail, -⟩ | ⟨_, -, hpure⟩⟩)
        · exact hi
        · exact absurd (hnone hfail) (by simp)
        · cases hpure
      · exact .inl

end Rows

/-! ## Tables -/

section Table

variable {config : Config.Batch} {generatedAt : String} {table : Delimited.Table}

/-- What a table becomes that is not given up. -/
def resultOf (mapper : Mapper) (config : Config.Batch) (generatedAt : String)
    (table : Delimited.Table) (l : Layout) : Result :=
  let place := table.headers.idxOf config.output.countryName
  let os := outcomes mapper l config.policy place 1 table.rows
  let headers := (placeCountry table.headers config.output.countryName).1
  ⟨⟨headers, (os.filterMap Outcome.kept?).map (·.2)⟩,
    summarize config.batch.name generatedAt table.rows.length os⟩

/-- The entries of a result are those of the rows. -/
theorem invalid_resultOf (l : Layout) :
    (resultOf mapper config generatedAt table l).summary.invalid =
      rejections mapper l 1 table.rows :=
  filterMap_invalid?_outcomes

theorem transform_eq_bind :
    transform mapper config generatedAt table =
      (do
        let l ← locate config.input table.headers
        let os ← tagRows mapper l config.policy
          (table.headers.idxOf config.output.countryName) 1 table.rows
        pure ⟨⟨(placeCountry table.headers config.output.countryName).1,
            (os.filterMap Outcome.kept?).map (·.2)⟩,
          summarize config.batch.name generatedAt table.rows.length os⟩) := by
  unfold transform locate
  rw [bind_assoc, ← placeCountry_snd]

theorem transform_eq_ok_iff {result : Result} :
    transform mapper config generatedAt table = .ok result ↔
      ∃ l, locate config.input table.headers = .ok l ∧
        (config.policy = .fail → rejections mapper l 1 table.rows = []) ∧
        result = resultOf mapper config generatedAt table l := by
  rw [transform_eq_bind]
  simp only [bind_eq_ok_iff, tagRows_eq_ok_iff]
  constructor
  · rintro ⟨l, hl, _, ⟨hfail, rfl⟩, hpure⟩
    cases hpure
    exact ⟨l, hl, hfail, rfl⟩
  · rintro ⟨l, hl, hfail, rfl⟩
    exact ⟨l, hl, _, ⟨hfail, rfl⟩, rfl⟩

theorem transform_eq_error_iff {fault : Fault} :
    transform mapper config generatedAt table = .error fault ↔
      locate config.input table.headers = .error fault ∨
        ∃ l, locate config.input table.headers = .ok l ∧ config.policy = .fail ∧
          ∃ i, (rejections mapper l 1 table.rows).head? = some i ∧ fault = givenUp i := by
  rw [transform_eq_bind]
  simp only [bind_eq_error_iff, tagRows_eq_error_iff, pure, Except.pure, reduceCtorEq, and_false,
    exists_false, or_false]

end Table

end EndpointCountry.Tagging
