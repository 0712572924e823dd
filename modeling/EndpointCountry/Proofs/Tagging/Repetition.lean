import EndpointCountry.Proofs.Tagging.Accounting

/-!
# Tagging a table twice

The country goes into a column of its own, so the columns of the endpoint are in the tagged table
what they were in the table that was given: they stand in the same places, and their cells are the
same, a cell that was not there and an empty one being alike. Tagging the tagged table therefore
finds the same countries and puts them where they already are.

* `cellAt_setCell`, `setCell_setCell` — cells of a row that was given another cell.
* `places_placeCountry` — the columns of the endpoint keep their places.
* `countryOf_setCell` — so does a row its country.
* `kept_again` — the rows that are kept are kept as they are.
* `Retagged`, `retagged_of_transform` — a table.
-/

namespace EndpointCountry.Tagging

/-! ## Cells -/

/-- A cell at another place is what it was. One that was not there is empty in both rows. -/
theorem cellAt_setCell {row : List String} {place i : Nat} (hne : i ≠ place) (cell : String) :
    cellAt (setCell row place cell) i = cellAt row i := by
  unfold cellAt
  by_cases hlt : i < row.length
  · rw [getElem?_setCell_of_lt hne hlt]
  · have hle : row.length ≤ i := Nat.le_of_not_lt hlt
    rw [List.getElem?_eq_none hle]
    by_cases hout : i < (setCell row place cell).length
    · rw [getElem?_setCell_of_le hne hle cell hout]
      rfl
    · rw [List.getElem?_eq_none (Nat.le_of_not_lt hout)]

/-- The later of two cells at a place counts. -/
theorem setCell_setCell (row : List String) (place : Nat) (cell other : String) :
    setCell (setCell row place cell) place other = setCell row place other := by
  have hfull : place + 1 - (setCell row place cell).length = 0 := by
    rw [length_setCell]
    omega
  show (setCell row place cell ++ List.replicate _ "").set place other = _
  rw [hfull, List.replicate_zero, List.append_nil, setCell, List.set_set]
  rfl

/-! ## Columns -/

/-- No cell of the endpoint stands at a place. -/
def Layout.Avoids (place : Nat) : Layout → Prop
  | .joined column => column ≠ place
  | .split scheme value => scheme ≠ place ∧ value ≠ place

section Columns

variable {columns : Config.EndpointColumns} {headers : List String} {name : String}

/-- Columns of different names stand in different places. -/
theorem avoids_places (hmem : ∀ column ∈ columns.names, column ∈ headers)
    (hname : name ∉ columns.names) :
    (columns.places headers).Avoids (headers.idxOf name) := by
  have hne : ∀ column ∈ columns.names, headers.idxOf column ≠ headers.idxOf name := by
    intro column hcolumn hplace
    have hsame : column = name := (List.idxOf_inj (hmem column hcolumn)).1 hplace
    exact hname (hsame ▸ hcolumn)
  cases columns with
  | joined column => exact hne column (by simp [Config.EndpointColumns.names])
  | split scheme value =>
    exact ⟨hne scheme (by simp [Config.EndpointColumns.names]),
      hne value (by simp [Config.EndpointColumns.names])⟩

/-- Columns that a header has stand in the same places with the column for countries. -/
theorem places_placeCountry (hmem : ∀ column ∈ columns.names, column ∈ headers) (name : String) :
    columns.places (placeCountry headers name).1 = columns.places headers := by
  rw [placeCountry_fst]
  by_cases hname : name ∈ headers
  · rw [if_pos hname]
  · rw [if_neg hname]
    cases columns with
    | joined column =>
      have hcolumn : column ∈ headers := hmem column (by simp [Config.EndpointColumns.names])
      simp only [Config.EndpointColumns.places, List.idxOf_append_of_mem hcolumn]
    | split scheme value =>
      have hscheme : scheme ∈ headers := hmem scheme (by simp [Config.EndpointColumns.names])
      have hvalue : value ∈ headers := hmem value (by simp [Config.EndpointColumns.names])
      simp only [Config.EndpointColumns.places, List.idxOf_append_of_mem hscheme,
        List.idxOf_append_of_mem hvalue]

theorem mem_placeCountry {column : String} (hcolumn : column ∈ headers) (name : String) :
    column ∈ (placeCountry headers name).1 := by
  rw [placeCountry_fst]
  by_cases hname : name ∈ headers <;> simp [hname, hcolumn]

/-- A header with the column for countries is left as it is. -/
theorem placeCountry_placeCountry (headers : List String) (name : String) :
    (placeCountry (placeCountry headers name).1 name).1 = (placeCountry headers name).1 := by
  have hname : name ∈ (placeCountry headers name).1 := by
    rw [placeCountry_fst]
    by_cases h : name ∈ headers <;> simp [h]
  rw [placeCountry_fst, if_pos hname]

end Columns

/-! ## Rows -/

section Rows

variable {mapper : Mapper} {l : Layout} {place : Nat} (hl : l.Avoids place)
include hl

/-- A cell that is not of the endpoint does not change what is said of the endpoint. -/
theorem countryOf_setCell (row : List String) (cell : String) :
    countryOf mapper l (setCell row place cell) = countryOf mapper l row := by
  cases l with
  | joined column => simp only [countryOf, cellAt_setCell hl]
  | split scheme value => simp only [countryOf, cellAt_setCell hl.1, cellAt_setCell hl.2]

theorem countryOrUnknown_withCountry (row : List String) :
    countryOrUnknown mapper l (withCountry mapper l place row) = countryOrUnknown mapper l row := by
  simp only [countryOrUnknown, withCountry, countryOf_setCell hl]

theorem withCountry_withCountry (row : List String) :
    withCountry mapper l place (withCountry mapper l place row) =
      withCountry mapper l place row := by
  rw [withCountry, countryOrUnknown_withCountry hl, withCountry, setCell_setCell]

theorem rejection?_withCountry (number : Nat) (row : List String) :
    rejection? mapper l number (withCountry mapper l place row) =
      rejection? mapper l number row := by
  simp only [rejection?, withCountry, countryOf_setCell hl]

/-- Rows with their countries have the entries that they had before. -/
theorem rejections_map_withCountry (number : Nat) (rows : List (List String)) :
    rejections mapper l number (rows.map (withCountry mapper l place)) =
      rejections mapper l number rows := by
  rw [rejections, List.zipIdx_map, List.filterMap_map, rejections]
  apply List.filterMap_congr
  intro p _
  exact rejection?_withCountry hl p.2 p.1

/-- A row that is kept is the row with its country, also where it is asked for once more. -/
theorem of_mem_kept {policy : Config.Policy} {number : Nat} {rows : List (List String)}
    {p : Country × List String}
    (hp : p ∈ (outcomes mapper l policy place number rows).filterMap Outcome.kept?) :
    countryOrUnknown mapper l p.2 = p.1 ∧ withCountry mapper l place p.2 = p.2 ∧
      (policy ≠ .unknown → ∀ n, rejection? mapper l n p.2 = none) := by
  rw [kept_outcomes] at hp
  obtain ⟨q, hq, rfl⟩ := List.mem_map.1 hp
  refine ⟨countryOrUnknown_withCountry hl q.1, withCountry_withCountry hl q.1, ?_⟩
  intro hpolicy n
  have hnone : rejection? mapper l q.2 q.1 = none := by
    have hkept := of_decide_eq_true (List.mem_filter.1 hq).2
    exact hkept.resolve_left hpolicy
  rw [rejection?_withCountry hl, rejection?_eq_none_iff]
  exact rejection?_eq_none_iff.1 hnone

/-- Among rows that are kept there is no entry, unless the policy is to keep them nevertheless. -/
theorem rejections_kept {policy : Config.Policy} (hpolicy : policy ≠ .unknown) (number n : Nat)
    (rows : List (List String)) :
    rejections mapper l n
      (((outcomes mapper l policy place number rows).filterMap Outcome.kept?).map (·.2)) = [] := by
  rw [List.eq_nil_iff_forall_not_mem]
  intro i hi
  obtain ⟨row, hrow, hentry⟩ := mem_rejections.1 hi
  obtain ⟨p, hp, rfl⟩ := List.mem_map.1 (List.fst_mem_of_mem_zipIdx hrow)
  rw [(of_mem_kept hl hp).2.2 hpolicy] at hentry
  cases hentry

/-- Rows that are kept are kept again, all of them and as they are. -/
theorem kept_again (policy : Config.Policy) (number n : Nat) (rows : List (List String)) :
    (outcomes mapper l policy place n
        (((outcomes mapper l policy place number rows).filterMap Outcome.kept?).map
          (·.2))).filterMap Outcome.kept? =
      (outcomes mapper l policy place number rows).filterMap Outcome.kept? := by
  set kept := (outcomes mapper l policy place number rows).filterMap Outcome.kept? with hkept
  -- whatever the policy, it keeps the rows of `kept` as the policy does that keeps all rows
  have hpolicy : outcomes mapper l policy place n (kept.map (·.2)) =
      outcomes mapper l .unknown place n (kept.map (·.2)) := by
    by_cases h : policy = .unknown
    · rw [h]
    · exact outcomes_eq_of_rejections_eq_nil (rejections_kept hl h number n rows) _ _
  rw [hpolicy, kept_outcomes_unknown, List.map_map]
  conv_rhs => rw [← List.map_id kept]
  apply List.map_congr_left
  intro p hp
  obtain ⟨hcountry, hrow, -⟩ := of_mem_kept hl hp
  simp only [Function.comp_apply, hcountry, hrow, id_eq]

end Rows

/-! ## Tables -/

/-- The result for a tagged table beside the result that it came with. -/
structure Retagged (policy : Config.Policy) (result again : Result) : Prop where
  table_eq : again.table = result.table
  totalRows : again.summary.totalRows = result.table.rows.length
  taggedRows : again.summary.taggedRows = result.table.rows.length
  skippedRows : again.summary.skippedRows = 0
  perCountry : again.summary.perCountry = result.summary.perCountry
  unknownRows : again.summary.unknownRows = result.summary.unknownRows
  /-- Rows with a malformed endpoint are still there if they are kept, under the same numbers. -/
  invalid_unknown : policy = .unknown → again.summary.invalid = result.summary.invalid
  invalid_of_ne : policy ≠ .unknown → again.summary.invalid = []

section Tables

variable {mapper : Mapper} {config : Config.Batch} {generatedAt : String}
  {table : Delimited.Table} {l : Layout}

theorem retagged_resultOf (hl : l.Avoids (table.headers.idxOf config.output.countryName))
    (again : String) :
    Retagged config.policy (resultOf mapper config generatedAt table l)
      (resultOf mapper config again (resultOf mapper config generatedAt table l).table l) := by
  set result := resultOf mapper config generatedAt table l with hresult
  have hplace : result.table.headers.idxOf config.output.countryName =
      table.headers.idxOf config.output.countryName := idxOf_placeCountry _ _
  have hkept : (outcomes mapper l config.policy
        (result.table.headers.idxOf config.output.countryName) 1
        result.table.rows).filterMap Outcome.kept? =
      (outcomes mapper l config.policy (table.headers.idxOf config.output.countryName) 1
        table.rows).filterMap Outcome.kept? := by
    rw [hplace]
    exact kept_again hl config.policy 1 1 table.rows
  have hlength : result.table.rows.length =
      ((outcomes mapper l config.policy (table.headers.idxOf config.output.countryName) 1
        table.rows).filterMap Outcome.kept?).length := List.length_map _
  constructor
  case table_eq =>
    have hheaders : (placeCountry result.table.headers config.output.countryName).1 =
        result.table.headers := placeCountry_placeCountry table.headers config.output.countryName
    simp only [resultOf, hkept, hheaders]
    rfl
  case totalRows => rfl
  case taggedRows => simp only [resultOf, summarize, hkept, hlength]
  case skippedRows =>
    have hall := length_kept_add_skipped (outcomes mapper l config.policy
      (result.table.headers.idxOf config.output.countryName) 1 result.table.rows)
    rw [hkept, length_outcomes, hlength] at hall
    exact Nat.add_eq_left.1 hall
  case perCountry =>
    simp only [resultOf, summarize, hkept]
    rfl
  case unknownRows =>
    simp only [resultOf, summarize, hkept]
    rfl
  case invalid_unknown =>
    intro hpolicy
    have hrows : result.table.rows = table.rows.map
        (withCountry mapper l (table.headers.idxOf config.output.countryName)) := by
      simp only [hresult, resultOf, hpolicy, kept_outcomes_unknown, List.map_map]
      rfl
    rw [invalid_resultOf, hrows, rejections_map_withCountry hl, hresult, invalid_resultOf]
  case invalid_of_ne =>
    intro hpolicy
    rw [invalid_resultOf]
    exact rejections_kept hl hpolicy 1 1 table.rows

/-- Tagging a tagged table changes nothing and leaves no row out, if the column for countries is
none of the columns that hold the endpoints. The counts are the same again, and so are the entries
about malformed endpoints as far as their rows are still there. -/
theorem retagged_of_transform {result : Result}
    (hname : ∀ columns, config.input.endpointColumns = .ok columns →
      config.output.countryName ∉ columns.names)
    (h : transform mapper config generatedAt table = .ok result) (again : String) :
    ∃ second, transform mapper config again result.table = .ok second ∧
      Retagged config.policy result second := by
  obtain ⟨l, hlocate, -, rfl⟩ := transform_eq_ok_iff.1 h
  obtain ⟨columns, hcolumns, hmem, rfl⟩ := locate_eq_ok_iff.1 hlocate
  have hl : (columns.places table.headers).Avoids
      (table.headers.idxOf config.output.countryName) :=
    avoids_places hmem (hname columns hcolumns)
  have hheaders : (resultOf mapper config generatedAt table
      (columns.places table.headers)).table.headers =
        (placeCountry table.headers config.output.countryName).1 := rfl
  refine ⟨_, transform_eq_ok_iff.2 ⟨columns.places table.headers, ?_, ?_, rfl⟩,
    retagged_resultOf hl again⟩
  · rw [locate_eq_ok_iff, hheaders]
    refine ⟨columns, hcolumns, ?_, (places_placeCountry hmem _).symm⟩
    intro column hcolumn
    exact mem_placeCountry (hmem column hcolumn) _
  · intro hfail
    have hpolicy : config.policy ≠ .unknown := by simp [hfail]
    exact rejections_kept hl hpolicy 1 1 table.rows

/-- The first row is too short, the second is malformed and kept, and the header has two columns for
the endpoint. -/
theorem retagged_of_ragged_rows :
    let mapper : Mapper := .ofResolve fun _ _ => .of 'D' 'K'
    let config : Config.Batch :=
      ⟨⟨"night", none⟩, ⟨"in.csv", none, some "to", none, none⟩, ⟨"out", none, none, none⟩,
        {}, .unknown⟩
    let table : Delimited.Table := ⟨["to", "to"], [["GLN:5"], [":5", "x"], ["GLN:7", "y", "z"]]⟩
    let tagged : Delimited.Table :=
      ⟨["to", "to", "country_code"],
        [["GLN:5", "", "DK"], [":5", "x", "ZZ"], ["GLN:7", "y", "DK"]]⟩
    (∀ columns, config.input.endpointColumns = .ok columns →
      config.output.countryName ∉ columns.names) ∧
    ∃ result second, transform mapper config "" table = .ok result ∧ result.table = tagged ∧
      transform mapper config "later" tagged = .ok second ∧
      Retagged config.policy result second := by
  intro mapper config table tagged
  have hname : ∀ columns, config.input.endpointColumns = .ok columns →
      config.output.countryName ∉ columns.names := by
    intro columns hcolumns
    have hjoined : config.input.endpointColumns = .ok (.joined "to") := rfl
    rw [hjoined, Except.ok.injEq] at hcolumns
    rw [← hcolumns]
    decide
  have hrun : transform mapper config "" table = .ok _ := rfl
  obtain ⟨second, hsecond, hagain⟩ := retagged_of_transform hname hrun "later"
  exact ⟨hname, _, second, hrun, rfl, hsecond, hagain⟩

/-- The proviso stands for a reason: a country that takes the place of the endpoint is no endpoint
itself. -/
example :
    let config : Config.Batch :=
      ⟨⟨"night", none⟩, ⟨"in.csv", none, some "to", none, none⟩, ⟨"out", none, some "to", none⟩,
        {}, .skip⟩
    (transform (.ofResolve fun _ _ => .of 'D' 'K') config "" ⟨["to"], [["GLN:5"]]⟩).toOption.map (·.table) =
        some ⟨["to"], [["DK"]]⟩ ∧
      (transform (.ofResolve fun _ _ => .of 'D' 'K') config "" ⟨["to"], [["DK"]]⟩).toOption.map (·.table) =
        some ⟨["to"], []⟩ :=
  ⟨rfl, rfl⟩

end Tables

end EndpointCountry.Tagging
