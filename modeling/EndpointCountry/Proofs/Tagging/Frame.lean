import EndpointCountry.Proofs.Tagging.Rows

/-!
# What tagging leaves as it was

Of a row that is kept one cell changes, and the cells up to it are filled in where there are none.
The country in that cell is the one of the endpoint as the row was given, also where the column for
countries is a column of the endpoint. Rows that are left out shift those after them and change
nothing else.

* `verdict` — what a mapper says of the endpoint of a row, by the names of the columns.
* `CountryAt`, `countryAt_setCell` — a row and the row with its country.
* `Rewritten`, `rewritten_outcomes` — rows and what is kept of them, in order.
* `Framed`, `framed_of_transform` — a table.
-/

namespace EndpointCountry.Tagging

/-! ## The endpoint of a row -/

/-- What a mapper says of the endpoint of a row. The cells of the endpoint stand in the first column
of each name, and a cell that is not there is empty. -/
def verdict (mapper : Mapper) (columns : Config.EndpointColumns) (headers row : List String) :
    Except Fault Country :=
  match columns with
  | .joined column => mapper.resolveEndpoint (cellAt row (headers.idxOf column))
  | .split scheme value =>
    .ok (mapper.resolve (cellAt row (headers.idxOf scheme)) (cellAt row (headers.idxOf value)))

section Verdict

variable {mapper : Mapper} {columns : Config.EndpointColumns} {headers row : List String}

theorem rejection?_of_verdict_ok {country : Country} (number : Nat)
    (h : verdict mapper columns headers row = .ok country) :
    rejection? mapper (columns.places headers) number row = none ∧
      countryOrUnknown mapper (columns.places headers) row = country := by
  have hcountry : countryOf mapper (columns.places headers) row = .ok country := by
    cases columns with
    | joined column => exact mapError_eq_ok_iff.2 h
    | split scheme value =>
      cases h
      rfl
  simp only [rejection?, countryOrUnknown, hcountry, and_self]

theorem exists_rejection?_of_verdict_error {fault : Fault} (number : Nat)
    (h : verdict mapper columns headers row = .error fault) :
    ∃ i, rejection? mapper (columns.places headers) number row = some i := by
  cases columns with
  | joined column => exact ⟨_, rejection?_eq_some_iff.2 ⟨_, fault, rfl, h, rfl⟩⟩
  | split scheme value => cases h

end Verdict

/-! ## One row -/

/-- A row comes out with a country at a place, and with nothing else that it did not have but empty
cells up to there. -/
structure CountryAt (place : Nat) (country : Country) (row out : List String) : Prop where
  length_eq : out.length = max row.length (place + 1)
  cell_eq : out[place]? = some country.text
  unchanged : ∀ i, i ≠ place → i < row.length → out[i]? = row[i]?
  added : ∀ i, i ≠ place → row.length ≤ i → i < out.length → out[i]? = some ""

theorem countryAt_setCell (place : Nat) (country : Country) (row : List String) :
    CountryAt place country row (setCell row place country.text) where
  length_eq := length_setCell row place country.text
  cell_eq := getElem?_setCell_self row place country.text
  unchanged _ hne hlt := getElem?_setCell_of_lt hne hlt country.text
  added _ hne hle hlt := getElem?_setCell_of_le hne hle country.text hlt

/-! ## Rows in order -/

/-- Rows and what is kept of them, in the same order. What is done with a row is decided by the
judgement on its endpoint. -/
inductive Rewritten (judge : List String → Except Fault Country) (policy : Config.Policy)
    (place : Nat) : List (List String) → List (List String) → Prop
  | nil : Rewritten judge policy place [] []
  /-- A row with a country is kept with it. -/
  | tagged {row out : List String} {country : Country} {rows outs : List (List String)} :
    judge row = .ok country → CountryAt place country row out →
    Rewritten judge policy place rows outs →
    Rewritten judge policy place (row :: rows) (out :: outs)
  /-- A row with a rejected endpoint is kept without a country. -/
  | unknown {row out : List String} {fault : Fault} {rows outs : List (List String)} :
    policy = .unknown → judge row = .error fault → CountryAt place .unknown row out →
    Rewritten judge policy place rows outs →
    Rewritten judge policy place (row :: rows) (out :: outs)
  /-- A row with a rejected endpoint is left out. -/
  | skipped {row : List String} {fault : Fault} {rows outs : List (List String)} :
    policy = .skip → judge row = .error fault →
    Rewritten judge policy place rows outs →
    Rewritten judge policy place (row :: rows) outs

section Rows

variable {mapper : Mapper} {columns : Config.EndpointColumns} {headers : List String}
  {policy : Config.Policy} {place : Nat}

/-- What a run keeps of rows that it does not give up. -/
theorem rewritten_outcomes {number : Nat} {rows : List (List String)}
    (hfail : policy = .fail → rejections mapper (columns.places headers) number rows = []) :
    Rewritten (verdict mapper columns headers) policy place rows
      (((outcomes mapper (columns.places headers) policy place number rows).filterMap
        Outcome.kept?).map (·.2)) := by
  induction rows generalizing number with
  | nil => exact .nil
  | cons row rest ih =>
    rw [rejections_cons] at hfail
    have hrest := ih fun h => (List.append_eq_nil_iff.1 (hfail h)).2
    rw [outcomes_cons, List.filterMap_cons, kept?_outcome]
    cases hverdict : verdict mapper columns headers row with
    | ok country =>
      obtain ⟨hnone, hcountry⟩ := rejection?_of_verdict_ok number hverdict
      rw [if_pos (.inr hnone), withCountry, hcountry]
      exact .tagged hverdict (countryAt_setCell place country row) hrest
    | error fault =>
      obtain ⟨i, hi⟩ := exists_rejection?_of_verdict_error number hverdict
      by_cases hpolicy : policy = .unknown
      · rw [if_pos (.inl hpolicy), withCountry, countryOrUnknown_of_rejection? hi]
        exact .unknown hpolicy hverdict (countryAt_setCell place .unknown row) hrest
      · have hskip : policy = .skip := by
          cases policy with
          | fail =>
            have hnil := hfail rfl
            rw [hi] at hnil
            cases hnil
          | skip => rfl
          | unknown => exact absurd rfl hpolicy
        rw [if_neg (by simp [hpolicy, hi])]
        exact .skipped hskip hverdict hrest

end Rows

/-! ## Tables -/

/-- A tagged table beside the one that it was made from. -/
structure Framed (mapper : Mapper) (config : Config.Batch) (columns : Config.EndpointColumns)
    (table tagged : Delimited.Table) : Prop where
  /-- The columns that hold the endpoints are there. -/
  columns_mem : ∀ name ∈ columns.names, name ∈ table.headers
  headers_eq : tagged.headers =
    if config.output.countryName ∈ table.headers then table.headers
    else table.headers ++ [config.output.countryName]
  rows : Rewritten (verdict mapper columns table.headers) config.policy
    (table.headers.idxOf config.output.countryName) table.rows tagged.rows

/-- Tagging a table changes nothing but the column for countries: the header keeps its columns, the
rows that are not left out keep their order and their other cells, and each gets the country of the
endpoint that it was given with. -/
theorem framed_of_transform {mapper : Mapper} {config : Config.Batch} {generatedAt : String}
    {table : Delimited.Table} {result : Result}
    (h : transform mapper config generatedAt table = .ok result) :
    ∃ columns, config.input.endpointColumns = .ok columns ∧
      Framed mapper config columns table result.table := by
  obtain ⟨l, hl, hfail, rfl⟩ := transform_eq_ok_iff.1 h
  obtain ⟨columns, hcolumns, hmem, rfl⟩ := locate_eq_ok_iff.1 hl
  exact ⟨columns, hcolumns, hmem, placeCountry_fst _ _, rewritten_outcomes hfail⟩

/-- The first row is too short, the second is malformed and left out, and the third is so long that
it has a cell where its country goes. -/
theorem framed_of_ragged_rows :
    let mapper : Mapper := .ofResolve fun _ _ => .of 'D' 'K'
    let config : Config.Batch :=
      ⟨⟨"night", none⟩, ⟨"in.csv", none, some "to", none, none⟩, ⟨"out", none, none, none⟩,
        {}, .skip⟩
    let table : Delimited.Table := ⟨["to", "id"], [["GLN:5"], [":5", "x"], ["GLN:7", "y", "z"]]⟩
    ∃ result columns, transform mapper config "" table = .ok result ∧
      result.table =
        ⟨["to", "id", "country_code"], [["GLN:5", "", "DK"], ["GLN:7", "y", "DK"]]⟩ ∧
      Framed mapper config columns table result.table := by
  intro mapper config table
  have hrun : transform mapper config "" table = .ok _ := rfl
  obtain ⟨columns, -, hframed⟩ := framed_of_transform hrun
  exact ⟨_, columns, hrun, rfl, hframed⟩

end EndpointCountry.Tagging
