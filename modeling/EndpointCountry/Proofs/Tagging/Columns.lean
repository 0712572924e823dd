import EndpointCountry.Proofs.Steps
import EndpointCountry.Tagging.Transform

/-!
# Columns and cells

Columns are found by their names, and the first column of a name counts. The country of a row goes
into one cell of it; a row that is too short gets empty cells up to there.

* `findColumn_eq_ok_iff`, `findColumn_eq_error_iff` — a column is found where its name first stands
  in the header, and the fault names one that is not there.
* `locate`, `locate_eq_ok_iff` — the places of the columns that the settings name.
* `placeCountry_snd`, `idxOf_placeCountry` — the column for countries has the same place before and
  after it is added.
* `length_setCell`, `getElem?_setCell_self`, `getElem?_setCell_of_lt`, `getElem?_setCell_of_le` — a
  row with another cell: the cell, those that were there and those that were not.
-/

namespace EndpointCountry

namespace Config.EndpointColumns

/-- The names of the columns that hold the endpoints. -/
def names : EndpointColumns → List String
  | joined column => [column]
  | split scheme value => [scheme, value]

/-- The places of the columns in a header that has them all. -/
def places (headers : List String) : EndpointColumns → Tagging.Layout
  | joined column => .joined (headers.idxOf column)
  | split scheme value => .split (headers.idxOf scheme) (headers.idxOf value)

end Config.EndpointColumns

namespace Tagging

/-! ## Finding a column -/

theorem findIdx?_eq_some_iff_idxOf {headers : List String} {name : String} {place : Nat} :
    headers.findIdx? (· = name) = some place ↔ name ∈ headers ∧ place = headers.idxOf name := by
  have hfind : headers.findIdx (fun h => decide (h = name)) = headers.idxOf name := rfl
  rw [List.findIdx?_eq_some_iff_findIdx_eq, hfind, ← List.idxOf_lt_length_iff]
  constructor
  · rintro ⟨hlt, rfl⟩
    exact ⟨hlt, rfl⟩
  · rintro ⟨hlt, rfl⟩
    exact ⟨hlt, rfl⟩

theorem findIdx?_eq_none_iff_notMem {headers : List String} {name : String} :
    headers.findIdx? (· = name) = none ↔ name ∉ headers := by
  rw [List.findIdx?_eq_none_iff]
  constructor
  · intro h hmem
    simpa using h name hmem
  · intro h x hx
    have hne : x ≠ name := fun heq => h (heq ▸ hx)
    simpa using hne

/-- The fault that a header has no column of a name. -/
def absentColumn (headers : List String) (name : String) : Fault :=
  let shown := ", ".intercalate headers
  .setting "input" s!"column '{name}' not found in input header [{shown}]"

theorem findColumn_eq_ok_iff {headers : List String} {name : String} {place : Nat} :
    findColumn headers name = .ok place ↔ name ∈ headers ∧ place = headers.idxOf name := by
  rw [← findIdx?_eq_some_iff_idxOf]
  unfold findColumn
  cases headers.findIdx? (· = name) with
  | none => simp
  | some found => simp

theorem findColumn_eq_error_iff {headers : List String} {name : String} {fault : Fault} :
    findColumn headers name = .error fault ↔
      name ∉ headers ∧ fault = absentColumn headers name := by
  rw [← findIdx?_eq_none_iff_notMem]
  unfold findColumn absentColumn
  cases headers.findIdx? (· = name) with
  | none => simp [eq_comm]
  | some found => simp

/-! ## Locating the endpoints -/

theorem layout_eq_ok_iff {columns : Config.EndpointColumns} {headers : List String} {l : Layout} :
    layout columns headers = .ok l ↔
      (∀ name ∈ columns.names, name ∈ headers) ∧ l = columns.places headers := by
  cases columns with
  | joined column =>
    simp only [layout, bind_eq_ok_iff, findColumn_eq_ok_iff, Config.EndpointColumns.names,
      Config.EndpointColumns.places, List.forall_mem_singleton, pure, Except.pure, Except.ok.injEq]
    constructor
    · rintro ⟨_, ⟨hmem, rfl⟩, rfl⟩
      exact ⟨hmem, rfl⟩
    · rintro ⟨hmem, rfl⟩
      exact ⟨_, ⟨hmem, rfl⟩, rfl⟩
  | split scheme value =>
    simp only [layout, bind_eq_ok_iff, findColumn_eq_ok_iff, Config.EndpointColumns.names,
      Config.EndpointColumns.places, List.forall_mem_cons, pure, Except.pure, Except.ok.injEq]
    constructor
    · rintro ⟨_, ⟨hscheme, rfl⟩, _, ⟨hvalue, rfl⟩, rfl⟩
      exact ⟨⟨hscheme, hvalue, by simp⟩, rfl⟩
    · rintro ⟨⟨hscheme, hvalue, -⟩, rfl⟩
      exact ⟨_, ⟨hscheme, rfl⟩, _, ⟨hvalue, rfl⟩, rfl⟩

/-- A header that does not do lacks one of the columns, and the fault names it. -/
theorem exists_absentColumn {columns : Config.EndpointColumns} {headers : List String}
    {fault : Fault} (h : layout columns headers = .error fault) :
    ∃ name ∈ columns.names, name ∉ headers ∧ fault = absentColumn headers name := by
  cases columns with
  | joined column =>
    obtain h | ⟨_, -, h⟩ := bind_eq_error_iff.1 h
    · exact ⟨column, by simp [Config.EndpointColumns.names], findColumn_eq_error_iff.1 h⟩
    · cases h
  | split scheme value =>
    obtain h | ⟨_, -, h⟩ := bind_eq_error_iff.1 h
    · exact ⟨scheme, by simp [Config.EndpointColumns.names], findColumn_eq_error_iff.1 h⟩
    obtain h | ⟨_, -, h⟩ := bind_eq_error_iff.1 h
    · exact ⟨value, by simp [Config.EndpointColumns.names], findColumn_eq_error_iff.1 h⟩
    · cases h

/-- Where a header has the columns that the settings name. -/
def locate (input : Config.Input) (headers : List String) : Except Fault Layout := do
  layout (← input.endpointColumns) headers

theorem locate_eq_ok_iff {input : Config.Input} {headers : List String} {l : Layout} :
    locate input headers = .ok l ↔
      ∃ columns, input.endpointColumns = .ok columns ∧
        (∀ name ∈ columns.names, name ∈ headers) ∧ l = columns.places headers := by
  rw [locate, bind_eq_ok_iff]
  simp only [layout_eq_ok_iff]

/-! ## The column for countries -/

theorem placeCountry_fst (headers : List String) (name : String) :
    (placeCountry headers name).1 = if name ∈ headers then headers else headers ++ [name] := by
  unfold placeCountry
  cases hfind : headers.findIdx? (· = name) with
  | none => rw [if_neg (findIdx?_eq_none_iff_notMem.1 hfind)]
  | some place => rw [if_pos (findIdx?_eq_some_iff_idxOf.1 hfind).1]

theorem placeCountry_snd (headers : List String) (name : String) :
    (placeCountry headers name).2 = headers.idxOf name := by
  unfold placeCountry
  cases hfind : headers.findIdx? (· = name) with
  | none => exact (List.idxOf_eq_length (findIdx?_eq_none_iff_notMem.1 hfind)).symm
  | some place => exact (findIdx?_eq_some_iff_idxOf.1 hfind).2

/-- The column for countries stands in the new header where it stood, or was put. -/
theorem idxOf_placeCountry (headers : List String) (name : String) :
    (placeCountry headers name).1.idxOf name = headers.idxOf name := by
  rw [placeCountry_fst]
  split
  · rfl
  · rename_i hname
    rw [List.idxOf_append_of_notMem hname, List.idxOf_eq_length hname]
    simp

/-- With the column for countries a header is as long as it was, or as long as that column asks
for. -/
theorem length_placeCountry (headers : List String) (name : String) :
    (placeCountry headers name).1.length = max headers.length (headers.idxOf name + 1) := by
  rw [placeCountry_fst]
  split
  · rename_i hname
    have hlt := List.idxOf_lt_length_iff.2 hname
    omega
  · rename_i hname
    rw [List.idxOf_eq_length hname, List.length_append, List.length_singleton]
    omega

/-! ## Cells -/

theorem length_setCell (row : List String) (place : Nat) (cell : String) :
    (setCell row place cell).length = max row.length (place + 1) := by
  simp only [setCell, List.length_set, List.length_append, List.length_replicate]
  omega

theorem getElem?_setCell_self (row : List String) (place : Nat) (cell : String) :
    (setCell row place cell)[place]? = some cell := by
  have hlt : place < (setCell row place cell).length := by
    rw [length_setCell]
    omega
  rw [setCell, List.length_set] at hlt
  rw [setCell, List.getElem?_set_self hlt]

/-- Another cell of the row stays as it is. -/
theorem getElem?_setCell_of_lt {row : List String} {place i : Nat} (hne : i ≠ place)
    (hlt : i < row.length) (cell : String) : (setCell row place cell)[i]? = row[i]? := by
  rw [setCell, List.getElem?_set_ne hne.symm, List.getElem?_append_left hlt]

/-- Another cell that the row has to be filled up with is empty. -/
theorem getElem?_setCell_of_le {row : List String} {place i : Nat} (hne : i ≠ place)
    (hle : row.length ≤ i) (cell : String) (hlt : i < (setCell row place cell).length) :
    (setCell row place cell)[i]? = some "" := by
  rw [length_setCell] at hlt
  rw [setCell, List.getElem?_set_ne hne.symm, List.getElem?_append_right hle,
    List.getElem?_replicate, if_pos (by omega)]

end Tagging

end EndpointCountry
