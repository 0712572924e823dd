import EndpointCountry.Proofs.Tagging.Accounting

/-!
# A table in two parts

A table is cut in two, and each part is tagged as a table of its own, under the same header. Tagging
the whole is tagging the parts: no row learns anything from the rows before it but its number. So
the rows of the results follow one another, the counts add up, and a row of the second part has its
number there and the rows of the first part on top of it, in an entry as in a fault.

* `InvalidRow.later`, `Outcome.later` — what there is to a row, with more rows before it.
* `outcomes_append`, `rejections_append` — a run over the rows of both parts.
* `lookup_tally_append` — counts are added up country by country.
* `rowFault_inj` — a fault tells the number of the row.
* `Joined`, `Composed`, `composed_transform` — the three runs.
-/

namespace EndpointCountry.Tagging

/-! ## More rows in front -/

/-- The entry about the same row with `n` more rows before it. -/
def InvalidRow.later (n : Nat) (i : InvalidRow) : InvalidRow :=
  { i with row := i.row + n }

/-- What becomes of the same row with `n` more rows before it. -/
def Outcome.later (n : Nat) : Outcome → Outcome
  | tagged country row => tagged country row
  | unknown invalid row => unknown (invalid.later n) row
  | skipped invalid => skipped (invalid.later n)

@[simp] theorem kept?_later (n : Nat) (o : Outcome) : (o.later n).kept? = o.kept? := by
  cases o <;> rfl

@[simp] theorem isSkipped_later (n : Nat) (o : Outcome) :
    (o.later n).isSkipped = o.isSkipped := by
  cases o <;> rfl

@[simp] theorem invalid?_later (n : Nat) (o : Outcome) :
    (o.later n).invalid? = o.invalid?.map (InvalidRow.later n) := by
  cases o <;> rfl

section Rows

variable {mapper : Mapper} {l : Layout} {policy : Config.Policy} {place : Nat}

theorem rejection?_add (number n : Nat) (row : List String) :
    rejection? mapper l (number + n) row =
      (rejection? mapper l number row).map (InvalidRow.later n) := by
  unfold rejection?
  cases countryOf mapper l row <;> rfl

theorem outcome_add (number n : Nat) (row : List String) :
    outcome mapper l policy place (number + n) row =
      (outcome mapper l policy place number row).later n := by
  unfold outcome
  rw [rejection?_add]
  cases rejection? mapper l number row with
  | none => rfl
  | some i => by_cases h : policy = .unknown <;> simp [h, Outcome.later]

/-- Nothing but the numbers of rows changes when there are more rows before them. -/
theorem outcomes_add (number n : Nat) (rows : List (List String)) :
    outcomes mapper l policy place (number + n) rows =
      (outcomes mapper l policy place number rows).map (Outcome.later n) := by
  induction rows generalizing number with
  | nil => rfl
  | cons row rest ih =>
    rw [outcomes_cons, outcomes_cons, List.map_cons, outcome_add, Nat.add_right_comm, ih]

/-- What becomes of the rows of both parts. -/
theorem outcomes_append (number : Nat) (front back : List (List String)) :
    outcomes mapper l policy place number (front ++ back) =
      outcomes mapper l policy place number front ++
        (outcomes mapper l policy place number back).map (Outcome.later front.length) := by
  rw [← outcomes_add]
  simp only [outcomes, List.zipIdx_append, List.map_append]

/-- The entries of both parts. -/
theorem rejections_append (number : Nat) (front back : List (List String)) :
    rejections mapper l number (front ++ back) =
      rejections mapper l number front ++
        (rejections mapper l number back).map (InvalidRow.later front.length) := by
  have hentries (rows : List (List String)) : rejections mapper l number rows =
      (outcomes mapper l .skip 0 number rows).filterMap Outcome.invalid? :=
    filterMap_invalid?_outcomes.symm
  rw [hentries, hentries, hentries, outcomes_append, List.filterMap_append, List.filterMap_map,
    List.map_filterMap]
  congr 1
  apply List.filterMap_congr
  intro o _
  exact invalid?_later front.length o

/-- The rows of both parts that are kept. -/
theorem kept_append (number : Nat) (front back : List (List String)) :
    (outcomes mapper l policy place number (front ++ back)).filterMap Outcome.kept? =
      (outcomes mapper l policy place number front).filterMap Outcome.kept? ++
        (outcomes mapper l policy place number back).filterMap Outcome.kept? := by
  rw [outcomes_append, List.filterMap_append, List.filterMap_map]
  congr 1
  apply List.filterMap_congr
  intro o _
  exact kept?_later front.length o

/-- The rows of both parts that are left out. -/
theorem skipped_append (number : Nat) (front back : List (List String)) :
    (outcomes mapper l policy place number (front ++ back)).countP Outcome.isSkipped =
      (outcomes mapper l policy place number front).countP Outcome.isSkipped +
        (outcomes mapper l policy place number back).countP Outcome.isSkipped := by
  rw [outcomes_append, List.countP_append, List.countP_map]
  congr 2
  funext o
  exact isSkipped_later front.length o

end Rows

/-! ## Counts -/

/-- A country has an entry where it has one for some part, and the entry is the sum. -/
theorem lookup_tally_append (front back : List Country) (country : Country) :
    (tally (front ++ back)).lookup country =
      ((tally front).lookup country).merge (· + ·) ((tally back).lookup country) := by
  rw [lookup_tally, lookup_tally, lookup_tally, List.count_append]
  by_cases hfront : front.count country = 0
  · by_cases hback : back.count country = 0 <;> simp [hfront, hback]
  · by_cases hback : back.count country = 0 <;> simp [hfront, hback]

/-! ## Numbers in faults -/

/-- The fault that a row of a number is malformed. -/
def rowFault (row : Nat) (reason : String) : Fault :=
  .processing s!"row {row}: {reason}"

theorem givenUp_eq_rowFault (i : InvalidRow) : givenUp i = rowFault i.row i.reason := rfl

theorem colon_notMem_toDigits (n : Nat) : ':' ∉ Nat.toDigits 10 n := by
  intro h
  have hdigit : ':'.isDigit = true := Nat.isDigit_of_mem_toDigits (by decide) (by decide) h
  cases hdigit

/-- A fault about a row has one number and one reason: the number ends at the first colon. -/
theorem rowFault_inj {m n : Nat} {r s : String} :
    rowFault m r = rowFault n s ↔ m = n ∧ r = s := by
  constructor
  · intro h
    have hsplit (k : Nat) (t : String) : Endpoint.splitColon? (s!"{k}: {t}").toList =
        some (Nat.toDigits 10 k, ' ' :: t.toList) := by
      refine Endpoint.splitColon?_eq_some_iff.2 ⟨?_, colon_notMem_toDigits k⟩
      have hk : (toString k).toList = Nat.toDigits 10 k := String.toList_ofList
      rw [String.toList_append, String.toList_append, hk, List.append_assoc]
      rfl
    simp only [rowFault, Fault.processing.injEq, String.append_assoc, String.append_right_inj] at h
    have hlists : some (Nat.toDigits 10 m, ' ' :: r.toList) =
        some (Nat.toDigits 10 n, ' ' :: s.toList) := by
      rw [← hsplit, ← hsplit]
      simp only [String.append_assoc, h]
    simp only [Option.some.injEq, Prod.mk.injEq, List.cons.injEq, true_and, String.toList_inj]
      at hlists
    obtain ⟨hdigits, hreason⟩ := hlists
    refine ⟨?_, hreason⟩
    calc m = Nat.ofDigitChars 10 (Nat.toDigits 10 m) 0 := Nat.ofDigitChars_ten_toDigits.symm
      _ = Nat.ofDigitChars 10 (Nat.toDigits 10 n) 0 := by rw [hdigits]
      _ = n := Nat.ofDigitChars_ten_toDigits
  · rintro ⟨rfl, rfl⟩
    rfl

/-! ## The three runs -/

/-- The result for a table beside those for its two parts, the first of which has `n` rows. -/
structure Joined (n : Nat) (front back whole : Result) : Prop where
  headers_front : whole.table.headers = front.table.headers
  headers_back : whole.table.headers = back.table.headers
  rows : whole.table.rows = front.table.rows ++ back.table.rows
  totalRows : whole.summary.totalRows = front.summary.totalRows + back.summary.totalRows
  taggedRows : whole.summary.taggedRows = front.summary.taggedRows + back.summary.taggedRows
  skippedRows : whole.summary.skippedRows = front.summary.skippedRows + back.summary.skippedRows
  unknownRows : whole.summary.unknownRows = front.summary.unknownRows + back.summary.unknownRows
  /-- Every country has the sum of its counts, and an entry if one of the parts has one. -/
  perCountry : ∀ country, whole.summary.perCountry.lookup country =
    (front.summary.perCountry.lookup country).merge (· + ·)
      (back.summary.perCountry.lookup country)
  invalid : whole.summary.invalid =
    front.summary.invalid ++ back.summary.invalid.map (InvalidRow.later n)

/-- How the run over a table goes together with the runs over its two parts, the first of which has
`n` rows. -/
structure Composed (n : Nat) (front back whole : Except Fault Result) : Prop where
  exists_ok_iff : (∃ w, whole = .ok w) ↔ (∃ f, front = .ok f) ∧ ∃ b, back = .ok b
  joined : ∀ f b w, front = .ok f → back = .ok b → whole = .ok w → Joined n f b w
  /-- A fault in the first part ends the run over the whole. -/
  front_error : ∀ fault, front = .error fault → whole = .error fault
  /-- A fault in the second part alone is about one of its rows. -/
  exists_rowFault : ∀ f fault, front = .ok f → back = .error fault →
    ∃ row reason, fault = rowFault row reason
  /-- In the whole that row comes after those of the first part. -/
  back_error : ∀ f row reason, front = .ok f → back = .error (rowFault row reason) →
    whole = .error (rowFault (row + n) reason)

section Runs

variable {mapper : Mapper} {config : Config.Batch} {atFront atBack atWhole : String}
  {headers : List String} {front back : List (List String)}

theorem joined_resultOf (l : Layout) :
    Joined front.length (resultOf mapper config atFront ⟨headers, front⟩ l)
      (resultOf mapper config atBack ⟨headers, back⟩ l)
      (resultOf mapper config atWhole ⟨headers, front ++ back⟩ l) := by
  constructor
  case headers_front => rfl
  case headers_back => rfl
  case rows => simp only [resultOf, kept_append, List.map_append]
  case totalRows => exact List.length_append
  case taggedRows => simp only [resultOf, summarize, kept_append, List.length_append]
  case skippedRows => exact skipped_append 1 front back
  case unknownRows =>
    simp only [resultOf, summarize, countOf_tally, kept_append, List.map_append, List.count_append]
  case perCountry =>
    intro country
    simp only [resultOf, summarize, kept_append, List.map_append]
    exact lookup_tally_append _ _ country
  case invalid => simp only [invalid_resultOf, rejections_append]

/-- A table goes through if its header has the columns and no row has to be given up. -/
theorem exists_transform_eq_ok_iff {time : String} {rows : List (List String)} :
    (∃ result, transform mapper config time ⟨headers, rows⟩ = .ok result) ↔
      ∃ l, locate config.input headers = .ok l ∧
        (config.policy = .fail → rejections mapper l 1 rows = []) := by
  simp only [transform_eq_ok_iff]
  constructor
  · rintro ⟨_, l, hl, hfail, -⟩
    exact ⟨l, hl, hfail⟩
  · rintro ⟨l, hl, hfail⟩
    exact ⟨_, l, hl, hfail, rfl⟩

/-- A fault in the second part alone is about its first row with an entry, and that row is the first
one of the whole with an entry. -/
theorem exists_givenUp_of_back (atWhole : String) {f : Result} {fault : Fault}
    (hfront : transform mapper config atFront ⟨headers, front⟩ = .ok f)
    (hback : transform mapper config atBack ⟨headers, back⟩ = .error fault) :
    ∃ i, fault = givenUp i ∧ transform mapper config atWhole ⟨headers, front ++ back⟩ =
      .error (givenUp (i.later front.length)) := by
  obtain ⟨l, hl, hnone, -⟩ := transform_eq_ok_iff.1 hfront
  obtain hl' | ⟨l', hl', hpolicy, i, hi, rfl⟩ := transform_eq_error_iff.1 hback
  · cases hl.symm.trans hl'
  · cases hl.symm.trans hl'
    refine ⟨i, rfl, transform_eq_error_iff.2 (.inr ⟨l, hl, hpolicy, _, ?_, rfl⟩)⟩
    rw [rejections_append, hnone hpolicy, List.nil_append, List.head?_map, hi, Option.map_some]

/-- Tagging a table in two parts is tagging it. It goes through exactly if both parts do, and then
its result is theirs, one after the other. If the first part fails, the whole fails alike; if only
the second does, the whole fails because of the same row, under its number there. -/
theorem composed_transform (mapper : Mapper) (config : Config.Batch)
    (atFront atBack atWhole : String) (headers : List String) (front back : List (List String)) :
    Composed front.length (transform mapper config atFront ⟨headers, front⟩)
      (transform mapper config atBack ⟨headers, back⟩)
      (transform mapper config atWhole ⟨headers, front ++ back⟩) := by
  constructor
  case exists_ok_iff =>
    simp only [exists_transform_eq_ok_iff, rejections_append, List.append_eq_nil_iff,
      List.map_eq_nil_iff]
    constructor
    · rintro ⟨l, hl, hfail⟩
      exact ⟨⟨l, hl, fun h => (hfail h).1⟩, l, hl, fun h => (hfail h).2⟩
    · rintro ⟨⟨l, hl, hfront⟩, l', hl', hback⟩
      cases hl.symm.trans hl'
      exact ⟨l, hl, fun h => ⟨hfront h, hback h⟩⟩
  case joined =>
    intro f b w hf hb hw
    obtain ⟨l, hl, -, rfl⟩ := transform_eq_ok_iff.1 hf
    obtain ⟨l', hl', -, rfl⟩ := transform_eq_ok_iff.1 hb
    obtain ⟨l'', hl'', -, rfl⟩ := transform_eq_ok_iff.1 hw
    cases hl.symm.trans hl'
    cases hl.symm.trans hl''
    exact joined_resultOf l
  case front_error =>
    intro fault h
    obtain hl | ⟨l, hl, hpolicy, i, hi, rfl⟩ := transform_eq_error_iff.1 h
    · exact transform_eq_error_iff.2 (.inl hl)
    · refine transform_eq_error_iff.2 (.inr ⟨l, hl, hpolicy, i, ?_, rfl⟩)
      rw [rejections_append, List.head?_append, hi, Option.some_or]
  case exists_rowFault =>
    intro f fault hf hb
    obtain ⟨i, hi, -⟩ := exists_givenUp_of_back atWhole hf hb
    exact ⟨i.row, i.reason, hi.trans (givenUp_eq_rowFault i)⟩
  case back_error =>
    intro f row reason hf hb
    obtain ⟨i, hi, hwhole⟩ := exists_givenUp_of_back atWhole hf hb
    rw [givenUp_eq_rowFault] at hi hwhole
    -- the words of the fault leave no doubt about the number and the reason
    obtain ⟨rfl, rfl⟩ := rowFault_inj.1 hi
    exact hwhole

/-- The malformed row is the first one of the second part and the third one of the whole. -/
example :
    let config : Config.Batch :=
      ⟨⟨"night", none⟩, ⟨"in.csv", none, some "to", none, none⟩, ⟨"out", none, none, none⟩,
        {}, .fail⟩
    let reason := "Invalid argument: invalid endpoint format '5', expected 'type:value'"
    let run := transform (.ofResolve fun _ _ => .of 'D' 'K') config ""
    run ⟨["to"], [["5"]]⟩ = .error (rowFault 1 reason) ∧
      run ⟨["to"], [["GLN:5"], ["GLN:7"]] ++ [["5"]]⟩ = .error (rowFault 3 reason) :=
  ⟨rfl, rfl⟩

end Runs

end EndpointCountry.Tagging
