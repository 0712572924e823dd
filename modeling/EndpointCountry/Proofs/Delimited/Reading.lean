import EndpointCountry.Delimited.Reader
import EndpointCountry.Proofs.Steps

/-!
# Tables that were read

A file is read in full or not at all: one record that is not as long as the header, or that holds
what is no text, anywhere in the file, is a defect of the whole. A table that was read has rows as
long as its header.

* `length_fieldTexts`, `length_of_mem_rowTexts`, `length_of_mem_rows` — rows are as long as their
  records, and those as the header.
* `RawRecord.Readable`, `exists_read_eq_ok_iff` — the files that can be read.
-/

namespace EndpointCountry.Delimited

/-! ## The length of rows -/

theorem length_fieldTexts {record : Nat} {place : Position} {field : Nat}
    {fields : List (List UInt8)} {texts : List String}
    (h : fieldTexts record place field fields = .ok texts) : texts.length = fields.length := by
  induction fields generalizing field texts with
  | nil =>
    cases h
    rfl
  | cons bytes rest ih =>
    rw [fieldTexts] at h
    split at h
    · cases h
    · split at h
      · rename_i hrest
        cases h
        rw [List.length_cons, List.length_cons, ih hrest]
      · cases h

theorem length_of_mem_rowTexts {expected record : Nat} {raws : List RawRecord}
    {rows : List (List String)} (h : rowTexts expected record raws = .ok rows) :
    ∀ row ∈ rows, row.length = expected := by
  induction raws generalizing record rows with
  | nil =>
    cases h
    simp
  | cons raw rest ih =>
    rw [rowTexts] at h
    split at h
    · cases h
    · rename_i hlength
      obtain ⟨row, hrow, h⟩ := bind_eq_ok_iff.1 h
      obtain ⟨rows', hrows, hpure⟩ := bind_eq_ok_iff.1 h
      cases hpure
      exact List.forall_mem_cons.2
        ⟨(length_fieldTexts hrow).trans (Decidable.not_not.1 hlength), ih hrows⟩

/-- The rows of a table that was read are as long as its header. -/
theorem length_of_mem_rows {delimiter : UInt8} {bytes : List UInt8} {table : Table}
    (h : read delimiter bytes = .ok table) :
    ∀ row ∈ table.rows, row.length = table.headers.length := by
  unfold read at h
  split at h
  · cases h
    simp
  · obtain ⟨headers, hheaders, h⟩ := bind_eq_ok_iff.1 h
    obtain ⟨rows, hrows, hpure⟩ := bind_eq_ok_iff.1 h
    cases hpure
    intro row hrow
    exact (length_of_mem_rowTexts hrows row hrow).trans (length_fieldTexts hheaders).symm

/-! ## What can be read -/

/-- A record can be read as a row: it has as many fields as are expected, and all are texts. -/
structure RawRecord.Readable (expected : Nat) (raw : RawRecord) : Prop where
  length : raw.fields.length = expected
  isText : ∀ bytes ∈ raw.fields, (Text.ofBytes? bytes).isSome

theorem exists_fieldTexts_eq_ok_iff (record : Nat) (place : Position) (field : Nat)
    {fields : List (List UInt8)} :
    (∃ texts, fieldTexts record place field fields = .ok texts) ↔
      ∀ bytes ∈ fields, (Text.ofBytes? bytes).isSome := by
  induction fields generalizing field with
  | nil => simp [fieldTexts]
  | cons bytes rest ih =>
    rw [List.forall_mem_cons, ← ih (field + 1), fieldTexts]
    cases Text.ofBytes? bytes with
    | none => simp
    | some text => cases fieldTexts record place (field + 1) rest <;> simp

theorem exists_rowTexts_eq_ok_iff (record : Nat) {expected : Nat} {raws : List RawRecord} :
    (∃ rows, rowTexts expected record raws = .ok rows) ↔
      ∀ raw ∈ raws, raw.Readable expected := by
  induction raws generalizing record with
  | nil => simp [rowTexts]
  | cons raw rest ih =>
    rw [List.forall_mem_cons, ← ih (record + 1), rowTexts]
    split
    · rename_i hlength
      simp only [reduceCtorEq, exists_false, false_iff, not_and]
      intro hraw
      exact absurd hraw.length hlength
    · rename_i hlength
      simp only [bind_eq_ok_iff]
      constructor
      · rintro ⟨_, row, hrow, rows, hrows, -⟩
        have hfields := (exists_fieldTexts_eq_ok_iff _ _ _).1 ⟨row, hrow⟩
        exact ⟨⟨Decidable.not_not.1 hlength, hfields⟩, rows, hrows⟩
      · rintro ⟨hraw, rows, hrows⟩
        obtain ⟨row, hrow⟩ := (exists_fieldTexts_eq_ok_iff record _ 0).2 hraw.isText
        exact ⟨_, row, hrow, rows, hrows, rfl⟩

/-- A file can be read exactly if each of its records can. -/
theorem exists_read_eq_ok_iff {delimiter : UInt8} {bytes : List UInt8} {header : RawRecord}
    {rest : List RawRecord} (h : rawRecords delimiter bytes = header :: rest) :
    (∃ table, read delimiter bytes = .ok table) ↔
      ∀ raw ∈ header :: rest, raw.Readable header.fields.length := by
  rw [List.forall_mem_cons, ← exists_rowTexts_eq_ok_iff 1, read, h]
  simp only [bind_eq_ok_iff]
  constructor
  · rintro ⟨_, headers, hheaders, rows, hrows, -⟩
    exact ⟨⟨rfl, (exists_fieldTexts_eq_ok_iff _ _ _).1 ⟨headers, hheaders⟩⟩, rows, hrows⟩
  · rintro ⟨hheader, rows, hrows⟩
    obtain ⟨headers, hheaders⟩ := (exists_fieldTexts_eq_ok_iff 0 _ 0).2 hheader.isText
    exact ⟨_, headers, hheaders, rows, hrows, rfl⟩

end EndpointCountry.Delimited
