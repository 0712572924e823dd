import EndpointCountry.Proofs.Delimited.Splitting

/-!
# Reading back what was written

A table that could be written is read back as it was, whatever its cells hold. Two things about its
header are needed: it has a column, and its first cell does not begin with a byte order mark, which
a reader takes for one.

* `write_eq_ok_iff` — which tables can be written, and as what.
* `rawRecords_writeRecord` — no byte order mark is found in front of a header without one.
* `read_write` — the round trip.
-/

namespace EndpointCountry.Delimited

variable {delimiter : UInt8}

/-! ## Writing -/

theorem writeRecords_eq_ok_iff {expected : Nat} {rows : List (List String)} {bytes : List UInt8} :
    writeRecords delimiter expected rows = .ok bytes ↔
      (∀ row ∈ rows, row.length = expected) ∧ bytes = rows.flatMap (writeRecord delimiter) := by
  induction rows generalizing bytes with
  | nil => simp [writeRecords, eq_comm]
  | cons row rest ih =>
    rw [writeRecords, List.forall_mem_cons, List.flatMap_cons]
    constructor
    · intro h
      split at h
      · cases h
      rename_i hlength
      split at h
      · rename_i tail htail
        obtain ⟨hrest, rfl⟩ := ih.1 htail
        cases h
        exact ⟨⟨Decidable.not_not.1 hlength, hrest⟩, rfl⟩
      · cases h
    · rintro ⟨⟨hlength, hrest⟩, rfl⟩
      rw [if_neg (not_not_intro hlength), ih.2 ⟨hrest, rfl⟩]

/-- A table can be written when its rows are as long as its header. -/
theorem write_eq_ok_iff {table : Table} {bytes : List UInt8} :
    write delimiter table = .ok bytes ↔
      (∀ row ∈ table.rows, row.length = table.headers.length) ∧
        bytes = (table.headers :: table.rows).flatMap (writeRecord delimiter) := by
  rw [write, List.flatMap_cons]
  constructor
  · intro h
    split at h
    · rename_i tail htail
      obtain ⟨hrows, rfl⟩ := writeRecords_eq_ok_iff.1 htail
      cases h
      exact ⟨hrows, rfl⟩
    · cases h
  · rintro ⟨hrows, rfl⟩
    rw [writeRecords_eq_ok_iff.2 ⟨hrows, rfl⟩]

/-! ## The byte order mark -/

/-- A text begins with a byte order mark. -/
def Marked (s : String) : Prop :=
  s.toList.head? = some '\uFEFF'

theorem marked_of_bytes {s : String} {rest : List UInt8}
    (h : Text.bytes s = 0xEF :: 0xBB :: 0xBF :: rest) : Marked s := by
  have hmark : ['\uFEFF'].utf8Encode = ⟨#[0xEF, 0xBB, 0xBF]⟩ := by decide
  have hencode : ['\uFEFF'].utf8Encode ++ ⟨rest.toArray⟩ = s.toList.utf8Encode := by
    rw [String.utf8Encode_toList, hmark]
    apply ByteArray.ext
    apply Array.toList_inj.1
    rw [ByteArray.data_append, Array.toList_append]
    exact h.symm
  obtain ⟨tail, htail⟩ := List.isPrefix_of_utf8Encode_append_eq_utf8Encode _ hencode
  rw [Marked, ← htail]
  rfl

/-- A record begins with bytes of its first cell, all of them or none, and then an ASCII byte. -/
theorem exists_prefix_writeRecord (hascii : delimiter < 0x80) (cell : String)
    (cells : List String) :
    ∃ front b, b < 0x80 ∧ front <+: Text.bytes cell ∧
      front ++ [b] <+: writeRecord delimiter (cell :: cells) := by
  cases hneeds : needsQuotes delimiter (Text.bytes cell) with
  | true =>
    refine ⟨[], quote, by decide, List.nil_prefix, ?_⟩
    cases cells <;> simp [writeRecord, joinFields, writeField, hneeds]
  | false =>
    cases cells with
    | cons second cells =>
      refine ⟨Text.bytes cell, delimiter, hascii, List.prefix_rfl, ?_⟩
      simp [writeRecord, joinFields, writeField, hneeds]
    | nil =>
      cases hbytes : Text.bytes cell with
      | nil =>
        refine ⟨[], quote, by decide, List.nil_prefix, ?_⟩
        rw [hbytes] at hneeds
        simp [writeRecord, joinFields, writeField, hneeds, hbytes]
      | cons b bytes =>
        refine ⟨b :: bytes, 0x0A, by decide, List.prefix_rfl, ?_⟩
        rw [hbytes] at hneeds
        simp [writeRecord, joinFields, writeField, hneeds, hbytes]

/-- A byte order mark in front of an ASCII byte is in front of what comes before that byte. -/
theorem exists_mark_append {front rest tail : List UInt8} {b : UInt8} (hb : b < 0x80)
    (h : front ++ b :: rest = 0xEF :: 0xBB :: 0xBF :: tail) :
    ∃ front', front = 0xEF :: 0xBB :: 0xBF :: front' := by
  rcases front with _ | ⟨b₁, _ | ⟨b₂, _ | ⟨b₃, front⟩⟩⟩
  · cases h
    exact absurd hb (by decide)
  · cases h
    exact absurd hb (by decide)
  · cases h
    exact absurd hb (by decide)
  · cases h
    exact ⟨front, rfl⟩

/-- Nothing is skipped in front of a header that does not begin with a byte order mark. -/
theorem rawRecords_writeRecord (hascii : delimiter < 0x80) {cell : String} (hcell : ¬ Marked cell)
    (cells : List String) (rest : List UInt8) :
    rawRecords delimiter (writeRecord delimiter (cell :: cells) ++ rest) =
      split delimiter .start .start .idle (writeRecord delimiter (cell :: cells) ++ rest) := by
  have hnot : ∀ tail, writeRecord delimiter (cell :: cells) ++ rest ≠
      0xEF :: 0xBB :: 0xBF :: tail := by
    intro tail htail
    obtain ⟨front, b, hb, ⟨cellRest, hfront⟩, ⟨recordRest, hrecord⟩⟩ :=
      exists_prefix_writeRecord hascii cell cells
    rw [← hrecord, List.append_assoc, List.append_assoc] at htail
    obtain ⟨front', rfl⟩ := exists_mark_append hb htail
    exact hcell (marked_of_bytes hfront.symm)
  unfold rawRecords
  split
  · rename_i tail htail
    exact absurd htail (hnot tail)
  · rfl

/-! ## Reading -/

theorem fieldTexts_map_bytes (record : Nat) (place : Position) (field : Nat) (row : List String) :
    fieldTexts record place field (row.map Text.bytes) = .ok row := by
  induction row generalizing field with
  | nil => rfl
  | cons cell row ih => rw [List.map_cons, fieldTexts, Text.ofBytes?_bytes, ih]

theorem rowTexts_eq_ok {expected record : Nat} {rows : List (List String)} {raws : List RawRecord}
    (hraws : raws.map (·.fields) = rows.map (·.map Text.bytes))
    (hrows : ∀ row ∈ rows, row.length = expected) : rowTexts expected record raws = .ok rows := by
  induction rows generalizing raws record with
  | nil =>
    rw [List.map_nil, List.map_eq_nil_iff] at hraws
    rw [hraws, rowTexts]
  | cons row rows ih =>
    obtain ⟨raw, rest, rfl, hraw, hrest⟩ := List.map_eq_cons_iff.1 hraws
    obtain ⟨hlength, hrows⟩ := List.forall_mem_cons.1 hrows
    have hfound : raw.fields.length = expected := by
      rw [hraw, List.length_map, hlength]
    rw [rowTexts, if_neg (not_not_intro hfound), hraw, fieldTexts_map_bytes, ih hrest hrows]
    rfl

/-- A written table is read back as it was. -/
theorem read_write (hs : Separates delimiter) (hascii : delimiter < 0x80) {table : Table}
    (hheaders : table.headers ≠ []) (hmark : ∀ cell ∈ table.headers.head?, ¬ Marked cell)
    {bytes : List UInt8} (h : write delimiter table = .ok bytes) :
    read delimiter bytes = .ok table := by
  obtain ⟨hrows, rfl⟩ := write_eq_ok_iff.1 h
  obtain ⟨headers, rows⟩ := table
  obtain ⟨cell, cells, rfl⟩ := List.exists_cons_of_ne_nil hheaders
  have hne : ∀ record ∈ (cell :: cells) :: rows, record ≠ [] := by
    refine List.forall_mem_cons.2 ⟨List.cons_ne_nil _ _, fun row hrow hnil => ?_⟩
    have hlength := hrows row hrow
    rw [hnil] at hlength
    cases hlength
  have hraws := fields_split_flatMap hs hne .start .start
  rw [List.flatMap_cons, ← rawRecords_writeRecord hascii (hmark cell rfl), ← List.flatMap_cons,
    List.map_cons] at hraws
  obtain ⟨header, rest, hsplit, hheader, hrest⟩ := List.map_eq_cons_iff.1 hraws
  have hlength : header.fields.length = (cell :: cells).length := by
    rw [hheader, List.length_map]
  have hheaderTexts : fieldTexts 0 header.place 0 header.fields = .ok (cell :: cells) := by
    rw [hheader, fieldTexts_map_bytes]
  have hrowTexts : rowTexts header.fields.length 1 rest = .ok rows :=
    rowTexts_eq_ok hrest fun row hrow => (hrows row hrow).trans hlength.symm
  rw [read, hsplit]
  simp only [hheaderTexts, hrowTexts]
  rfl

end EndpointCountry.Delimited
