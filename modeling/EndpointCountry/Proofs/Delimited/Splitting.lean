import Mathlib
import EndpointCountry.Delimited.Reader
import EndpointCountry.Delimited.Writer

/-!
# Splitting what was written

The reader splits written records into the fields they were written from. The argument goes from
the bytes of one field to those of a record and on to a whole file.

* `Separates` — the delimiters that can be told from quotes and line ends.
* `Draft.feed`, `split_append` — bytes among which no record ends.
* `feed_writeField`, `feed_joinFields`, `split_writeRecord` — a field, the fields of a record, and
  a record with its line end.
* `fields_split_flatMap` — the records of a file.
-/

namespace EndpointCountry.Delimited

/-- A delimiter that is neither a quote nor a line end. -/
structure Separates (delimiter : UInt8) : Prop where
  ne_quote : delimiter ≠ quote
  not_lineEnd : isLineEnd delimiter = false

namespace Draft

/-- The record in the making after some bytes, if no record ends among them. -/
def feed (delimiter : UInt8) (d : Draft) : List UInt8 → Option Draft
  | [] => some d
  | b :: rest =>
    match d.step delimiter b with
    | .continue next => next.feed delimiter rest
    | .record _ => none

theorem feed_cons {delimiter b : UInt8} {d next : Draft} (h : d.step delimiter b = .continue next)
    (rest : List UInt8) : d.feed delimiter (b :: rest) = next.feed delimiter rest := by
  rw [feed, h]

theorem feed_append {delimiter : UInt8} {d next : Draft} {bytes : List UInt8}
    (h : d.feed delimiter bytes = some next) (rest : List UInt8) :
    d.feed delimiter (bytes ++ rest) = next.feed delimiter rest := by
  induction bytes generalizing d with
  | nil =>
    cases h
    rfl
  | cons b bytes ih =>
    rw [feed] at h
    rw [List.cons_append, feed]
    cases hstep : d.step delimiter b with
    | «continue» mid =>
      rw [hstep] at h
      exact ih h
    | record fields =>
      rw [hstep] at h
      cases h

end Draft

variable {delimiter : UInt8}

/-- Bytes among which no record ends only move the reader on. -/
theorem split_append {d next : Draft} {bytes : List UInt8} (h : d.feed delimiter bytes = some next)
    (start here : Position) (rest : List UInt8) :
    split delimiter start here d (bytes ++ rest) =
      split delimiter start (bytes.foldl Position.next here) next rest := by
  induction bytes generalizing d here with
  | nil =>
    cases h
    rfl
  | cons b bytes ih =>
    rw [Draft.feed] at h
    rw [List.cons_append, split, List.foldl_cons]
    cases hstep : d.step delimiter b with
    | «continue» mid =>
      rw [hstep] at h
      exact ih h (here.next b)
    | record fields =>
      rw [hstep] at h
      cases h

/-! ## One field -/

/-- A phase in which a field may start. -/
def Phase.Starts (p : Phase) : Prop :=
  p = .idle ∨ p = .fieldStart

namespace Draft

/-- A byte that needs no quotes. -/
def Plain (delimiter b : UInt8) : Prop :=
  b ≠ delimiter ∧ b ≠ quote ∧ isLineEnd b = false

theorem forall_plain_of_not_needsQuotes {field : List UInt8}
    (h : needsQuotes delimiter field = false) : ∀ b ∈ field, Plain delimiter b := by
  intro b hb
  have hb := List.any_eq_false.1 h b hb
  simpa [Plain, and_assoc] using hb

theorem feed_plain {field : List UInt8} (h : ∀ b ∈ field, Plain delimiter b) (before : List UInt8)
    (fields : List (List UInt8)) :
    feed delimiter ⟨.plain, before, fields⟩ field =
      some ⟨.plain, field.reverse ++ before, fields⟩ := by
  induction field generalizing before with
  | nil => rfl
  | cons b field ih =>
    obtain ⟨⟨hdelimiter, hquote, hline⟩, hrest⟩ := List.forall_mem_cons.1 h
    have hstep : step delimiter ⟨.plain, before, fields⟩ b =
        .continue ⟨.plain, b :: before, fields⟩ := by
      simp [step, stepPlain, push, hdelimiter, hline]
    rw [feed_cons hstep, ih hrest, List.reverse_cons, List.append_assoc, List.singleton_append]

/-- The first byte of a field that needs no quotes. -/
theorem step_start {p : Phase} (hp : p.Starts) {b : UInt8} (hb : Plain delimiter b)
    (fields : List (List UInt8)) :
    step delimiter ⟨p, [], fields⟩ b = .continue ⟨.plain, [b], fields⟩ := by
  obtain ⟨hdelimiter, hquote, hline⟩ := hb
  rcases hp with rfl | rfl <;>
    simp [step, stepStart, stepPlain, push, hdelimiter, hquote, hline]

/-- The quote that opens a field. -/
theorem step_quote {p : Phase} (hp : p.Starts) (fields : List (List UInt8)) :
    step delimiter ⟨p, [], fields⟩ quote = .continue ⟨.quoted, [], fields⟩ := by
  have hline : isLineEnd quote = false := by decide
  rcases hp with rfl | rfl <;> simp [step, stepStart, hline]

/-- Inside quotes the doubled quotes are single ones again, and all other bytes are themselves. -/
theorem feed_doubleQuotes (field before : List UInt8) (fields : List (List UInt8)) :
    feed delimiter ⟨.quoted, before, fields⟩ (doubleQuotes field) =
      some ⟨.quoted, field.reverse ++ before, fields⟩ := by
  induction field generalizing before with
  | nil => rfl
  | cons b field ih =>
    rw [List.reverse_cons, List.append_assoc, List.singleton_append, ← ih (b :: before)]
    by_cases hb : b = quote
    · subst hb
      have hfirst : step delimiter ⟨.quoted, before, fields⟩ quote =
          .continue ⟨.quoteSeen, before, fields⟩ := rfl
      have hsecond : step delimiter ⟨.quoteSeen, before, fields⟩ quote =
          .continue ⟨.quoted, quote :: before, fields⟩ := rfl
      rw [doubleQuotes, if_pos rfl, feed_cons hfirst, feed_cons hsecond]
    · have hstep : step delimiter ⟨.quoted, before, fields⟩ b =
          .continue ⟨.quoted, b :: before, fields⟩ := by
        simp [step, push, hb]
      rw [doubleQuotes, if_neg hb, feed_cons hstep]

theorem feed_quoted {p : Phase} (hp : p.Starts) (field : List UInt8)
    (fields : List (List UInt8)) :
    feed delimiter ⟨p, [], fields⟩ (quote :: doubleQuotes field ++ [quote]) =
      some ⟨.quoteSeen, field.reverse, fields⟩ := by
  rw [List.cons_append, feed_cons (step_quote hp fields),
    feed_append (feed_doubleQuotes field [] fields), List.append_nil]
  rfl

/-- A written field, read from where a field may start, is the last field of the record, and the
next byte is outside quotes. The reader is still between two records only if the field is empty and
it was there before. -/
theorem feed_writeField {p : Phase} (hp : p.Starts) (field : List UInt8)
    (fields : List (List UInt8)) :
    ∃ next, feed delimiter ⟨p, [], fields⟩ (writeField delimiter field) =
        some ⟨next, field.reverse, fields⟩ ∧
      next ≠ .quoted ∧ (next = .idle → p = .idle ∧ writeField delimiter field = []) := by
  unfold writeField
  cases hneeds : needsQuotes delimiter field with
  | true =>
    refine ⟨.quoteSeen, ?_, by decide, by simp⟩
    rw [if_pos rfl]
    exact feed_quoted hp field fields
  | false =>
    rw [if_neg Bool.false_ne_true]
    have hplain := forall_plain_of_not_needsQuotes hneeds
    cases field with
    | nil =>
      refine ⟨p, rfl, ?_, fun h => ⟨h, rfl⟩⟩
      rcases hp with rfl | rfl <;> decide
    | cons b field =>
      obtain ⟨hb, hfield⟩ := List.forall_mem_cons.1 hplain
      refine ⟨.plain, ?_, by decide, by simp⟩
      rw [feed_cons (step_start hp hb fields), feed_plain hfield, List.reverse_cons]

/-! ## The fields of a record -/

/-- Outside quotes a delimiter ends the field. -/
theorem step_delimiter (hs : Separates delimiter) {d : Draft} (h : d.phase ≠ .quoted) :
    d.step delimiter delimiter = .continue d.nextField := by
  have hplain : d.stepPlain delimiter delimiter = .continue d.nextField := by simp [stepPlain]
  have hstart : d.stepStart delimiter delimiter = .continue d.nextField := by
    rw [stepStart, if_neg hs.ne_quote, hplain]
  unfold step
  split
  · rw [hs.not_lineEnd, if_neg Bool.false_ne_true, hstart]
  · exact hstart
  · exact hplain
  · rename_i hquoted
    exact absurd hquoted h
  · rw [if_neg hs.ne_quote, hplain]

/-- Outside quotes a line feed ends the record, unless there is no record yet. -/
theorem step_lineFeed (hs : Separates delimiter) {d : Draft} (h : d.phase ≠ .quoted)
    (hidle : d.phase ≠ .idle) : d.step delimiter 0x0A = .record d.finish := by
  have hdelimiter : 0x0A ≠ delimiter := by
    rintro rfl
    exact absurd hs.not_lineEnd (by decide)
  have hquote : (0x0A : UInt8) ≠ quote := by decide
  have hline : isLineEnd 0x0A = true := by decide
  have hplain : d.stepPlain delimiter 0x0A = .record d.finish := by
    rw [stepPlain, if_neg hdelimiter, if_pos hline]
  unfold step
  split
  · rename_i hphase
    exact absurd hphase hidle
  · rw [stepStart, if_neg hquote, hplain]
  · exact hplain
  · rename_i hquoted
    exact absurd hquoted h
  · rw [if_neg hquote, hplain]

/-- Written fields with delimiters between them, read from where a field may start, are the next
fields of the record. The reader is still between two records only if nothing was written. -/
theorem feed_joinFields (hs : Separates delimiter) {p : Phase} (hp : p.Starts)
    (before : List (List UInt8)) {fields : List (List UInt8)} (hne : fields ≠ []) :
    ∃ d, feed delimiter ⟨p, [], before⟩ (joinFields delimiter (fields.map (writeField delimiter))) =
        some d ∧
      d.finish = before.reverse ++ fields ∧ d.phase ≠ .quoted ∧
      (d.phase = .idle →
        p = .idle ∧ joinFields delimiter (fields.map (writeField delimiter)) = []) := by
  induction fields generalizing p before with
  | nil => exact absurd rfl hne
  | cons field rest ih =>
    obtain ⟨next, hfeed, hquoted, hidle⟩ := feed_writeField hp field before
    cases rest with
    | nil =>
      refine ⟨_, hfeed, ?_, hquoted, hidle⟩
      rw [finish, List.reverse_reverse, List.reverse_cons]
    | cons second rest =>
      have hstep : step delimiter ⟨next, field.reverse, before⟩ delimiter =
          .continue ⟨.fieldStart, [], field :: before⟩ := by
        rw [step_delimiter hs hquoted, nextField, List.reverse_reverse]
      obtain ⟨d, hd, hfinish, hdq, hdi⟩ := ih (.inr rfl) (field :: before) (List.cons_ne_nil _ _)
      have hjoin : joinFields delimiter ((field :: second :: rest).map (writeField delimiter)) =
          writeField delimiter field ++
            delimiter :: joinFields delimiter ((second :: rest).map (writeField delimiter)) := rfl
      refine ⟨d, ?_, ?_, hdq, fun h => absurd (hdi h).1 (by decide)⟩
      · rw [hjoin, feed_append hfeed, feed_cons hstep, hd]
      · rw [hfinish, List.reverse_cons, List.append_assoc, List.singleton_append]

end Draft

/-! ## Records -/

/-- Before its line end a written record has been read into the bytes of its cells: its line is
never empty, as two quotes stand for a single empty cell. -/
theorem exists_feed_writeRecord (hs : Separates delimiter) {record : List String}
    (hne : record ≠ []) :
    ∃ line d, writeRecord delimiter record = line ++ [0x0A] ∧
      Draft.idle.feed delimiter line = some d ∧ d.finish = record.map Text.bytes ∧
      d.phase ≠ .quoted ∧ d.phase ≠ .idle := by
  have hcells : record.map Text.bytes ≠ [] := by simpa using hne
  obtain ⟨d, hfeed, hfinish, hquoted, hidle⟩ := Draft.feed_joinFields hs (.inl rfl) [] hcells
  rw [List.reverse_nil, List.nil_append] at hfinish
  have hwrite : writeRecord delimiter record =
      (if (joinFields delimiter ((record.map Text.bytes).map (writeField delimiter))).isEmpty
        then [quote, quote]
        else joinFields delimiter ((record.map Text.bytes).map (writeField delimiter))) ++
        [0x0A] := by
    rw [List.map_map]
    rfl
  generalize joinFields delimiter ((record.map Text.bytes).map (writeField delimiter)) = line
    at hfeed hidle hwrite
  cases line with
  | nil =>
    -- Nothing was read, so the record has one cell, and that is empty.
    cases hfeed
    exact ⟨_, _, hwrite, Draft.feed_quoted (.inl rfl) [] [], hfinish, by decide, by decide⟩
  | cons b line =>
    exact ⟨_, d, hwrite, hfeed, hfinish, hquoted, fun h => List.cons_ne_nil _ _ (hidle h).2⟩

/-- A written record is split into the bytes of its cells. -/
theorem split_writeRecord (hs : Separates delimiter) {record : List String} (hne : record ≠ [])
    (start here : Position) (rest : List UInt8) :
    ∃ after, split delimiter start here .idle (writeRecord delimiter record ++ rest) =
      ⟨start, record.map Text.bytes⟩ :: split delimiter after after .idle rest := by
  obtain ⟨line, d, hwrite, hfeed, hfinish, hquoted, hidle⟩ := exists_feed_writeRecord hs hne
  refine ⟨(line.foldl Position.next here).next 0x0A, ?_⟩
  rw [hwrite, List.append_assoc, split_append hfeed, List.singleton_append, split,
    Draft.step_lineFeed hs hquoted hidle, hfinish]

/-- Written records are split into the bytes of their cells. -/
theorem fields_split_flatMap (hs : Separates delimiter) {records : List (List String)}
    (hne : ∀ record ∈ records, record ≠ []) (start here : Position) :
    (split delimiter start here .idle (records.flatMap (writeRecord delimiter))).map (·.fields) =
      records.map (·.map Text.bytes) := by
  induction records generalizing start here with
  | nil => rfl
  | cons record rest ih =>
    obtain ⟨hrecord, hrest⟩ := List.forall_mem_cons.1 hne
    obtain ⟨after, hsplit⟩ := split_writeRecord hs hrecord start here
      (rest.flatMap (writeRecord delimiter))
    rw [List.flatMap_cons, hsplit, List.map_cons, List.map_cons, ih hrest after after]

end EndpointCountry.Delimited
