import EndpointCountry.Datum.Json
import EndpointCountry.Datum.Json.Reader
import EndpointCountry.Proofs.Text

/-!
# JSON on one line

A tree of data that JSON can hold reads back from its text on one line, whatever its own texts
hold, and no line ends within that text.

* `jsonText?_jsonString`, `number?_toDigits` — texts and natural numbers read back.
* `Exact` — the trees that JSON holds as they are: natural numbers that fit, and records that name
  no field twice.
* `Exact.readBy`, `Exact.ofJson?_compact` — such a tree reads back.
* `Exact.newline_notMem_compact` — its text is one line.
-/

namespace EndpointCountry.Datum

/-! ## Joined parts -/

/-- Parts between separators are the first part and then separators with a part behind each. -/
theorem intercalate_cons_eq (sep : Char) (part : List Char) (parts : List (List Char)) :
    [sep].intercalate (part :: parts) = part ++ parts.flatMap (sep :: ·) := by
  induction parts generalizing part with
  | nil => simp
  | cons next rest ih => simp [List.intercalate_cons_cons, ih]

theorem mem_intercalate {sep c : Char} {parts : List (List Char)}
    (h : c ∈ [sep].intercalate parts) : c = sep ∨ ∃ part ∈ parts, c ∈ part := by
  cases parts with
  | nil => cases h
  | cons part rest =>
    rw [intercalate_cons_eq] at h
    simp only [List.mem_append, List.mem_flatMap, List.mem_cons] at h
    rcases h with h | ⟨next, hnext, rfl | h⟩
    · exact .inr ⟨part, List.mem_cons_self, h⟩
    · exact .inl rfl
    · exact .inr ⟨next, List.mem_cons_of_mem _ hnext, h⟩

theorem length_le_length_intercalate (sep : Char) {part : List Char} {parts : List (List Char)}
    (h : part ∈ parts) : part.length ≤ ([sep].intercalate parts).length := by
  cases parts with
  | nil => cases h
  | cons first rest =>
    rw [intercalate_cons_eq, List.length_append]
    rcases List.mem_cons.1 h with rfl | h
    · omega
    · have hsub := (List.sublist_flatten_of_mem (List.mem_map_of_mem (f := (sep :: ·)) h)).length_le
      rw [← List.flatMap_def, List.length_cons] at hsub
      omega

/-- Pieces that are not empty are no more than their characters. -/
theorem length_le_length_flatMap {α : Type} (piece : α → List Char) (hpiece : ∀ a, piece a ≠ [])
    (l : List α) : l.length ≤ (l.flatMap piece).length := by
  induction l with
  | nil => simp
  | cons a l ih =>
    have ha : 0 < (piece a).length := List.length_pos_iff.2 (hpiece a)
    simp only [List.flatMap_cons, List.length_append, List.length_cons]
    omega

/-! ## Texts -/

theorem hexNumber?_control {n : Nat} (h : n < 0x20) :
    Text.hexNumber? ['0', '0', Text.hexDigit (n / 16), Text.hexDigit (n % 16)] = some n := by
  have hall : ∀ n < 0x20,
      Text.hexNumber? ['0', '0', Text.hexDigit (n / 16), Text.hexDigit (n % 16)] = some n := by
    decide
  exact hall n h

/-- A character reads back as it was written, and one is read at a time. -/
theorem jsonTextBy_jsonChar (fuel : Nat) (c : Char) (rest : List Char) :
    jsonTextBy (fuel + 1) (jsonChar c ++ rest) =
      (jsonTextBy fuel rest).map fun p => (c :: p.1, p.2) := by
  unfold jsonChar
  split
  case h_8 hquote hbackslash _ _ _ _ _ =>
    split
    · rename_i hcontrol
      have hchar : Text.charOf? c.toNat = some c := by
        rw [Text.charOf?, if_pos (show c.toNat.isValidChar from c.valid), Char.ofNat_toNat]
      cases h : jsonTextBy fuel rest <;>
        simp [jsonTextBy, jsonEscaped?, hexNumber?_control hcontrol, hchar, h]
    · rename_i hplain
      simp [jsonTextBy, hplain]
  all_goals
    cases h : jsonTextBy fuel rest <;> simp [jsonTextBy, jsonEscaped?, jsonEscape?, h]

/-- A text reads back up to its closing quotation mark. -/
theorem jsonTextBy_flatMap_jsonChar {fuel : Nat} {cs : List Char} (h : cs.length < fuel)
    (rest : List Char) :
    jsonTextBy fuel (cs.flatMap jsonChar ++ '"' :: rest) = some (cs, rest) := by
  induction cs generalizing fuel with
  | nil =>
    cases fuel with
    | zero => cases h
    | succ fuel => rfl
  | cons c cs ih =>
    cases fuel with
    | zero => cases h
    | succ fuel =>
      rw [List.flatMap_cons, List.append_assoc, jsonTextBy_jsonChar, ih (Nat.lt_of_succ_lt_succ h),
        Option.map_some]

theorem toList_jsonString (s : String) :
    (jsonString s).toList = '"' :: (s.toList.flatMap jsonChar ++ ['"']) := by
  rw [jsonString, String.toList_ofList, List.cons_append]

theorem jsonChar_ne_nil (c : Char) : jsonChar c ≠ [] := by
  unfold jsonChar
  grind

/-- What is written for a text reads back as the text. -/
theorem jsonText?_jsonString {size : Nat} {s : String}
    (h : (jsonString s).toList.length ≤ size) (rest : List Char) :
    jsonText? size (s.toList.flatMap jsonChar ++ '"' :: rest) = some (s, rest) := by
  have hlength := length_le_length_flatMap jsonChar jsonChar_ne_nil s.toList
  rw [toList_jsonString, List.length_cons, List.length_append, List.length_singleton] at h
  simp only [jsonText?, jsonTextBy_flatMap_jsonChar (show s.toList.length < size by omega),
    Option.map_some, String.ofList_toList]

/-! ## Natural numbers -/

/-- What follows a value within a list or a record. -/
def Ends (rest : List Char) : Prop :=
  ∀ c ∈ rest.head?, c = ',' ∨ c = ']' ∨ c = '\x7d'

theorem splitDigits_append {digits rest : List Char} (h : ∀ c ∈ digits, c.isDigit = true)
    (hrest : Ends rest) : splitDigits (digits ++ rest) = (digits, rest) := by
  have hdigits : ∀ c ∈ digits, Text.isDigit c = true := fun c hc => by
    rw [Text.isDigit_eq, h c hc]
  have hnone : rest.takeWhile Text.isDigit = [] ∧ rest.dropWhile Text.isDigit = rest := by
    cases rest with
    | nil => exact ⟨rfl, rfl⟩
    | cons c cs =>
      have hc : Text.isDigit c = false := by
        rcases hrest c rfl with rfl | rfl | rfl <;> rfl
      exact ⟨List.takeWhile_cons_of_neg (by simp [hc]), List.dropWhile_cons_of_neg (by simp [hc])⟩
  rw [splitDigits, List.takeWhile_append_of_pos hdigits, List.dropWhile_append_of_pos hdigits,
    hnone.1, hnone.2, List.append_nil]

theorem isDigit_of_mem_toDigits {n : Nat} {c : Char} (h : c ∈ Nat.toDigits 10 n) :
    c.isDigit = true :=
  Nat.isDigit_of_mem_toDigits (by decide) (by decide) h

/-- Only zero is written with a zero in front. -/
theorem toDigits_ne_zero_cons (n : Nat) (c : Char) (cs : List Char) :
    Nat.toDigits 10 n ≠ '0' :: c :: cs := by
  intro h
  have hvalue : Nat.ofDigitChars 10 (c :: cs) 0 = n := by
    have hn := Nat.ofDigitChars_toDigits (n := n) (show 1 < 10 by decide) (Nat.le_refl 10)
    rw [h, Nat.ofDigitChars_cons] at hn
    exact hn
  have hdigits : ∀ d ∈ c :: cs, d.isDigit = true := fun d hd =>
    isDigit_of_mem_toDigits (n := n) (h ▸ List.mem_cons_of_mem _ hd)
  have hlt : n < 10 ^ (c :: cs).length := hvalue ▸ Text.ofDigitChars_lt hdigits
  have hlength := (Nat.length_toDigits_le_iff (show 1 < 10 by decide) (Nat.succ_pos _)).2 hlt
  rw [h] at hlength
  exact Nat.not_succ_le_self _ hlength

/-- Digits of a number that is kept are all kept. -/
theorem appendDigits_eq (n : Nat) (cs : List Char) (h : Nat.ofDigitChars 10 cs n ≤ maxWhole) :
    appendDigits n cs = (Nat.ofDigitChars 10 cs n, cs.length) := by
  induction cs generalizing n with
  | nil => rfl
  | cons c cs ih =>
    rw [Nat.ofDigitChars_cons] at h
    have hnext : 10 * n + (c.toNat - '0'.toNat) ≤ maxWhole :=
      Nat.le_trans (Text.le_ofDigitChars _ _) h
    rw [appendDigits, if_pos hnext, ih _ h, Nat.ofDigitChars_cons]
    rfl

theorem wholeDigits?_toDigits (n : Nat) {rest : List Char} (hrest : Ends rest) :
    wholeDigits? (Nat.toDigits 10 n ++ rest) = some (Nat.toDigits 10 n, rest) := by
  rw [wholeDigits?, splitDigits_append (fun c hc => isDigit_of_mem_toDigits hc) hrest]
  split
  · rename_i hnil
    exact absurd (congrArg Prod.fst hnil) Nat.toDigits_ne_nil
  · rename_i hzero
    exact absurd (congrArg Prod.fst hzero) (toDigits_ne_zero_cons n _ _)
  · rfl

/-- Neither a fraction nor an exponent starts where a value ends. -/
theorem Ends.no_more {rest : List Char} (h : Ends rest) :
    fractionDigits? rest = some ([], rest) ∧ exponentPart? rest = some (none, rest) := by
  cases rest with
  | nil => exact ⟨rfl, rfl⟩
  | cons c cs => rcases h c rfl with rfl | rfl | rfl <;> exact ⟨rfl, rfl⟩

/-- A natural number that is kept reads back. -/
theorem number?_toDigits {n : Nat} (h : n ≤ maxWhole) {rest : List Char} (hrest : Ends rest) :
    number? (Nat.toDigits 10 n ++ rest) = some (.integer n, rest) := by
  have hvalue : Nat.ofDigitChars 10 (Nat.toDigits 10 n) 0 = n :=
    Nat.ofDigitChars_toDigits (by decide) (Nat.le_refl 10)
  have happend := appendDigits_eq 0 (Nat.toDigits 10 n) (by rw [hvalue]; exact h)
  rw [hvalue] at happend
  have hnumeral : ofNumeral? false (Nat.toDigits 10 n) [] none = some (.integer n) := by
    simp [ofNumeral?, happend]
  have hsign : ∀ cs, Nat.toDigits 10 n ++ rest ≠ '-' :: cs := by
    intro cs hcs
    obtain ⟨c, ds, hds⟩ := List.exists_cons_of_ne_nil (Nat.toDigits_ne_nil (b := 10) (n := n))
    have hc : c.isDigit = true :=
      isDigit_of_mem_toDigits (n := n) (by rw [hds]; exact List.mem_cons_self)
    rw [hds, List.cons_append, List.cons.injEq] at hcs
    rw [hcs.1] at hc
    cases hc
  unfold number?
  split
  rename_i negative cs hmatch
  split at hmatch
  · rename_i hminus
    exact absurd hminus (hsign _)
  · cases hmatch
    simp [wholeDigits?_toDigits n hrest, hrest.no_more, hnumeral]

/-! ## Lists and records -/

/-- The text of a field on one line. -/
def fieldText (f : String × Datum) : List Char :=
  '"' :: (f.1.toList.flatMap jsonChar ++ '"' :: ':' :: f.2.compact.toList)

theorem compactItems_eq (items : List Datum) : compactItems items = items.map compact := by
  induction items with
  | nil => rfl
  | cons d ds ih => rw [compactItems, ih, List.map_cons]

theorem toList_compactFields (fields : List (String × Datum)) :
    (compactFields fields).map String.toList = fields.map fieldText := by
  induction fields with
  | nil => rfl
  | cons f rest ih =>
    simp [compactFields, ih, fieldText, toList_jsonString]

theorem toList_compact_list (items : List Datum) :
    (list items).compact.toList =
      '[' :: ([','].intercalate (items.map fun d => d.compact.toList) ++ [']']) := by
  simp [compact, compactItems_eq, String.toList_intercalate, Function.comp_def]

theorem toList_compact_record (fields : List (String × Datum)) :
    (record fields).compact.toList =
      '\x7b' :: ([','].intercalate (fields.map fieldText) ++ ['\x7d']) := by
  simp [compact, String.toList_intercalate, toList_compactFields]

/-- A reader reads a tree back, whatever ends it. -/
def ReadBy (read : List Char → Option (Datum × List Char)) (d : Datum) : Prop :=
  ∀ rest, Ends rest → read (d.compact.toList ++ rest) = some (d, rest)

section Elements

variable {read : List Char → Option (Datum × List Char)}

theorem ends_cons {c : Char} (h : c = ',' ∨ c = ']' ∨ c = '\x7d') (cs : List Char) :
    Ends (c :: cs) := by
  intro d hd
  cases hd
  exact h

theorem ends_flatMap_append {α : Type} (piece : α → List Char) (l : List α) {rest : List Char}
    (h : Ends rest) : Ends (l.flatMap (fun a => ',' :: piece a) ++ rest) := by
  cases l with
  | nil => exact h
  | cons a l => exact ends_cons (.inl rfl) _

/-- Elements that are read back one by one are read back as a list. -/
theorem moreItemsBy_flatMap {fuel : Nat} {items : List Datum} (hread : ∀ d ∈ items, ReadBy read d)
    (hfuel : items.length < fuel) (rest : List Char) :
    moreItemsBy read fuel (items.flatMap (fun d => ',' :: d.compact.toList) ++ ']' :: rest) =
      some (items, rest) := by
  induction items generalizing fuel with
  | nil =>
    cases fuel with
    | zero => cases hfuel
    | succ fuel => rfl
  | cons d ds ih =>
    cases fuel with
    | zero => cases hfuel
    | succ fuel =>
      obtain ⟨hd, hds⟩ := List.forall_mem_cons.1 hread
      have hrest := ih hds (Nat.lt_of_succ_lt_succ hfuel)
      have hfirst := hd _ (ends_flatMap_append (fun d => d.compact.toList) ds
        (ends_cons (.inr (.inl rfl)) rest))
      simp [moreItemsBy, skipJsonBlanks, isJsonBlank, hfirst, hrest]

/-- A field reads back if its value does. -/
theorem jsonField?_fieldText {size : Nat} {f : String × Datum} (hread : ReadBy read f.2)
    (hsize : (fieldText f).length ≤ size) {rest : List Char} (hrest : Ends rest) :
    jsonField? size read (fieldText f ++ rest) = some (f, rest) := by
  have hname : (jsonString f.1).toList.length ≤ size := by
    rw [toList_jsonString]
    simp only [fieldText, List.length_cons, List.length_append, List.length_nil] at hsize ⊢
    omega
  have htext := jsonText?_jsonString hname (':' :: (f.2.compact.toList ++ rest))
  simp [jsonField?, fieldText, skipJsonBlanks, isJsonBlank, htext, hread rest hrest]

/-- Fields whose values are read back one by one are read back together. -/
theorem moreFieldsBy_flatMap {size fuel : Nat} {fields : List (String × Datum)}
    (hread : ∀ f ∈ fields, ReadBy read f.2) (hsize : ∀ f ∈ fields, (fieldText f).length ≤ size)
    (hfuel : fields.length < fuel) (rest : List Char) :
    moreFieldsBy size read fuel (fields.flatMap (fun f => ',' :: fieldText f) ++ '\x7d' :: rest) =
      some (fields, rest) := by
  induction fields generalizing fuel with
  | nil =>
    cases fuel with
    | zero => cases hfuel
    | succ fuel => rfl
  | cons f fs ih =>
    cases fuel with
    | zero => cases hfuel
    | succ fuel =>
      obtain ⟨hf, hfs⟩ := List.forall_mem_cons.1 hread
      obtain ⟨hfsize, hfssize⟩ := List.forall_mem_cons.1 hsize
      have hrest := ih hfs hfssize (Nat.lt_of_succ_lt_succ hfuel)
      have hfirst := jsonField?_fieldText hf hfsize (ends_flatMap_append fieldText fs
        (ends_cons (.inr (.inr rfl)) rest))
      simp [moreFieldsBy, skipJsonBlanks, isJsonBlank, hfirst, hrest]

end Elements

/-- Fields with different names are all kept. -/
theorem foldl_setField {kept fields : List (String × Datum)}
    (h : ((kept ++ fields).map (·.1)).Nodup) : fields.foldl setField kept = kept ++ fields := by
  induction fields generalizing kept with
  | nil => simp
  | cons f rest ih =>
    have hnew : ∀ g ∈ kept, g.1 ≠ f.1 := by
      intro g hg heq
      rw [List.map_append, List.nodup_append] at h
      exact h.2.2 _ (List.mem_map_of_mem hg) _ (by simp) heq
    have hset : setField kept f = kept ++ [f] := by
      rw [setField, List.filter_eq_self.2 fun g hg => decide_eq_true (hnew g hg)]
    rw [List.foldl_cons, hset, ih (by simpa using h), List.append_assoc, List.singleton_append]

/-! ## Trees -/

theorem skipJsonBlanks_cons {c : Char} (h : isJsonBlank c = false) (cs : List Char) :
    skipJsonBlanks (c :: cs) = c :: cs := by
  rw [skipJsonBlanks, List.dropWhile_cons_of_neg (by simp [h])]

/-- A tree that JSON holds as it is. -/
inductive Exact : Datum → Prop
  | null : Exact .null
  | boolean (b : Bool) : Exact (.boolean b)
  | integer {n : Nat} (h : n ≤ maxWhole) : Exact (.integer n)
  | text (s : String) : Exact (.text s)
  | list {items : List Datum} (h : ∀ d ∈ items, Exact d) : Exact (.list items)
  | record {fields : List (String × Datum)} (hnames : (fields.map (·.1)).Nodup)
    (h : ∀ f ∈ fields, Exact f.2) : Exact (.record fields)

theorem toList_compact_integer (n : Nat) : (integer n).compact.toList = Nat.toDigits 10 n := by
  have htext : (integer n).compact = Nat.repr n := rfl
  rw [htext, Nat.toList_repr]

theorem toList_compact_text (s : String) :
    (text s).compact.toList = '"' :: (s.toList.flatMap jsonChar ++ ['"']) :=
  toList_jsonString s

/-- A value starts with neither a blank nor a closing bracket. -/
theorem Exact.compact_head {d : Datum} (h : Exact d) :
    ∃ c cs, d.compact.toList = c :: cs ∧ isJsonBlank c = false ∧ c ≠ ']' := by
  cases h with
  | null => exact ⟨'n', _, rfl, rfl, by decide⟩
  | boolean b => cases b <;> exact ⟨_, _, rfl, rfl, by decide⟩
  | @integer n =>
    obtain ⟨c, cs, hcs⟩ := List.exists_cons_of_ne_nil (Nat.toDigits_ne_nil (b := 10) (n := n))
    have hc : c.isDigit = true :=
      isDigit_of_mem_toDigits (n := n) (by rw [hcs]; exact List.mem_cons_self)
    refine ⟨c, cs, (toList_compact_integer n).trans hcs, ?_, ?_⟩
    · cases hblank : isJsonBlank c with
      | false => rfl
      | true =>
        simp only [isJsonBlank, Bool.or_eq_true, beq_iff_eq] at hblank
        rcases hblank with ((rfl | rfl) | rfl) | rfl <;> cases hc
    · rintro rfl
      cases hc
  | text s => exact ⟨'"', _, toList_compact_text s, rfl, by decide⟩
  | @list items => exact ⟨'[', _, toList_compact_list items, rfl, by decide⟩
  | @record fields => exact ⟨'\x7b', _, toList_compact_record fields, rfl, by decide⟩

theorem mem_digits_of_isDigit {c : Char} (h : c.isDigit = true) :
    c ∈ ['0', '1', '2', '3', '4', '5', '6', '7', '8', '9'] := by
  simp only [Char.isDigit, Bool.and_eq_true, decide_eq_true_eq] at h
  have hlow : 48 ≤ c.toNat := h.1
  have hhigh : c.toNat ≤ 57 := h.2
  rw [← Char.ofNat_toNat c]
  interval_cases c.toNat <;> decide

/-- What starts with a digit is read as a number. -/
theorem jsonValue?_digit (size depth : Nat) {c : Char} (h : c.isDigit = true) (cs : List Char) :
    jsonValue? size (depth + 1) (c :: cs) = number? (c :: cs) := by
  have hc := mem_digits_of_isDigit h
  simp only [List.mem_cons, List.not_mem_nil, or_false] at hc
  rcases hc with rfl | rfl | rfl | rfl | rfl | rfl | rfl | rfl | rfl | rfl <;> rfl

/-- Elements that are read back in turn make up a list that is. -/
theorem readBy_list {size depth : Nat} {items : List Datum} (hexact : ∀ d ∈ items, d.Exact)
    (hread : ∀ d ∈ items, ReadBy (jsonValue? size depth) d)
    (hsize : (list items).compact.toList.length ≤ size) :
    ReadBy (jsonValue? size (depth + 1)) (list items) := by
  intro rest hrest
  rw [toList_compact_list] at hsize ⊢
  cases items with
  | nil => simp [jsonValue?, skipJsonBlanks, isJsonBlank]
  | cons d ds =>
    obtain ⟨hd, hds⟩ := List.forall_mem_cons.1 hread
    obtain ⟨c, cs, hcs, hblank, hbracket⟩ := (hexact d List.mem_cons_self).compact_head
    have hfuel : ds.length < size := by
      have hlength := length_le_length_flatMap (fun d => ',' :: d.compact.toList)
        (fun d => List.cons_ne_nil _ _) ds
      rw [List.map_cons, intercalate_cons_eq, List.flatMap_map] at hsize
      simp only [List.length_cons, List.length_append] at hsize
      omega
    have hfirst := hd _ (ends_flatMap_append (fun d => d.compact.toList) ds
      (ends_cons (.inr (.inl rfl)) rest))
    have hmore := moreItemsBy_flatMap hds hfuel rest
    rw [hcs, List.cons_append] at hfirst
    rw [List.map_cons, intercalate_cons_eq, List.flatMap_map, hcs]
    have hopen (cs : List Char) : skipJsonBlanks ('[' :: cs) = '[' :: cs :=
      skipJsonBlanks_cons rfl cs
    simp [jsonValue?, hopen, skipJsonBlanks_cons hblank, hbracket, hfirst, hmore]

/-- Fields whose values are read back in turn make up a record that is. -/
theorem readBy_record {size depth : Nat} {fields : List (String × Datum)}
    (hnames : (fields.map (·.1)).Nodup) (hread : ∀ f ∈ fields, ReadBy (jsonValue? size depth) f.2)
    (hsize : (record fields).compact.toList.length ≤ size) :
    ReadBy (jsonValue? size (depth + 1)) (record fields) := by
  intro rest hrest
  have hopen (cs : List Char) : skipJsonBlanks ('\x7b' :: cs) = '\x7b' :: cs :=
    skipJsonBlanks_cons rfl cs
  rw [toList_compact_record] at hsize ⊢
  cases fields with
  | nil => simp [jsonValue?, skipJsonBlanks, isJsonBlank]
  | cons f fs =>
    have hfields : ∀ g ∈ f :: fs, (fieldText g).length ≤ size := by
      intro g hg
      have hlength := length_le_length_intercalate ',' (List.mem_map_of_mem (f := fieldText) hg)
      simp only [List.length_cons, List.length_append] at hsize
      omega
    obtain ⟨hf, hfs⟩ := List.forall_mem_cons.1 hread
    obtain ⟨hfsize, hfssize⟩ := List.forall_mem_cons.1 hfields
    have hfuel : fs.length < size := by
      have hlength := length_le_length_flatMap (fun f => ',' :: fieldText f)
        (fun f => List.cons_ne_nil _ _) fs
      rw [List.map_cons, intercalate_cons_eq, List.flatMap_map] at hsize
      simp only [List.length_cons, List.length_append] at hsize
      omega
    have hfirst := jsonField?_fieldText hf hfsize (ends_flatMap_append fieldText fs
      (ends_cons (.inr (.inr rfl)) rest))
    have hmore := moreFieldsBy_flatMap hfs hfssize hfuel rest
    have hkept : (f :: fs).foldl setField [] = f :: fs := foldl_setField (by simpa using hnames)
    obtain ⟨cs, hcs⟩ : ∃ cs, fieldText f = '"' :: cs := ⟨_, rfl⟩
    have hquote (cs : List Char) : skipJsonBlanks ('"' :: cs) = '"' :: cs :=
      skipJsonBlanks_cons rfl cs
    rw [hcs, List.cons_append] at hfirst
    rw [List.map_cons, intercalate_cons_eq, List.flatMap_map, hcs]
    rw [List.foldl_cons] at hkept
    simp [jsonValue?, hopen, hquote, hfirst, hmore, hkept]

/-- A tree that JSON holds reads back from its text on one line: its parts are shorter than the
text, and not nested deeper than that. -/
theorem Exact.readBy {d : Datum} (h : d.Exact) {size depth : Nat}
    (hdepth : d.compact.toList.length ≤ depth) (hsize : d.compact.toList.length ≤ size) :
    ReadBy (jsonValue? size (depth + 1)) d := by
  induction h generalizing depth with
  | null => exact fun rest _ => rfl
  | boolean b => cases b <;> exact fun rest _ => rfl
  | @integer n hn =>
    intro rest hrest
    have hnumber := number?_toDigits hn hrest
    rw [toList_compact_integer]
    cases hcs : Nat.toDigits 10 n with
    | nil => exact absurd hcs Nat.toDigits_ne_nil
    | cons c cs =>
      have hc : c.isDigit = true :=
        isDigit_of_mem_toDigits (n := n) (by rw [hcs]; exact List.mem_cons_self)
      rw [hcs] at hnumber
      rw [List.cons_append, jsonValue?_digit size depth hc]
      exact hnumber
  | text s =>
    intro rest hrest
    have htext := jsonText?_jsonString hsize rest
    have hquote (cs : List Char) : skipJsonBlanks ('"' :: cs) = '"' :: cs :=
      skipJsonBlanks_cons rfl cs
    rw [toList_compact_text]
    simp [jsonValue?, hquote, htext]
  | @list items hitems ih =>
    have hlength := congrArg List.length (toList_compact_list items)
    rw [List.length_cons, List.length_append] at hlength
    obtain ⟨k, rfl⟩ : ∃ k, depth = k + 1 := ⟨depth - 1, by omega⟩
    refine readBy_list hitems (fun d hd => ?_) hsize
    have hle := length_le_length_intercalate ','
      (List.mem_map_of_mem (f := fun d => d.compact.toList) hd)
    exact ih d hd (by omega) (by omega)
  | @record fields hnames hfields ih =>
    have hlength := congrArg List.length (toList_compact_record fields)
    rw [List.length_cons, List.length_append] at hlength
    obtain ⟨k, rfl⟩ : ∃ k, depth = k + 1 := ⟨depth - 1, by omega⟩
    refine readBy_record hnames (fun f hf => ?_) hsize
    have hle := length_le_length_intercalate ',' (List.mem_map_of_mem (f := fieldText) hf)
    have hvalue : f.2.compact.toList.length ≤ (fieldText f).length := by
      simp only [fieldText, List.length_cons, List.length_append]
      omega
    exact ih f hf (by omega) (by omega)

theorem Exact.ofJson?_compact {d : Datum} (h : d.Exact) : ofJson? d.compact = some d := by
  have hread := h.readBy (Nat.le_refl _) (Nat.le_refl _) [] (by intro c hc; cases hc)
  rw [List.append_nil] at hread
  simp [ofJson?, hread, skipJsonBlanks]

/-! ## One line -/

theorem newline_notMem_jsonChar (c : Char) : '\n' ∉ jsonChar c := by
  unfold jsonChar
  split
  case h_8 hnewline _ _ =>
    split
    · rename_i hcontrol
      have hall : ∀ n < 0x20, '\n' ∉ [Text.hexDigit (n / 16), Text.hexDigit (n % 16)] := by decide
      have hdigits := hall c.toNat hcontrol
      simpa using hdigits
    · rw [List.mem_singleton]
      exact fun h => hnewline h.symm
  all_goals decide

/-- The text of a tree that JSON holds has no line end in it. -/
theorem Exact.newline_notMem_compact {d : Datum} (h : d.Exact) : '\n' ∉ d.compact.toList := by
  induction h with
  | null => decide
  | boolean b => cases b <;> decide
  | @integer n hn =>
    rw [toList_compact_integer]
    intro hmem
    cases isDigit_of_mem_toDigits hmem
  | text s =>
    rw [toList_compact_text]
    simp [newline_notMem_jsonChar]
  | @list items hitems ih =>
    rw [toList_compact_list]
    intro hmem
    simp only [List.mem_cons, List.mem_append, List.not_mem_nil, or_false] at hmem
    rcases hmem with hmem | hmem | hmem
    · cases hmem
    · rcases mem_intercalate hmem with hcomma | ⟨part, hpart, hin⟩
      · cases hcomma
      · obtain ⟨d, hd, rfl⟩ := List.mem_map.1 hpart
        exact ih d hd hin
    · cases hmem
  | @record fields hnames hfields ih =>
    rw [toList_compact_record]
    intro hmem
    simp only [List.mem_cons, List.mem_append, List.not_mem_nil, or_false] at hmem
    rcases hmem with hmem | hmem | hmem
    · cases hmem
    · rcases mem_intercalate hmem with hcomma | ⟨part, hpart, hin⟩
      · cases hcomma
      · obtain ⟨f, hf, rfl⟩ := List.mem_map.1 hpart
        exact ih f hf (by simpa [fieldText, newline_notMem_jsonChar] using hin)
    · cases hmem

end EndpointCountry.Datum
