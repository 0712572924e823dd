import EndpointCountry.Proofs.Country
import EndpointCountry.Proofs.Datum.Json
import EndpointCountry.Proofs.Steps
import EndpointCountry.Text
import EndpointCountry.Unicode.Uppercase

/-!
# The forms of a country code

A code is read from a text, from a datum or from JSON, and written as each of them. A text that two
ASCII letters make up is read as one code by every way of reading, and any other text by none; what
is written is the text in capitals, and it reads back. The letters are single bytes, so the same can
be said of the bytes of a text.

* `bytes_injective`, `bytes_ofList_of_ascii` — texts and their bytes.
* `parse?_eq_some_iff_bytes` — the code that two bytes spell.
* `ofJson?`, `compact_toDatum` — codes in JSON.
* `compare_eq_compare_text`, `isUnknown_iff_of_parse` — the order of codes, and the code for no
  single country.
* `ReadAs`, `Refused`, `read_and_written` — all ways of reading and writing together.
-/

namespace EndpointCountry

/-! ## Texts and their bytes -/

namespace Text

theorem bytes_injective {s t : String} (h : bytes s = bytes t) : s = t := by
  have hdata : s.toByteArray.data = t.toByteArray.data := Array.toList_inj.1 h
  exact String.toByteArray_inj.1 (ByteArray.ext hdata)

/-- An ASCII character is one byte. -/
theorem bytes_ofList_of_ascii {cs : List Char} (h : ∀ c ∈ cs, c.toNat < 0x80) :
    bytes (String.ofList cs) = cs.map fun c => UInt8.ofNat c.toNat := by
  have hbyte : ∀ c ∈ cs, String.utf8EncodeChar c = [UInt8.ofNat c.toNat] := by
    intro c hc
    have hle : c.val.toNat ≤ 0x7f := Nat.le_of_lt_succ (h c hc)
    rw [String.utf8EncodeChar, if_pos hle]
    rfl
  rw [bytes, String.toByteArray_ofList, List.utf8Encode, List.toList_data_toByteArray,
    List.flatMap_congr hbyte, ← List.map_eq_flatMap]

end Text

namespace Country

/-! ## Codes as bytes -/

/-- Whether a byte is an ASCII letter. -/
def isLetterByte (b : UInt8) : Bool :=
  (0x41 ≤ b && b ≤ 0x5A) || (0x61 ≤ b && b ≤ 0x7A)

/-- The capital of a small letter; any other byte stays. -/
def capitalByte (b : UInt8) : UInt8 :=
  if 0x61 ≤ b && b ≤ 0x7A then b - 0x20 else b

/-- The character that an ASCII byte stands for. -/
def charOfByte (b : UInt8) : Char := Char.ofNat b.toNat

theorem toNat_lt_of_isAlpha {c : Char} (h : c.isAlpha = true) : c.toNat < 0x80 := by
  simp only [Char.isAlpha, Char.isUpper, Char.isLower, Bool.or_eq_true, Bool.and_eq_true,
    decide_eq_true_eq, UInt32.le_iff_toNat_le, ge_iff_le] at h
  have htop : 'z'.val.toNat = 0x7A := rfl
  have hval : c.toNat = c.val.toNat := rfl
  rcases h with ⟨-, h⟩ | ⟨-, h⟩
  · have hcap : 'Z'.val.toNat = 0x5A := rfl
    omega
  · omega

/-- What holds of every ASCII character, checked one by one, holds of a letter. -/
theorem forall_isAlpha {p : Char → Prop} (h : ∀ n < 0x80, (Char.ofNat n).isAlpha = true →
    p (Char.ofNat n)) {c : Char} (hc : c.isAlpha = true) : p c := by
  have hchar := h c.toNat (toNat_lt_of_isAlpha hc)
  rw [Char.ofNat_toNat] at hchar
  exact hchar hc

/-- A letter is one byte, and its capital is the capital of that byte. -/
theorem byte_of_isAlpha {c : Char} (h : c.isAlpha = true) :
    isLetterByte (UInt8.ofNat c.toNat) = true ∧
      UInt8.ofNat c.toUpper.toNat = capitalByte (UInt8.ofNat c.toNat) :=
  forall_isAlpha (p := fun c => isLetterByte (UInt8.ofNat c.toNat) = true ∧
    UInt8.ofNat c.toUpper.toNat = capitalByte (UInt8.ofNat c.toNat)) (by decide) h

theorem isAlpha_charOfByte {b : UInt8} (h : isLetterByte b = true) :
    (charOfByte b).isAlpha = true ∧ UInt8.ofNat (charOfByte b).toNat = b := by
  have hall : ∀ n < 0x100, isLetterByte (UInt8.ofNat n) = true →
      (charOfByte (UInt8.ofNat n)).isAlpha = true ∧
        UInt8.ofNat (charOfByte (UInt8.ofNat n)).toNat = UInt8.ofNat n := by decide +kernel
  have hb := hall b.toNat b.toNat_lt
  rw [UInt8.ofNat_toNat] at hb
  exact hb h

theorem bytes_of_isAlpha {x y : Char} (hx : x.isAlpha = true) (hy : y.isAlpha = true) :
    Text.bytes (String.ofList [x, y]) = [UInt8.ofNat x.toNat, UInt8.ofNat y.toNat] := by
  rw [Text.bytes_ofList_of_ascii]
  · rfl
  · simp [toNat_lt_of_isAlpha hx, toNat_lt_of_isAlpha hy]

/-- The bytes of a text that spells a code are two letters, and those of the code their capitals. -/
theorem bytes_of_parse? {s : String} {c : Country} (h : parse? s = some c) :
    ∃ a b, Text.bytes s = [a, b] ∧ isLetterByte a = true ∧ isLetterByte b = true ∧
      Text.bytes c.text = [capitalByte a, capitalByte b] := by
  obtain ⟨⟨x, y, hs, hx, hy⟩, htext⟩ := parse?_eq_some_iff.1 h
  obtain rfl : s = String.ofList [x, y] := by rw [← hs, String.ofList_toList]
  have hcapitals : c.text = String.ofList [x.toUpper, y.toUpper] := by
    rw [htext, ← String.toList_inj, String.toUpper, String.toList_map, hs, String.toList_ofList]
    rfl
  obtain ⟨hxbyte, hxcapital⟩ := byte_of_isAlpha hx
  obtain ⟨hybyte, hycapital⟩ := byte_of_isAlpha hy
  refine ⟨_, _, bytes_of_isAlpha hx hy, hxbyte, hybyte, ?_⟩
  rw [← Char.isAlpha_toUpper_eq_isAlpha] at hx hy
  rw [hcapitals, bytes_of_isAlpha hx hy, hxcapital, hycapital]

/-- Two bytes that are letters spell the code whose bytes are their capitals, and no other bytes
spell a code. -/
theorem parse?_eq_some_iff_bytes {s : String} {c : Country} :
    parse? s = some c ↔
      ∃ a b, Text.bytes s = [a, b] ∧ isLetterByte a = true ∧ isLetterByte b = true ∧
        Text.bytes c.text = [capitalByte a, capitalByte b] := by
  constructor
  · exact bytes_of_parse?
  · rintro ⟨a, b, hs, ha, hb, hc⟩
    obtain ⟨halpha, habyte⟩ := isAlpha_charOfByte ha
    obtain ⟨hbalpha, hbbyte⟩ := isAlpha_charOfByte hb
    obtain rfl : s = String.ofList [charOfByte a, charOfByte b] := by
      refine Text.bytes_injective ?_
      rw [hs, bytes_of_isAlpha halpha hbalpha, habyte, hbbyte]
    have hspelled : Spelled (String.ofList [charOfByte a, charOfByte b]) :=
      ⟨_, _, String.toList_ofList, halpha, hbalpha⟩
    obtain ⟨d, hd⟩ := exists_parse?_eq_some_iff.2 hspelled
    obtain ⟨a', b', hs', -, -, hd'⟩ := bytes_of_parse? hd
    rw [hs, List.cons.injEq, List.cons.injEq] at hs'
    obtain ⟨rfl, rfl, -⟩ := hs'
    rw [hd, text_injective (Text.bytes_injective (hc.trans hd'.symm))]

/-! ## Texts that spell a code, and texts that spell none -/

theorem isAlpha_first (c : Country) : c.first.isAlpha = true := by
  simp [Char.isAlpha, c.first_isUpper]

theorem isAlpha_second (c : Country) : c.second.isAlpha = true := by
  simp [Char.isAlpha, c.second_isUpper]

/-- A code reads back from its text. -/
theorem parse_text (c : Country) : parse c.text = .ok c := by
  have hcapital {x : Char} (h : x.isUpper = true) : x.toUpper = x :=
    Char.toUpper_eq_of_not_isLower (Char.not_isLower_of_isUpper h)
  rw [parse_eq_ok_iff, parse?_eq_some_iff]
  refine ⟨⟨c.first, c.second, String.toList_ofList, c.isAlpha_first, c.isAlpha_second⟩, ?_⟩
  rw [← String.toList_inj, String.toUpper, String.toList_map, text, String.toList_ofList]
  simp [letters, hcapital c.first_isUpper, hcapital c.second_isUpper]

theorem parse_eq_error_iff {s : String} {fault : Fault} :
    parse s = .error fault ↔
      ¬ Spelled s ∧ fault = .argument s!"'{s}' is not a two-letter country code" := by
  rw [← exists_parse?_eq_some_iff]
  unfold parse
  cases parse? s with
  | some c => simp
  | none => simp [eq_comm]

theorem ofDatum_text (s : String) :
    ofDatum (.text s) = (parse s).mapError fun fault => .encoding fault.message := rfl

/-! ## Codes in JSON -/

/-- The code that a JSON text holds, or the fault that it holds none; no answer if it is no JSON. -/
def ofJson? (json : String) : Option (Except Fault Country) :=
  (Datum.ofJson? json).map ofDatum

theorem ofJson?_compact_text (s : String) :
    ofJson? (Datum.text s).compact = some (ofDatum (.text s)) := by
  rw [ofJson?, (Datum.Exact.text s).ofJson?_compact, Option.map_some]

theorem jsonChar_of_isAlpha {c : Char} (h : c.isAlpha = true) : Datum.jsonChar c = [c] :=
  forall_isAlpha (p := fun c => Datum.jsonChar c = [c]) (by decide) h

/-- In JSON a code stands between quotation marks as it is. -/
theorem compact_toDatum (c : Country) : c.toDatum.compact = "\"" ++ c.text ++ "\"" := by
  have hfirst := jsonChar_of_isAlpha c.isAlpha_first
  have hsecond := jsonChar_of_isAlpha c.isAlpha_second
  rw [← String.toList_inj, toDatum, Datum.toList_compact_text]
  simp [text, letters, hfirst, hsecond]

/-! ## Order -/

/-- Codes are ordered as their texts are. -/
theorem compare_eq_compare_text (c d : Country) : compare c d = compare c.text d.text := by
  have hlt : c.text < d.text ↔ c.first < d.first ∨ c.first = d.first ∧ c.second < d.second := by
    rw [String.lt_iff, text, text, String.toList_ofList, String.toList_ofList]
    simp [letters, List.cons_lt_cons_iff]
  have heq : c.text = d.text ↔ c.first = d.first ∧ c.second = d.second := by
    simp [text, letters]
  have hchar (a b : Char) : compare a b = compareOfLessAndEq a b := rfl
  have htext : compare c.text d.text = compareOfLessAndEq c.text d.text := rfl
  rw [compare_eq, hchar, hchar, htext]
  simp only [compareOfLessAndEq, hlt, heq]
  by_cases hfirst : c.first = d.first
  · simp [hfirst]
  · by_cases hless : c.first < d.first <;> simp [hfirst, hless]

/-- ASCII characters are ordered as their bytes are. -/
theorem compare_ofNat {x y : Char} (hx : x.toNat < 0x80) (hy : y.toNat < 0x80) :
    compare (UInt8.ofNat x.toNat) (UInt8.ofNat y.toNat) = compare x y := by
  have hxbyte : (UInt8.ofNat x.toNat).toNat = x.toNat :=
    UInt8.toNat_ofNat_of_lt' (Nat.lt_trans hx (by decide))
  have hybyte : (UInt8.ofNat y.toNat).toNat = y.toNat :=
    UInt8.toNat_ofNat_of_lt' (Nat.lt_trans hy (by decide))
  have hlt : UInt8.ofNat x.toNat < UInt8.ofNat y.toNat ↔ x < y := by
    rw [UInt8.lt_iff_toNat_lt, hxbyte, hybyte]
    rfl
  have heq : UInt8.ofNat x.toNat = UInt8.ofNat y.toNat ↔ x = y := by
    rw [← UInt8.toNat_inj, hxbyte, hybyte, Char.toNat_inj]
  have hbytes (a b : UInt8) : compare a b = compareOfLessAndEq a b := rfl
  have hchars : compare x y = compareOfLessAndEq x y := rfl
  rw [hbytes, hchars]
  simp only [compareOfLessAndEq, hlt, heq]

/-- Codes are ordered as the bytes of their texts are. -/
theorem compare_eq_compare_bytes (c d : Country) :
    compare c d = compare (Text.bytes c.text) (Text.bytes d.text) := by
  have hbytes (e : Country) : Text.bytes e.text =
      [UInt8.ofNat e.first.toNat, UInt8.ofNat e.second.toNat] :=
    bytes_of_isAlpha e.isAlpha_first e.isAlpha_second
  have hfirst := compare_ofNat (toNat_lt_of_isAlpha c.isAlpha_first)
    (toNat_lt_of_isAlpha d.isAlpha_first)
  have hsecond := compare_ofNat (toNat_lt_of_isAlpha c.isAlpha_second)
    (toNat_lt_of_isAlpha d.isAlpha_second)
  rw [compare_eq, hbytes, hbytes, List.compare_cons_cons, List.compare_cons_cons,
    List.compare_nil_nil, hfirst, hsecond, Ordering.then_eq]

/-! ## No single country -/

theorem isUnknown_iff_text {c : Country} : c.isUnknown = true ↔ c.text = "ZZ" := by
  have hunknown : unknown.text = "ZZ" := by decide
  rw [isUnknown, decide_eq_true_eq, ← hunknown]
  exact ⟨congrArg text, text_injective⟩

theorem toUpper_eq_Z_iff {c : Char} (h : c.isAlpha = true) :
    c.toUpper = 'Z' ↔ c = 'Z' ∨ c = 'z' :=
  forall_isAlpha (p := fun c => c.toUpper = 'Z' ↔ c = 'Z' ∨ c = 'z') (by decide) h

/-- The code for no single country is read from the spellings of its text, and from nothing else. -/
theorem isUnknown_iff_of_parse {s : String} {c : Country} (h : parse s = .ok c) :
    c.isUnknown = true ↔ s ∈ ["ZZ", "Zz", "zZ", "zz"] := by
  obtain ⟨⟨x, y, hs, hx, hy⟩, htext⟩ := parse?_eq_some_iff.1 (parse_eq_ok_iff.1 h)
  have hupper : s.toUpper = "ZZ" ↔ x.toUpper = 'Z' ∧ y.toUpper = 'Z' := by
    rw [← String.toList_inj, String.toUpper, String.toList_map, hs]
    simp
  have hmem : s ∈ ["ZZ", "Zz", "zZ", "zz"] ↔ (x = 'Z' ∨ x = 'z') ∧ (y = 'Z' ∨ y = 'z') := by
    rw [or_and_right, and_or_left, and_or_left, or_assoc]
    simp [← String.toList_inj, hs]
  rw [isUnknown_iff_text, htext, hupper, hmem, toUpper_eq_Z_iff hx, toUpper_eq_Z_iff hy]

/-! ## All forms together -/

/-- Every way of reading takes a text for a code, and every way of writing the code gives the text
in capitals. -/
structure ReadAs (s : String) (c : Country) : Prop where
  parsed : parse s = .ok c
  decoded : ofDatum (.text s) = .ok c
  decodedJson : ofJson? (Datum.text s).compact = some (.ok c)
  shown : c.text = s.toUpper
  encoded : c.toDatum = .text s.toUpper
  encodedJson : c.toDatum.compact = "\"" ++ s.toUpper ++ "\""

/-- Every way of reading refuses a text. -/
structure Refused (s : String) : Prop where
  parsed : parse s = .error (.argument s!"'{s}' is not a two-letter country code")
  decoded : ofDatum (.text s) =
    .error (.encoding s!"Invalid argument: '{s}' is not a two-letter country code")
  decodedJson : ofJson? (Datum.text s).compact =
    some (.error (.encoding s!"Invalid argument: '{s}' is not a two-letter country code"))

theorem readAs_of_parse {s : String} {c : Country} (h : parse s = .ok c) : ReadAs s c := by
  have hdatum : ofDatum (.text s) = .ok c := by rw [ofDatum_text, h]; rfl
  have htext : c.text = s.toUpper := (parse?_eq_some_iff.1 (parse_eq_ok_iff.1 h)).2
  exact ⟨h, hdatum, by rw [ofJson?_compact_text, hdatum], htext, by rw [toDatum, htext],
    by rw [compact_toDatum, htext]⟩

theorem refused_of_not_spelled {s : String} (h : ¬ Spelled s) : Refused s := by
  have hparse := parse_eq_error_iff.2 ⟨h, rfl⟩
  have hdatum : ofDatum (.text s) =
      .error (.encoding s!"Invalid argument: '{s}' is not a two-letter country code") := by
    rw [ofDatum_text, hparse]
    rfl
  exact ⟨hparse, hdatum, by rw [ofJson?_compact_text, hdatum]⟩

/-- A text is read as a code by all ways of reading or by none: it is if it is two ASCII letters,
that is to say two bytes that are letters, and then the code is written as the text in capitals. A
code reads back from its text and from JSON, and its text decides how it compares with others. The
code for no single country comes from the four spellings of its text. -/
theorem read_and_written :
    (∀ s, Spelled s → ∃ c, ReadAs s c) ∧
    (∀ s, ¬ Spelled s → Refused s) ∧
    (∀ s c, parse s = .ok c ↔
      ∃ a b, Text.bytes s = [a, b] ∧ isLetterByte a = true ∧ isLetterByte b = true ∧
        Text.bytes c.text = [capitalByte a, capitalByte b]) ∧
    (∀ c, parse c.text = .ok c ∧ ofJson? c.toDatum.compact = some (.ok c)) ∧
    (∀ c d : Country, compare c d = compare c.text d.text ∧
      compare c d = compare (Text.bytes c.text) (Text.bytes d.text) ∧
      (c = d ↔ c.text = d.text)) ∧
    (∀ s c, parse s = .ok c → (c.isUnknown = true ↔ s ∈ ["ZZ", "Zz", "zZ", "zz"])) := by
  refine ⟨?_, ?_, ?_, ?_, ?_, ?_⟩
  · intro s hs
    obtain ⟨c, hc⟩ := exists_parse?_eq_some_iff.2 hs
    exact ⟨c, readAs_of_parse (parse_eq_ok_iff.2 hc)⟩
  · intro s hs
    exact refused_of_not_spelled hs
  · intro s c
    rw [parse_eq_ok_iff, parse?_eq_some_iff_bytes]
  · intro c
    exact ⟨parse_text c, (readAs_of_parse (parse_text c)).decodedJson⟩
  · intro c d
    exact ⟨compare_eq_compare_text c d, compare_eq_compare_bytes c d, congrArg text,
      text_injective⟩
  · intro s c hc
    exact isUnknown_iff_of_parse hc

/-- Small letters are read and come back as capitals. A sharp s is no code, although its upper-case
form spells one, and neither are two letters outside ASCII. -/
theorem refused_sharp_s :
    (Spelled "zZ" ∧ ∃ c, ReadAs "zZ" c ∧ c.isUnknown = true) ∧
    (Spelled (Text.upper "ß") ∧ ¬ Spelled "ß" ∧ Refused "ß") ∧
    (¬ Spelled "ÆØ" ∧ Refused "ÆØ") := by
  obtain ⟨hread, hrefused, -, -, -, hunknown⟩ := read_and_written
  have hspelled : Spelled "zZ" := ⟨'z', 'Z', by decide, by decide, by decide⟩
  obtain ⟨c, hc⟩ := hread "zZ" hspelled
  have hsharp : ¬ Spelled "ß" := by
    rintro ⟨a, b, hab, -, -⟩
    cases hab
  have houtside : ¬ Spelled "ÆØ" := by
    rintro ⟨a, b, hab, ha, -⟩
    cases hab
    cases ha
  refine ⟨⟨hspelled, c, hc, ?_⟩, ⟨?_, hsharp, hrefused "ß" hsharp⟩, houtside,
    hrefused "ÆØ" houtside⟩
  · exact (hunknown "zZ" c hc.parsed).2 (by decide)
  · exact ⟨'S', 'S', by decide +kernel, by decide, by decide⟩

end Country

end EndpointCountry
