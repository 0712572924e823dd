/-!
# Texts

Digits, white space and bytes of texts.
-/

namespace EndpointCountry.Text

/-! ## Decimal digits -/

/-- One of the ten ASCII digits. -/
def isDigit (c : Char) : Bool :=
  '0' ≤ c && c ≤ '9'

/-- The number that a run of digits denotes, most significant digit first. -/
def digitsValue (cs : List Char) : Nat :=
  cs.foldl (fun n c => 10 * n + (c.toNat - '0'.toNat)) 0

/-- The number written by a non-empty text of ASCII digits, and nothing for any other text. -/
def readDigits? (cs : List Char) : Option Nat :=
  if cs ≠ [] ∧ cs.all isDigit then some (digitsValue cs) else none

/-- The decimal digits of a number, with zeros in front up to the given width. -/
def padded (width n : Nat) : List Char :=
  let digits := Nat.toDigits 10 n
  List.replicate (width - digits.length) '0' ++ digits

/-! ## Digits in base sixteen -/

/-- The value of a digit in base sixteen. -/
def hexValue? (c : Char) : Option Nat :=
  if '0' ≤ c ∧ c ≤ '9' then some (c.toNat - '0'.toNat)
  else if 'a' ≤ c ∧ c ≤ 'f' then some (c.toNat - 'a'.toNat + 10)
  else if 'A' ≤ c ∧ c ≤ 'F' then some (c.toNat - 'A'.toNat + 10)
  else none

/-- A digit in base sixteen. -/
def isHexDigit (c : Char) : Bool :=
  (hexValue? c).isSome

/-- The number that digits write in base sixteen, most significant digit first. -/
def hexNumber? (digits : List Char) : Option Nat :=
  (digits.mapM hexValue?).map fun values => values.foldl (fun n d => 16 * n + d) 0

/-- The character with the given code point. -/
def charOf? (n : Nat) : Option Char :=
  if n.isValidChar then some (Char.ofNat n) else none

/-- A digit of a number in base sixteen, in lower case. -/
def hexDigit (n : Nat) : Char :=
  if n < 10 then Char.ofNat (48 + n) else Char.ofNat (87 + n)

/-! ## White space -/

/-- White space in the sense of the Unicode property `White_Space`: twenty-five characters, among
them the no-break spaces and the line and paragraph separators. -/
def isBlank (c : Char) : Bool :=
  let n := c.toNat
  (9 ≤ n && n ≤ 13) || n == 0x20 || n == 0x85 || n == 0xA0 || n == 0x1680 ||
    (0x2000 ≤ n && n ≤ 0x200A) || n == 0x2028 || n == 0x2029 || n == 0x202F || n == 0x205F ||
    n == 0x3000

/-- A text is blank when every character of it is white space; the empty text is blank. -/
def Blank (s : String) : Prop :=
  s.toList.all isBlank = true

instance (s : String) : Decidable (Blank s) :=
  inferInstanceAs (Decidable (_ = _))

/-! ## Bytes -/

/-- The UTF-8 bytes of a text. -/
def bytes (s : String) : List UInt8 :=
  s.toByteArray.data.toList

/-- The text with the given UTF-8 bytes, if they are well formed. -/
def ofBytes? (bs : List UInt8) : Option String :=
  String.fromUTF8? ⟨bs.toArray⟩

/-- Bytes read as a text give back the bytes of that text. -/
theorem ofBytes?_bytes (s : String) : ofBytes? (bytes s) = some s := by
  have h : (ByteArray.mk (bytes s).toArray) = s.toByteArray := by simp [bytes]
  simp [ofBytes?, h, String.fromUTF8?, s.isValidUTF8, String.fromUTF8]

/-- The length of the longest well-formed beginning of a byte sequence. -/
def validLength (bs : List UInt8) : Nat :=
  let whole : ByteArray := ⟨bs.toArray⟩
  go whole 0 bs.length
where
  /-- Decodes characters from position `i` on, at most `fuel` of them. -/
  go (whole : ByteArray) (i : Nat) : Nat → Nat
    | 0 => i
    | fuel + 1 =>
      match whole.utf8DecodeChar? i with
      | some c => go whole (i + c.utf8Size) fuel
      | none => i

end EndpointCountry.Text
