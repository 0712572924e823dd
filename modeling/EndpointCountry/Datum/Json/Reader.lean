import EndpointCountry.Datum.Json.Number
import EndpointCountry.Text

/-!
# Reading JSON text

Every reader returns what it has read and what is left of the input. The `size` of a reader is the
length of the whole text, which no text and no list in it exceeds.
-/

namespace EndpointCountry.Datum

/-- A blank or a line end of JSON. -/
def isJsonBlank (c : Char) : Bool :=
  c == ' ' || c == '\n' || c == '\r' || c == '\t'

/-- The input after its leading blanks. -/
def skipJsonBlanks (cs : List Char) : List Char :=
  cs.dropWhile isJsonBlank

/-- The character of an escape with one letter. -/
def jsonEscape? : Char → Option Char
  | '"' => some '"'
  | '\\' => some '\\'
  | '/' => some '/'
  | 'b' => some '\x08'
  | 'f' => some '\x0c'
  | 'n' => some '\n'
  | 'r' => some '\r'
  | 't' => some '\t'
  | _ => none

/-- The character whose code point is split into two halves of ten bits. -/
def joinHalves? (high low : Nat) : Option Char :=
  if 0xD800 ≤ high ∧ high < 0xDC00 ∧ 0xDC00 ≤ low ∧ low < 0xE000 then
    Text.charOf? (0x10000 + 0x400 * (high - 0xD800) + (low - 0xDC00))
  else none

/-- The character of an escape; the input starts after the backslash. A code point of more than
sixteen bits takes two escapes. -/
def jsonEscaped? : List Char → Option (Char × List Char)
  | 'u' :: a :: b :: c :: d :: rest => do
    let n ← Text.hexNumber? [a, b, c, d]
    match Text.charOf? n with
    | some c => some (c, rest)
    | none =>
      match rest with
      | '\\' :: 'u' :: a :: b :: c :: d :: rest =>
        (joinHalves? n (← Text.hexNumber? [a, b, c, d])).map (·, rest)
      | _ => none
  | c :: rest => (jsonEscape? c).map (·, rest)
  | [] => none

/-- A text up to its closing quotation mark, of at most `fuel` characters and marks. -/
def jsonTextBy : Nat → List Char → Option (List Char × List Char)
  | 0, _ => none
  | fuel + 1, cs =>
    match cs with
    | [] => none
    | '"' :: rest => some ([], rest)
    | '\\' :: rest => do
      let (c, rest) ← jsonEscaped? rest
      let (s, rest) ← jsonTextBy fuel rest
      some (c :: s, rest)
    | c :: rest =>
      if c.toNat < 0x20 then none
      else (jsonTextBy fuel rest).map fun (s, rest) => (c :: s, rest)

/-- A text; the input starts after the opening quotation mark. -/
def jsonText? (size : Nat) (cs : List Char) : Option (String × List Char) :=
  (jsonTextBy size cs).map fun (s, rest) => (String.ofList s, rest)

/-- The elements of an array after the first one, up to the closing bracket, at most `fuel` of
them. -/
def moreItemsBy (read : List Char → Option (Datum × List Char)) :
    Nat → List Char → Option (List Datum × List Char)
  | 0, _ => none
  | fuel + 1, cs =>
    match skipJsonBlanks cs with
    | ']' :: rest => some ([], rest)
    | ',' :: rest => do
      let (d, rest) ← read rest
      let (ds, rest) ← moreItemsBy read fuel rest
      some (d :: ds, rest)
    | _ => none

/-- A name, a colon and a value. -/
def jsonField? (size : Nat) (read : List Char → Option (Datum × List Char)) (cs : List Char) :
    Option ((String × Datum) × List Char) :=
  match skipJsonBlanks cs with
  | '"' :: rest => do
    let (name, rest) ← jsonText? size rest
    match skipJsonBlanks rest with
    | ':' :: rest => (read rest).map fun (d, rest) => ((name, d), rest)
    | _ => none
  | _ => none

/-- The fields of an object after the first one, up to the closing brace, at most `fuel` of them. -/
def moreFieldsBy (size : Nat) (read : List Char → Option (Datum × List Char)) :
    Nat → List Char → Option (List (String × Datum) × List Char)
  | 0, _ => none
  | fuel + 1, cs =>
    match skipJsonBlanks cs with
    | '\x7d' :: rest => some ([], rest)
    | ',' :: rest => do
      let (field, rest) ← jsonField? size read rest
      let (fields, rest) ← moreFieldsBy size read fuel rest
      some (field :: fields, rest)
    | _ => none

/-- Fields with one more: it takes the place of an earlier one of its name. -/
def setField (fields : List (String × Datum)) (field : String × Datum) : List (String × Datum) :=
  fields.filter (·.1 ≠ field.1) ++ [field]

/-- A value whose arrays and objects are nested less than `depth` deep. -/
def jsonValue? (size : Nat) : Nat → List Char → Option (Datum × List Char)
  | 0, _ => none
  | depth + 1, cs =>
    match skipJsonBlanks cs with
    | 'n' :: 'u' :: 'l' :: 'l' :: rest => some (.null, rest)
    | 't' :: 'r' :: 'u' :: 'e' :: rest => some (.boolean true, rest)
    | 'f' :: 'a' :: 'l' :: 's' :: 'e' :: rest => some (.boolean false, rest)
    | '"' :: rest => (jsonText? size rest).map fun (s, rest) => (.text s, rest)
    | '[' :: rest =>
      match skipJsonBlanks rest with
      | ']' :: rest => some (.list [], rest)
      | rest => do
        let (d, rest) ← jsonValue? size depth rest
        let (ds, rest) ← moreItemsBy (jsonValue? size depth) size rest
        some (.list (d :: ds), rest)
    | '\x7b' :: rest =>
      match skipJsonBlanks rest with
      | '\x7d' :: rest => some (.record [], rest)
      | rest => do
        let (field, rest) ← jsonField? size (jsonValue? size depth) rest
        let (fields, rest) ← moreFieldsBy size (jsonValue? size depth) size rest
        some (.record ((field :: fields).foldl setField []), rest)
    | cs => number? cs

/-- The tree that a text of JSON describes. -/
def ofJson? (s : String) : Option Datum :=
  let cs := s.toList
  match jsonValue? cs.length (cs.length + 1) cs with
  | some (d, rest) => if (skipJsonBlanks rest).isEmpty then some d else none
  | none => none

end EndpointCountry.Datum
