import EndpointCountry.Datum
import EndpointCountry.Text

/-!
# JSON text

Writing a data tree as JSON, on one line or indented by two spaces.

Of a text only the quotation mark, the backslash and the control characters below the space are
escaped, so a line break never stands raw inside a JSON text.
-/

namespace EndpointCountry.Datum

/-- One character of a JSON string. -/
def jsonChar (c : Char) : List Char :=
  match c with
  | '"' => ['\\', '"']
  | '\\' => ['\\', '\\']
  | '\x08' => ['\\', 'b']
  | '\t' => ['\\', 't']
  | '\n' => ['\\', 'n']
  | '\x0c' => ['\\', 'f']
  | '\r' => ['\\', 'r']
  | c =>
    if c.toNat < 0x20 then
      ['\\', 'u', '0', '0', Text.hexDigit (c.toNat / 16), Text.hexDigit (c.toNat % 16)]
    else [c]

/-- A text between quotation marks. -/
def jsonString (s : String) : String :=
  String.ofList ('"' :: s.toList.flatMap jsonChar ++ ['"'])

/-- A tree that has no parts, as JSON; a number that JSON cannot write is `null`. -/
def jsonScalar : Datum → String
  | .boolean b => toString b
  | .integer n => toString n
  | .decimal negative significand exponent => decimalText negative significand exponent
  | .text s => jsonString s
  | .moment s => jsonString s
  | _ => "null"

mutual

/-- A tree as JSON on one line, without blanks. -/
def compact : Datum → String
  | .list items => "[" ++ ",".intercalate (compactItems items) ++ "]"
  | .record fields => "\x7b" ++ ",".intercalate (compactFields fields) ++ "\x7d"
  | d => d.jsonScalar
termination_by structural d => d

/-- The elements of a list, each on one line. -/
def compactItems : List Datum → List String
  | [] => []
  | d :: ds => d.compact :: compactItems ds
termination_by structural ds => ds

/-- The fields of a record, each as a name, a colon and a value. -/
def compactFields : List (String × Datum) → List String
  | [] => []
  | (name, d) :: ds => (jsonString name ++ ":" ++ d.compact) :: compactFields ds
termination_by structural ds => ds

end

/-- A line break and the blanks in front of the line after it. -/
def lineStart (depth : Nat) : String :=
  String.ofList ('\n' :: List.replicate (2 * depth) ' ')

/-- Parts between brackets, one a line and indented by one step more; no parts, no line break. -/
def bracketed (depth : Nat) (opening closing : String) (parts : List String) : String :=
  if parts.isEmpty then opening ++ closing
  else
    opening ++ lineStart (depth + 1) ++ ("," ++ lineStart (depth + 1)).intercalate parts ++
      lineStart depth ++ closing

mutual

/-- A tree as indented JSON, at the given depth. -/
def indentedAt (depth : Nat) : Datum → String
  | .list items => bracketed depth "[" "]" (indentedItems (depth + 1) items)
  | .record fields => bracketed depth "\x7b" "\x7d" (indentedFields (depth + 1) fields)
  | d => d.jsonScalar
termination_by structural d => d

/-- The elements of a list, indented. -/
def indentedItems (depth : Nat) : List Datum → List String
  | [] => []
  | d :: ds => d.indentedAt depth :: indentedItems depth ds
termination_by structural ds => ds

/-- The fields of a record, indented. -/
def indentedFields (depth : Nat) : List (String × Datum) → List String
  | [] => []
  | (name, d) :: ds =>
    (jsonString name ++ ": " ++ d.indentedAt depth) :: indentedFields depth ds
termination_by structural ds => ds

end

/-- A tree as JSON over several lines, indented by two spaces a level. -/
def indented (d : Datum) : String :=
  d.indentedAt 0

end EndpointCountry.Datum
