import EndpointCountry.Toml.Moment
import EndpointCountry.Toml.Number
import EndpointCountry.Toml.Quoted
import EndpointCountry.Toml.Table

/-!
# Keys and values of TOML

Every reader returns what it has read and what is left of the input. The `size` of a reader is the
length of the document, which no text and no list in it exceeds.
-/

namespace EndpointCountry.Toml

/-- A character of a key that is written without quotes. -/
def isBareKeyChar (c : Char) : Bool :=
  Text.isDigit c || ('a' ≤ c && c ≤ 'z') || ('A' ≤ c && c ≤ 'Z') || c == '_' || c == '-'

/-- One key, with or without quotes. -/
def simpleKey? (size : Nat) : List Char → Option (List Char × List Char)
  | '"' :: rest => basic? size rest
  | '\'' :: rest => literal? rest
  | cs =>
    let key := cs.takeWhile isBareKeyChar
    if key.isEmpty then none else some (key, cs.dropWhile isBareKeyChar)

/-- Keys joined by points, at most `fuel` of them; blanks around a point do not count. -/
def keyPathBy (size : Nat) : Nat → List Char → Option (List String × List Char)
  | 0, _ => none
  | fuel + 1, cs => do
    let (key, rest) ← simpleKey? size cs
    match skipSpaces rest with
    | '.' :: rest =>
      let (path, rest) ← keyPathBy size fuel (skipSpaces rest)
      some (String.ofList key :: path, rest)
    | rest => some ([String.ofList key], rest)

/-- How deep arrays and inline tables may be nested, and how many keys points may join. -/
def maxDepth : Nat := 80

/-- Keys joined by points, and the input after the blanks that follow them. -/
def keyPath? (size : Nat) (cs : List Char) : Option (List String × List Char) :=
  keyPathBy size maxDepth cs

/-- A character that may be part of a value written without quotes, blanks included. -/
def isUnquotedChar (c : Char) : Bool :=
  !(c == '\n' || c == '\r' || c == ',' || c == '=' || c == '#' ||
    c == '[' || c == ']' || c == '\x7b' || c == '\x7d')

/-- A character that starts a text in quotes. -/
def isQuote (c : Char) : Bool :=
  c == '"' || c == '\''

/-- The characters of a value without quotes, last one first, and what is left of the input; those
in `taken` are read already. A quote behind a blank does not belong to the value. -/
def unquotedFrom (taken : List Char) : List Char → List Char × List Char
  | [] => (taken, [])
  | c :: rest =>
    if isUnquotedChar c && !(isQuote c && taken.head?.any isSpace) then
      unquotedFrom (c :: taken) rest
    else (taken, c :: rest)

/-- A value without quotes as it is written, and the input after the blanks that follow it. Blanks
within the value belong to it. -/
def unquoted (cs : List Char) : List Char × List Char :=
  let (taken, rest) := unquotedFrom [] cs
  ((taken.dropWhile isSpace).reverse, rest)

/-- A date or a time of day. -/
def moment? (cs : List Char) : Option Datum :=
  if isMoment cs then some (.moment (String.ofList cs)) else none

/-- A value without quotes or parts: a truth value, a number, a date or a time of day. -/
def token? (cs : List Char) : Option Datum :=
  if cs = ['t', 'r', 'u', 'e'] then some (.boolean true)
  else if cs = ['f', 'a', 'l', 's', 'e'] then some (.boolean false)
  else nonFinite? cs <|> integer? cs <|> decimal? cs <|> moment? cs

/-- A value without parts. -/
def scalar? (size : Nat) (cs : List Char) : Option (Datum × List Char) :=
  let text := fun read : Option (List Char × List Char) =>
    read.map fun (text, rest) => (Datum.text (String.ofList text), rest)
  match cs with
  | '"' :: '"' :: '"' :: rest => text (longBasic? size rest)
  | '"' :: rest => text (basic? size rest)
  | '\'' :: '\'' :: '\'' :: rest => text (longLiteral? rest)
  | '\'' :: rest => text (literal? rest)
  | cs =>
    let (written, rest) := unquoted cs
    (token? written).map (·, rest)

/-- A reader of values. -/
abbrev ValueReader := List Char → Option (Datum × List Char)

/-- The elements of an array up to its closing bracket, at most `fuel` of them. A comma may stand
after the last one. -/
def arrayItemsBy (read : ValueReader) : Nat → List Char → Option (List Datum × List Char)
  | 0, _ => none
  | fuel + 1, cs => do
    match ← skipFiller cs with
    | ']' :: rest => some ([], rest)
    | cs =>
      let (d, rest) ← read cs
      match ← skipFiller rest with
      | ']' :: rest => some ([d], rest)
      | ',' :: rest =>
        let (ds, rest) ← arrayItemsBy read fuel rest
        some (d :: ds, rest)
      | _ => none

/-- The entries of an inline table up to its closing brace, at most `fuel` of them. A comma may
stand after the last one. -/
def inlineEntriesBy (size : Nat) (read : ValueReader) :
    Nat → List Char → Option (List (List String × Datum) × List Char)
  | 0, _ => none
  | fuel + 1, cs => do
    match ← skipFiller cs with
    | '\x7d' :: rest => some ([], rest)
    | cs =>
      let (path, rest) ← keyPath? size cs
      match ← skipFiller rest with
      | '=' :: rest =>
        let (d, rest) ← read (← skipFiller rest)
        match ← skipFiller rest with
        | '\x7d' :: rest => some ([(path, d)], rest)
        | ',' :: rest =>
          let (entries, rest) ← inlineEntriesBy size read fuel rest
          some ((path, d) :: entries, rest)
        | _ => none
      | _ => none

/-- A value whose arrays and inline tables are nested at most `depth` deep. -/
def value? (size : Nat) : Nat → ValueReader
  | 0, cs =>
    match cs with
    | '[' :: _ | '\x7b' :: _ => none
    | cs => scalar? size cs
  | depth + 1, cs =>
    match cs with
    | '[' :: rest =>
      (arrayItemsBy (value? size depth) size rest).map fun (ds, rest) => (.list ds, rest)
    | '\x7b' :: rest => do
      let (entries, rest) ← inlineEntriesBy size (value? size depth) size rest
      let table ← (Table.empty .header).assignAll entries
      some (table.toDatum, rest)
    | cs => scalar? size cs

end EndpointCountry.Toml
