import EndpointCountry.Text
import EndpointCountry.Toml.Lexical

/-!
# Texts of TOML

The four ways of quoting a text: between quotation marks with escapes, or between apostrophes as it
stands; each on one line, or over several lines between tripled marks.

Every reader starts after the opening mark and returns the text and what is left of the input. The
`size` of a reader is the length of the document, which no text in it exceeds.
-/

namespace EndpointCountry.Toml

/-- The character whose code point the given digits write in base sixteen. -/
def codePoint? (digits : List Char) : Option Char :=
  (Text.hexNumber? digits).bind Text.charOf?

/-- The character that an escape stands for; the input starts after the backslash. -/
def escape? : List Char → Option (Char × List Char)
  | 'b' :: rest => some ('\x08', rest)
  | 't' :: rest => some ('\t', rest)
  | 'n' :: rest => some ('\n', rest)
  | 'f' :: rest => some ('\x0c', rest)
  | 'r' :: rest => some ('\r', rest)
  | 'e' :: rest => some ('\x1b', rest)
  | '"' :: rest => some ('"', rest)
  | '\\' :: rest => some ('\\', rest)
  | 'x' :: a :: b :: rest => (codePoint? [a, b]).map (·, rest)
  | 'u' :: a :: b :: c :: d :: rest => (codePoint? [a, b, c, d]).map (·, rest)
  | 'U' :: a :: b :: c :: d :: e :: f :: g :: h :: rest =>
    (codePoint? [a, b, c, d, e, f, g, h]).map (·, rest)
  | _ => none

/-- A text up to its closing quotation mark, of at most `fuel` characters and marks. -/
def basicBy : Nat → List Char → Option (List Char × List Char)
  | 0, _ => none
  | fuel + 1, cs =>
    match cs with
    | [] => none
    | '"' :: rest => some ([], rest)
    | '\\' :: rest => do
      let (c, rest) ← escape? rest
      let (text, rest) ← basicBy fuel rest
      some (c :: text, rest)
    | c :: rest =>
      if isPlain c then (basicBy fuel rest).map fun (text, rest) => (c :: text, rest) else none

/-- A text between quotation marks. -/
def basic? (size : Nat) (cs : List Char) : Option (List Char × List Char) :=
  basicBy size cs

/-- A text between apostrophes: no character in it has a meaning of its own. -/
def literal? (cs : List Char) : Option (List Char × List Char) :=
  let inside := fun c => isPlain c && c != '\''
  match cs.dropWhile inside with
  | '\'' :: rest => some (cs.takeWhile inside, rest)
  | _ => none

/-- A line end right after the opening marks is no part of a text. -/
def dropFirstNewline (cs : List Char) : List Char :=
  (newline? cs).getD cs

/-- A text up to three quotation marks. Up to two more marks belong to the text. A backslash at the
end of a line takes away the line end and all blanks and line ends after it. -/
def longBasicBy : Nat → List Char → Option (List Char × List Char)
  | 0, _ => none
  | fuel + 1, cs =>
    match cs with
    | '"' :: '"' :: '"' :: '"' :: '"' :: rest => some (['"', '"'], rest)
    | '"' :: '"' :: '"' :: '"' :: rest => some (['"'], rest)
    | '"' :: '"' :: '"' :: rest => some ([], rest)
    | '\\' :: rest =>
      match newline? (skipSpaces rest) with
      | some rest => longBasicBy fuel (skipBlankLines rest)
      | none => do
        let (c, rest) ← escape? rest
        let (text, rest) ← longBasicBy fuel rest
        some (c :: text, rest)
    | '\r' :: '\n' :: rest =>
      (longBasicBy fuel rest).map fun (text, rest) => ('\r' :: '\n' :: text, rest)
    | c :: rest =>
      if c == '\n' || isPlain c then
        (longBasicBy fuel rest).map fun (text, rest) => (c :: text, rest)
      else none
    | [] => none

/-- A text between three quotation marks. -/
def longBasic? (size : Nat) (cs : List Char) : Option (List Char × List Char) :=
  longBasicBy size (dropFirstNewline cs)

/-- A text up to three apostrophes. Up to two more apostrophes belong to the text. -/
def longLiteralFrom? : List Char → Option (List Char × List Char)
  | '\'' :: '\'' :: '\'' :: '\'' :: '\'' :: rest => some (['\'', '\''], rest)
  | '\'' :: '\'' :: '\'' :: '\'' :: rest => some (['\''], rest)
  | '\'' :: '\'' :: '\'' :: rest => some ([], rest)
  | '\r' :: '\n' :: rest =>
    (longLiteralFrom? rest).map fun (text, rest) => ('\r' :: '\n' :: text, rest)
  | c :: rest =>
    if c == '\n' || isPlain c then
      (longLiteralFrom? rest).map fun (text, rest) => (c :: text, rest)
    else none
  | [] => none

/-- A text between three apostrophes. -/
def longLiteral? (cs : List Char) : Option (List Char × List Char) :=
  longLiteralFrom? (dropFirstNewline cs)

end EndpointCountry.Toml
