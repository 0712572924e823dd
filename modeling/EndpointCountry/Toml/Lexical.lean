/-!
# Blanks, line ends and comments of TOML

Functions that skip them return what is left of the input, and nothing where the input breaks the
rules of the notation.
-/

namespace EndpointCountry.Toml

/-- A blank within a line. -/
def isSpace (c : Char) : Bool :=
  c == ' ' || c == '\t'

/-- A character that may stand as it is in a comment or a text: anything but control characters,
the tab excepted. -/
def isPlain (c : Char) : Bool :=
  c == '\t' || (0x20 ≤ c.toNat && c.toNat != 0x7F)

/-- The input after its leading blanks. -/
def skipSpaces (cs : List Char) : List Char :=
  cs.dropWhile isSpace

/-- The input after the line end it starts with. -/
def newline? : List Char → Option (List Char)
  | '\n' :: rest => some rest
  | '\r' :: '\n' :: rest => some rest
  | _ => none

/-- The input from the line end on that closes a comment, which started before the input. -/
def comment? (cs : List Char) : Option (List Char) :=
  let rest := cs.dropWhile isPlain
  if rest.isEmpty || (newline? rest).isSome then some rest else none

/-- The input after the rest of a line that holds only blanks and perhaps a comment. -/
def lineEnd? (cs : List Char) : Option (List Char) := do
  let rest ← match skipSpaces cs with
    | '#' :: rest => comment? rest
    | rest => some rest
  if rest.isEmpty then some [] else newline? rest

/-- The input after all its leading blanks, line ends and comments; it starts within a comment if
`inComment`. -/
def skipFillerFrom : (inComment : Bool) → List Char → Option (List Char)
  | _, [] => some []
  | _, '\n' :: rest => skipFillerFrom false rest
  | _, '\r' :: '\n' :: rest => skipFillerFrom false rest
  | true, c :: rest => if isPlain c then skipFillerFrom true rest else none
  | false, c :: rest =>
    if isSpace c then skipFillerFrom false rest
    else if c = '#' then skipFillerFrom true rest
    else some (c :: rest)

/-- The input after all its leading blanks, line ends and comments. -/
def skipFiller (cs : List Char) : Option (List Char) :=
  skipFillerFrom false cs

/-- The input after its leading blanks and line ends. -/
def skipBlankLines : List Char → List Char
  | '\r' :: '\n' :: rest => skipBlankLines rest
  | c :: rest => if isSpace c || c == '\n' then skipBlankLines rest else c :: rest
  | [] => []

end EndpointCountry.Toml
