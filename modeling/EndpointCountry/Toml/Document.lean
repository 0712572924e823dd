import EndpointCountry.Toml.Value

/-!
# Documents of TOML

A document is a sequence of statements, one a line: a value for a key, or the header of a table.
The values after a header belong to its table.
-/

namespace EndpointCountry.Toml

/-- A statement. -/
inductive Statement where
  /-- A value under a path of keys. -/
  | assign (path : List String) (d : Datum)
  /-- The header of a table. -/
  | table (path : List String)
  /-- The header of one more table in a list of tables. -/
  | tables (path : List String)

/-- One statement and the input from the next line on; the input starts with the statement. The
`size` is the length of the document. -/
def statement? (size : Nat) : List Char → Option (Statement × List Char)
  | '[' :: '[' :: rest => do
    let (path, rest) ← keyPath? size (skipSpaces rest)
    match rest with
    | ']' :: ']' :: rest => some (.tables path, ← lineEnd? rest)
    | _ => none
  | '[' :: rest => do
    let (path, rest) ← keyPath? size (skipSpaces rest)
    match rest with
    | ']' :: rest => some (.table path, ← lineEnd? rest)
    | _ => none
  | cs => do
    let (path, rest) ← keyPath? size cs
    match rest with
    | '=' :: rest =>
      let (d, rest) ← value? size maxDepth (skipSpaces rest)
      some (.assign path d, ← lineEnd? rest)
    | _ => none

/-- The statements of at most `fuel` lines. -/
def statementsBy (size : Nat) : Nat → List Char → Option (List Statement)
  | 0, _ => some []
  | fuel + 1, cs =>
    match skipSpaces cs with
    | [] => some []
    | c :: rest =>
      if c = '#' ∨ (newline? (c :: rest)).isSome then
        (lineEnd? (c :: rest)).bind (statementsBy size fuel)
      else do
        let (statement, rest) ← statement? size (c :: rest)
        (statementsBy size fuel rest).map (statement :: ·)

/-- The statements of a document. A byte order mark in front of it does not count. -/
def statements? (cs : List Char) : Option (List Statement) :=
  let cs := match cs with
    | '\ufeff' :: rest => rest
    | cs => cs
  statementsBy cs.length cs.length cs

/-- The values before the next header, and the statements from that header on. -/
def splitSection : List Statement → List (List String × Datum) × List Statement
  | .assign path d :: rest =>
    let (pairs, rest) := splitSection rest
    ((path, d) :: pairs, rest)
  | rest => ([], rest)

/-- Adds the tables of at most `fuel` headers; the statements start with a header. -/
def addSectionsBy : Nat → Table → List Statement → Option Table
  | fuel + 1, t, .table path :: rest => do
    let (pairs, rest) := splitSection rest
    addSectionsBy fuel (← t.addTable path pairs) rest
  | fuel + 1, t, .tables path :: rest => do
    let (pairs, rest) := splitSection rest
    addSectionsBy fuel (← t.addToTables path pairs) rest
  | _, t, [] => some t
  | _, _, _ => none

/-- The table that a sequence of statements makes up. -/
def tableOf? (statements : List Statement) : Option Table := do
  let (pairs, rest) := splitSection statements
  addSectionsBy statements.length (← (Table.empty .header).assignAll pairs) rest

/-- The record that a document describes, if it keeps the rules of the notation. -/
def parse? (text : String) : Option Datum := do
  let statements ← statements? text.toList
  let table ← tableOf? statements
  some table.toDatum

end EndpointCountry.Toml
