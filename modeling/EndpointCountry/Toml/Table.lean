import EndpointCountry.Datum

/-!
# Tables of TOML

A table grows while a document is read: by key, by dotted keys, and by headers that name it. How a
table came about decides in which of these ways it may grow later.

While tables grow, the latest entry of a table and the latest table of a list come first.
-/

namespace EndpointCountry.Toml

/-- How a table came about. -/
inductive Origin where
  /-- A header names the table itself. -/
  | header
  /-- A header names a table inside it. -/
  | implied
  /-- A dotted key leads through it. -/
  | dotted
  deriving DecidableEq

/-- What stands under a key. -/
inductive Node where
  /-- A value that is written in one place and never grows. -/
  | value (d : Datum)
  /-- A table that may grow. -/
  | table (origin : Origin) (entries : List (String × Node))
  /-- A list of tables, each started by a header; the latest one may grow. -/
  | tables (items : List (List (String × Node)))

/-- A table: how it came about, and what stands under its keys. -/
structure Table where
  origin : Origin
  entries : List (String × Node)

namespace Table

/-- The table without entries. -/
def empty (origin : Origin) : Table :=
  ⟨origin, []⟩

/-- A table as what stands under a key. -/
def toNode (t : Table) : Node :=
  .table t.origin t.entries

/-- Entries with another node under a key that is in use. -/
def replaceNode (key : String) (node : Node) : List (String × Node) → List (String × Node)
  | [] => []
  | (k, held) :: rest =>
    if k = key then (key, node) :: rest else (k, held) :: replaceNode key node rest

/-- Changes what stands under a key; there may be nothing yet. The change may be refused. -/
def alter (t : Table) (key : String) (change : Option Node → Option Node) : Option Table :=
  let held := t.entries.lookup key
  (change held).map fun node =>
    { t with entries :=
        if held.isSome then replaceNode key node t.entries else (key, node) :: t.entries }

/-- Changes the table that a path of keys leads to. Missing tables on the way are made, and of a
list of tables the latest one is taken. A value is no table; and dotted keys do not enter a table
that a header has named. -/
def within (dotted : Bool) (change : Table → Option Table) : List String → Table → Option Table
  | [], t => change t
  | key :: path, t =>
    t.alter key fun
      | none =>
        (within dotted change path (empty (if dotted then .dotted else .implied))).map toNode
      | some (.table origin entries) =>
        if dotted ∧ origin = .header then none
        else (within dotted change path ⟨origin, entries⟩).map toNode
      | some (.tables items) =>
        match items with
        | [] => none
        | entries :: items =>
          (within dotted change path ⟨.header, entries⟩).map fun t => .tables (t.entries :: items)
      | some (.value _) => none

/-- Adds a value under a key that is not in use. -/
def add (t : Table) (key : String) (d : Datum) : Option Table :=
  t.alter key fun
    | none => some (.value d)
    | some _ => none

/-- Adds a value under a path of keys. A path of several keys ends in a table that dotted keys
made. -/
def assign (t : Table) (path : List String) (d : Datum) : Option Table :=
  match path.getLast? with
  | none => none
  | some key =>
    match path.dropLast with
    | [] => t.add key d
    | front => within true (fun t => if t.origin = .dotted then t.add key d else none) front t

/-- Adds values under paths of keys, one after another. -/
def assignAll (t : Table) (pairs : List (List String × Datum)) : Option Table :=
  pairs.foldlM (fun t (path, d) => t.assign path d) t

/-- Adds the table that a header names, with its values. So far there may only be a table of that
name which headers of tables inside it have implied. -/
def addTable (t : Table) (path : List String) (pairs : List (List String × Datum)) :
    Option Table :=
  match path.getLast? with
  | none => none
  | some key =>
    within false (fun parent =>
      parent.alter key fun
        | none => ((empty .header).assignAll pairs).map toNode
        | some (.table .implied entries) => (assignAll ⟨.header, entries⟩ pairs).map toNode
        | some _ => none) path.dropLast t

/-- Adds a table to the list of tables that a header names. -/
def addToTables (t : Table) (path : List String) (pairs : List (List String × Datum)) :
    Option Table :=
  match path.getLast? with
  | none => none
  | some key =>
    within false (fun parent =>
      parent.alter key fun
        | none => ((empty .header).assignAll pairs).map fun t => .tables [t.entries]
        | some (.tables items) =>
          ((empty .header).assignAll pairs).map fun t => .tables (t.entries :: items)
        | some _ => none) path.dropLast t

end Table

namespace Node

mutual

/-- What stands under a key, as data. -/
def toDatum : Node → Datum
  | .value d => d
  | .table _ entries => .record (entriesToData entries).reverse
  | .tables items => .list (itemsToData items).reverse
termination_by structural n => n

/-- The entries of a table as the fields of a record, the latest one first. -/
def entriesToData : List (String × Node) → List (String × Datum)
  | [] => []
  | (key, node) :: rest => (key, node.toDatum) :: entriesToData rest
termination_by structural entries => entries

/-- A list of tables as records, the latest one first. -/
def itemsToData : List (List (String × Node)) → List Datum
  | [] => []
  | entries :: rest => .record (entriesToData entries).reverse :: itemsToData rest
termination_by structural items => items

end

end Node

/-- A table as a record. -/
def Table.toDatum (t : Table) : Datum :=
  t.toNode.toDatum

end EndpointCountry.Toml
