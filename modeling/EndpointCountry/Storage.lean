import EndpointCountry.Fault

/-!
# Storages

Where files are read and written. What a storage does besides, and which faults it has, is its own.
A storage in memory keeps the files it is given and a record of what is written to it.
-/

namespace EndpointCountry

/-- A place to read and write whole files; either may stop with a fault. -/
structure Storage (m : Type → Type) where
  read : String → ExceptT Fault m ByteArray
  write : String → ByteArray → ExceptT Fault m Unit

namespace Storage

/-- Files under their paths, and what was written, the latest first. -/
structure Memory where
  files : List (String × ByteArray)
  written : List (String × ByteArray) := []

namespace Memory

/-- The content of a file. -/
def get? (memory : Memory) (path : String) : Option ByteArray :=
  memory.written.lookup path <|> memory.files.lookup path

/-- What was written, in order, with the content each path has in the end. -/
def log (memory : Memory) : List (String × ByteArray) :=
  memory.written.reverse.map fun (path, content) => (path, (memory.get? path).getD content)

/-- The fault of a path that cannot be read or written: the path itself. -/
def refused (path : String) : Fault :=
  .storage (.other path)

/-- A storage of files in memory. One that is `readOnly` refuses every write. -/
def storage (readOnly : Bool) : Storage (StateM Memory) where
  read path := do
    match (← get).get? path with
    | some content => pure content
    | none => throw (refused path)
  write path content :=
    if readOnly then throw (refused path)
    else modify fun memory => { memory with written := (path, content) :: memory.written }

end Memory

end Storage

end EndpointCountry
