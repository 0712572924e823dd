import EndpointCountry.Path
import EndpointCountry.Storage

/-!
# File trees

Files and directories in memory, with the rules by which a Unix system finds a path and refuses
one. A path that does not start at the root starts at the working directory.
-/

namespace EndpointCountry.Storage

/-- A file, or a directory with what it holds under each name. -/
inductive Entry where
  | file (content : ByteArray)
  | directory (entries : List (List Char × Entry))

namespace Entry

/-- The directory that holds nothing. -/
def empty : Entry := .directory []

/-- What stands where names lead. -/
def find? : Entry → List (List Char) → Option Entry
  | entry, [] => some entry
  | .directory entries, name :: names => (entries.lookup name).bind (find? · names)
  | .file _, _ :: _ => none

/-- Something else where names lead. Missing directories on the way are made; a file on the way
stays. -/
def put (entry new : Entry) : (names : List (List Char)) → Entry
  | [] => new
  | name :: names =>
    match entry with
    | .file content => .file content
    | .directory entries =>
      let held := (entries.lookup name).getD empty
      .directory ((name, put held new names) :: entries.filter (·.1 ≠ name))

mutual

/-- The files of an entry, each with the names that lead to it. -/
def files : Entry → List (List (List Char) × ByteArray)
  | .file content => [([], content)]
  | .directory entries => filesOf entries
termination_by structural entry => entry

/-- The files in a directory and below it, each with the names that lead to it. -/
def filesOf : List (List Char × Entry) → List (List (List Char) × ByteArray)
  | [] => []
  | (name, entry) :: rest =>
    (entry.files.map fun (names, content) => (name :: names, content)) ++ filesOf rest
termination_by structural entries => entries

end

end Entry

/-- Files and directories. The root is always a directory. -/
structure FileTree where
  working : List (List Char)
  root : Entry

/-- Where a walk through a tree has come: the names that lead there from the root, what stands there,
and the directories above it. In the names and the directories the last one comes first. -/
structure Position where
  names : List (List Char)
  entry? : Option Entry
  above : List Entry

namespace Position

/-- The longest name, in bytes. -/
def maxName : Nat := 255

/-- The length of a name in bytes. -/
def byteLength (name : List Char) : Nat :=
  (String.ofList name).utf8ByteSize

/-- What a directory at a position holds; there may be no directory. -/
def entries (p : Position) : Except Refusal (List (List Char × Entry)) :=
  match p.entry? with
  | none => .error .noEntry
  | some (.file _) => .error .notDirectory
  | some (.directory entries) => .ok entries

/-- Goes to one of the entries of a directory, which need not exist, or to the directory it is in.
The root is in itself. -/
def enter (p : Position) (name : List Char) : Except Refusal Position := do
  let entries ← p.entries
  if name = ['.'] then .ok p
  else if name = ['.', '.'] then
    match p.above with
    | [] => .ok p
    | outer :: above => .ok ⟨p.names.drop 1, some outer, above⟩
  else if maxName < byteLength name then .error .nameTooLong
  else .ok ⟨name :: p.names, entries.lookup name, .directory entries :: p.above⟩

/-- Goes along the parts of a path; empty parts lead nowhere. -/
def follow (p : Position) (parts : List (List Char)) : Except Refusal Position :=
  (parts.filter (· ≠ [])).foldlM enter p

end Position

namespace FileTree

/-- A tree with nothing but the working directory and the directories it is in. -/
def empty (working : List (List Char)) : FileTree :=
  ⟨working, Entry.empty.put .empty working⟩

/-- The tree with something else at a position. -/
def put (t : FileTree) (p : Position) (entry : Entry) : FileTree :=
  { t with root := t.root.put entry p.names.reverse }

/-- The longest path, in bytes. -/
def maxPath : Nat := 4095

/-- Refuses paths that no file system accepts. -/
def checkPath (path : List Char) : Except Refusal Unit :=
  if '\x00' ∈ path then .error .nullInPath
  else if path = [] then .error .noEntry
  else if maxPath < Position.byteLength path then .error .nameTooLong
  else .ok ()

/-- Where a path starts. -/
def start (t : FileTree) (path : List Char) : Except Refusal Position :=
  let root := ⟨[], some t.root, []⟩
  if Path.isAbsoluteL path then .ok root else root.follow t.working

/-- The parts of a path. A slash at its end asks for a directory, as a single point would. -/
def parts (path : List Char) : List (List Char) :=
  let parts := Path.splitSlash path
  if parts.getLast? = some [] then parts ++ [['.']] else parts

/-- What stands where a path leads. -/
def find (t : FileTree) (path : List Char) : Except Refusal Entry := do
  checkPath path
  let position ← (← t.start path).follow (parts path)
  match position.entry? with
  | some entry => .ok entry
  | none => .error .noEntry

/-- Whether a path leads to a directory. -/
def isDirectory (t : FileTree) (path : List Char) : Bool :=
  match t.find path with
  | .ok (.directory _) => true
  | _ => false

/-- The content of a file. -/
def read (t : FileTree) (path : List Char) : Except Refusal ByteArray :=
  match t.find path with
  | .ok (.file content) => .ok content
  | .ok (.directory _) => .error .isDirectory
  | .error refusal => .error refusal

/-- The directory in which a path puts something new, which has to exist, and the last part of the
path: `.` or `..` if the path does not end in a name. -/
def approach (t : FileTree) (path : List Char) : Except Refusal (Position × List Char) := do
  checkPath path
  let parts := (Path.splitSlash path).filter (· ≠ [])
  let directory ← (← t.start path).follow parts.dropLast
  let _ ← directory.entries
  .ok (directory, parts.getLast?.getD ['.'])

/-- Whether the last part of a path is a name for something new. -/
def isNew (part : List Char) : Bool :=
  part ≠ ['.'] ∧ part ≠ ['.', '.']

/-- Writes a file, in place of one that was there. A path that asks for a directory is refused before
its last name is looked at. -/
def write (t : FileTree) (path : List Char) (content : ByteArray) : Except Refusal FileTree := do
  let (directory, name) ← t.approach path
  if ¬ isNew name ∨ path.getLast? = some '/' then .error .isDirectory
  let position ← directory.enter name
  match position.entry? with
  | some (.directory _) => .error .isDirectory
  | _ => .ok (t.put position (.file content))

/-- Makes a directory. -/
def makeDirectory (t : FileTree) (path : List Char) : Except Refusal FileTree := do
  let (directory, name) ← t.approach path
  if ¬ isNew name then .error .entryExists
  let position ← directory.enter name
  match position.entry? with
  | none => .ok (t.put position .empty)
  | some _ => .error .entryExists

/-- Makes a directory that may be there. -/
def ensureDirectory (t : FileTree) (path : List Char) : Except Refusal FileTree :=
  match t.makeDirectory path with
  | .ok t => .ok t
  | .error refusal => if t.isDirectory path then .ok t else .error refusal

/-- Makes the directory whose path has the given parts, the last one first, and those it is in where
they are missing. Directories that were made stay when a later one is refused. -/
def ensureDirectories : List (List Char) → FileTree → FileTree × Except Refusal Unit
  | [], t => (t, .ok ())
  | part :: outer, t =>
    let path := ['/'].intercalate (part :: outer).reverse
    if ¬ Path.isName part then ensureDirectories outer t
    else
      match t.makeDirectory path with
      | .ok t => (t, .ok ())
      | .error .noEntry =>
        match ensureDirectories outer t with
        | (t, .error refusal) => (t, .error refusal)
        | (t, .ok ()) =>
          match t.ensureDirectory path with
          | .ok t => (t, .ok ())
          | .error refusal => (t, .error refusal)
      | .error refusal => if t.isDirectory path then (t, .ok ()) else (t, .error refusal)

/-- Writes a file after making the directories it is in. -/
def writeWithDirectories (t : FileTree) (path : List Char) (content : ByteArray) :
    FileTree × Except Refusal Unit :=
  match ensureDirectories (Path.outerPartsL path) t with
  | (t, .error refusal) => (t, .error refusal)
  | (t, .ok ()) =>
    match t.write path content with
    | .ok t => (t, .ok ())
    | .error refusal => (t, .error refusal)

/-- The files in the working directory and below it, by path. -/
def files (t : FileTree) : List (String × ByteArray) :=
  let found := ((t.root.find? t.working).map Entry.files).getD []
  let named := found.map fun (names, content) =>
    (String.ofList (['/'].intercalate names), content)
  named.mergeSort fun a b => a.1 ≤ b.1

/-- A storage of a file tree; its paths are taken from a base. -/
def storage (base : String) : Storage (StateM FileTree) where
  read path := do
    match (← get).read (Path.join base path).toList with
    | .ok content => pure content
    | .error refusal => throw (.storage refusal)
  write path content := do
    let (t, result) := (← get).writeWithDirectories (Path.join base path).toList content
    set t
    match result with
    | .ok () => pure ()
    | .error refusal => throw (.storage refusal)

end FileTree

end EndpointCountry.Storage
