/-!
# Paths

Paths are texts of names with slashes between them. One that starts with a slash starts at the root
of the file system, any other where it is used.

The functions with a final `L` work on characters.
-/

namespace EndpointCountry.Path

/-- The parts of a path between its slashes. -/
def splitSlash : List Char → List (List Char)
  | [] => [[]]
  | '/' :: rest => [] :: splitSlash rest
  | c :: rest =>
    match splitSlash rest with
    | [] => [[c]]
    | part :: parts => (c :: part) :: parts

/-- Splitting leaves at least one part. -/
theorem splitSlash_ne_nil (path : List Char) : splitSlash path ≠ [] := by
  fun_induction splitSlash path <;> simp_all

/-- No part holds a slash. -/
theorem slash_notMem_of_mem_splitSlash {path part : List Char} (h : part ∈ splitSlash path) :
    '/' ∉ part := by
  fun_induction splitSlash path generalizing part with
  | case1 => simp_all
  | case2 rest ih =>
    rcases List.mem_cons.1 h with rfl | h
    · simp
    · exact ih h
  | case3 c rest _ h' ih => exact absurd h' (splitSlash_ne_nil rest)
  | case4 c rest hc first parts h' ih =>
    rw [h'] at ih
    rcases List.mem_cons.1 h with rfl | h
    · have := ih (List.mem_cons_self ..)
      simp only [List.mem_cons, not_or]
      exact ⟨fun hs => hc hs.symm, this⟩
    · exact ih (List.mem_cons_of_mem _ h)

/-- A path that starts at the root. -/
def isAbsoluteL (path : List Char) : Bool :=
  path.head? == some '/'

/-- Whether a part of a path is a name. Empty parts and single points lead nowhere. -/
def isName (part : List Char) : Bool :=
  part ≠ [] ∧ part ≠ ['.']

/-- The names in a path. -/
def namesL (path : List Char) : List (List Char) :=
  (splitSlash path).filter isName

/-- The parts of a path before its last name, the last one first. -/
def outerPartsL (path : List Char) : List (List Char) :=
  ((splitSlash path).reverse.dropWhile (!isName ·)).drop 1

/-- A path taken from a base; a path from the root is taken as it is. -/
def joinL (base path : List Char) : List Char :=
  if isAbsoluteL path then path
  else if base = [] ∨ base.getLast? = some '/' then base ++ path
  else base ++ '/' :: path

/-- A path taken from a base. -/
def join (base path : String) : String :=
  String.ofList (joinL base.toList path.toList)

/-- The name a path ends in, if it ends in one: a path to a parent directory does not. -/
def fileNameL? (path : List Char) : Option (List Char) :=
  match (namesL path).getLast? with
  | some name => if name = ['.', '.'] then none else some name
  | none => none

/-- A name up to its last point, if there is a point in it other than the first character. -/
def stemL (name : List Char) : List Char :=
  let front := (name.reverse.dropWhile (· ≠ '.')).drop 1
  if front = [] then name else front.reverse

/-- The name a path ends in, without its extension. -/
def fileStem? (path : String) : Option String :=
  (fileNameL? path.toList).map fun name => String.ofList (stemL name)

/-- The path to the directory that a path is in, as it is written there. It is empty where that is
the root, or the place where the path starts. -/
def parent (path : String) : String :=
  String.ofList (['/'].intercalate ((outerPartsL path.toList).dropWhile (!isName ·)).reverse)

end EndpointCountry.Path
