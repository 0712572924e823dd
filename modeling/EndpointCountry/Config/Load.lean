import EndpointCountry.Config.Batch
import EndpointCountry.Toml.Document

/-!
# Loading settings

A settings text may refer to a variable of the environment as `${NAME}`. A reference to a variable
that is set stands for its value; the value is not looked at again. Any other text stays. What comes
of it is a document of TOML that describes the settings.
-/

namespace EndpointCountry

/-! ## Environment references -/

/-- The variables that are set, with their values. -/
abbrev Environment := String → Option String

namespace Environment

/-- A character that a variable's name may start with. -/
def isNameStart (c : Char) : Bool :=
  ('a' ≤ c && c ≤ 'z') || ('A' ≤ c && c ≤ 'Z') || c == '_'

/-- A character that a variable's name may go on with. -/
def isNameChar (c : Char) : Bool :=
  isNameStart c || ('0' ≤ c && c ≤ '9')

/-- The names that variables may have. -/
def IsName (name : List Char) : Prop :=
  (∃ c ∈ name.head?, isNameStart c = true) ∧ name.all isNameChar = true

/-- A reference to a variable. -/
def reference (name : List Char) : List Char :=
  '$' :: '\x7b' :: name ++ ['\x7d']

/-- The name in the reference that a text starts with. -/
def referenceName? : List Char → Option (List Char)
  | '$' :: '\x7b' :: c :: rest =>
    let name := (c :: rest).takeWhile isNameChar
    match (c :: rest).dropWhile isNameChar with
    | '\x7d' :: _ => if isNameStart c then some name else none
    | _ => none
  | _ => none

/-- What a reference stands for: the value of its variable, or itself when that is not set. -/
def valueOf (env : Environment) (name : List Char) : List Char :=
  match env (String.ofList name) with
  | some value => value.toList
  | none => reference name

/-- A text in which references stand for their values, from the left to the right. The next `skip`
characters belong to a reference that has been replaced. -/
def substituteFrom (env : Environment) : Nat → List Char → List Char
  | _, [] => []
  | skip + 1, _ :: rest => substituteFrom env skip rest
  | 0, c :: rest =>
    match referenceName? (c :: rest) with
    | some name => env.valueOf name ++ substituteFrom env (name.length + 2) rest
    | none => c :: substituteFrom env 0 rest

/-- A text in which references stand for their values. -/
def substitute (env : Environment) (text : String) : String :=
  String.ofList (substituteFrom env 0 text.toList)

end Environment

/-! ## Settings -/

namespace Config

/-- The settings of a text that is not in the notation, or does not describe the settings. -/
def malformed : Fault :=
  .setting "toml_parsing" "TOML parsing error"

/-- Reads settings from a text. -/
def load {α : Type} (read : Datum → Option α) (env : Environment) (text : String) :
    Except Fault α :=
  match (Toml.parse? (env.substitute text)).bind read with
  | some settings => .ok settings
  | none => .error malformed

/-- Reads settings from the content of a file. -/
def loadBytes {α : Type} (read : Datum → Option α) (env : Environment) (content : ByteArray) :
    Except Fault α :=
  match String.fromUTF8? content with
  | some text => load read env text
  | none => .error (.storage .notText)

/-- Reads the settings of a single resolver: only their `resolver` part counts. -/
def lookupOfDatum? (d : Datum) : Option Resolver := do
  let f ← Fields.ofDatum? ["resolver"] d
  f.withDefault 0 {} Resolver.ofDatum?

end Config

end EndpointCountry
