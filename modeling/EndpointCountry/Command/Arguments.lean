import EndpointCountry.Fault

/-!
# Command-line arguments

Options have a long name after two dashes and perhaps a letter after one. A value follows its
option, in the next argument or after an equals sign; after a letter it may follow directly.
Letters of options without a value may be put together. No option is given twice, two dashes end
the options, and a single dash is an operand.
-/

namespace EndpointCountry.Command

/-- An option. -/
structure Switch where
  long : String
  short : Option Char
  takesValue : Bool

/-- What the arguments of a command may be, and how to use the command. -/
structure Usage where
  switches : List Switch
  takesOperands : Bool
  help : List String

/-- What a command line gives: options under their long names, with their values, and operands. -/
structure Arguments where
  options : List (String × String) := []
  operands : List String := []

/-- Why a command line is not carried out. -/
inductive Stop where
  /-- It breaks the rules. -/
  | usage
  /-- It asks for help. -/
  | help
  deriving DecidableEq

namespace Arguments

/-- The value of an option. -/
def value? (a : Arguments) (long : String) : Option String :=
  a.options.lookup long

/-- Whether an option is given. -/
def has (a : Arguments) (long : String) : Bool :=
  (a.value? long).isSome

/-- Adds an option, which may not have been given before. -/
def addOption (a : Arguments) (long value : String) : Except Stop Arguments :=
  if a.has long then .error .usage else .ok { a with options := a.options ++ [(long, value)] }

/-- Adds operands to a command that takes them. -/
def addOperands (usage : Usage) (a : Arguments) (operands : List String) :
    Except Stop Arguments :=
  if operands ≠ [] ∧ ¬usage.takesOperands then .error .usage
  else .ok { a with operands := a.operands ++ operands }

/-- An argument that looks like an option. -/
def looksLikeOption (arg : List Char) : Bool :=
  arg.head? == some '-' && arg != ['-']

/-- The parts of a long option before and after its equals sign. -/
def splitEquals (arg : List Char) : List Char × Option (List Char) :=
  match arg.dropWhile (· ≠ '=') with
  | [] => (arg, none)
  | _ :: value => (arg.takeWhile (· ≠ '='), some value)

/-- Reads a long option, without its dashes. The name of an option whose value has yet to come is
returned with the arguments. -/
def readLong (switches : List Switch) (a : Arguments) (arg : List Char) :
    Except Stop (Arguments × Option String) :=
  let (name, value) := splitEquals arg
  match switches.find? (·.long = String.ofList name), value with
  | none, none => .error (if name = "help".toList then .help else .usage)
  | none, some _ => .error .usage
  | some switch, none =>
    if switch.takesValue then .ok (a, some switch.long)
    else (a.addOption switch.long "").map (·, none)
  | some switch, some value =>
    if switch.takesValue then (a.addOption switch.long (String.ofList value)).map (·, none)
    else .error .usage

/-- Reads the letters of options, without their dash. The name of an option whose value has yet to
come is returned with the arguments. -/
def readLetters (switches : List Switch) (a : Arguments) :
    List Char → Except Stop (Arguments × Option String)
  | [] => .ok (a, none)
  | c :: rest =>
    match switches.find? (·.short = some c) with
    | none => .error (if c = 'h' then .help else .usage)
    | some switch =>
      if switch.takesValue then
        match rest with
        | [] => .ok (a, some switch.long)
        | '=' :: value => (a.addOption switch.long (String.ofList value)).map (·, none)
        | value => (a.addOption switch.long (String.ofList value)).map (·, none)
      else
        match a.addOption switch.long "" with
        | .ok a => readLetters switches a rest
        | .error stop => .error stop

/-- Reads arguments; `pending` is the option whose value comes next. -/
def readFrom (usage : Usage) (a : Arguments) (pending : Option String) :
    List String → Except Stop Arguments
  | [] => if pending.isSome then .error .usage else .ok a
  | arg :: rest =>
    match pending with
    | some long =>
      if looksLikeOption arg.toList then .error .usage
      else
        match a.addOption long arg with
        | .ok a => readFrom usage a none rest
        | .error stop => .error stop
    | none =>
      match arg.toList with
      | ['-', '-'] => addOperands usage a rest
      | '-' :: '-' :: name =>
        match readLong usage.switches a name with
        | .ok (a, pending) => readFrom usage a pending rest
        | .error stop => .error stop
      | '-' :: c :: letters =>
        match readLetters usage.switches a (c :: letters) with
        | .ok (a, pending) => readFrom usage a pending rest
        | .error stop => .error stop
      | _ =>
        match addOperands usage a [arg] with
        | .ok a => readFrom usage a none rest
        | .error stop => .error stop

/-- Reads a command line. -/
def read (usage : Usage) (args : List String) : Except Stop Arguments :=
  readFrom usage {} none args

end Arguments

/-- What a command does in the end: an exit status, and what it prints to either stream. -/
structure Report where
  exit : Nat
  out : List String
  err : List String

/-- The status of a command line that breaks the rules. -/
def usageStatus : Nat := 2

/-- The report of a command line that is not carried out. -/
def Stop.report (usage : Usage) : Stop → Report
  | .usage => ⟨usageStatus, [], "error: wrong usage" :: usage.help⟩
  | .help => ⟨0, usage.help, []⟩

/-- A message about a fault. -/
def complaint (fault : Fault) : String :=
  "❌ " ++ fault.friendly

end EndpointCountry.Command
