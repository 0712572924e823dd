import EndpointCountry.Command.Arguments
import EndpointCountry.Config.Load
import EndpointCountry.Tagging.Run

/-!
# The batch command

Tags a file as a settings file tells, after showing what is going to be done.
-/

namespace EndpointCountry.Command.Batch

/-- The options of the command. -/
def switches : List Switch :=
  [⟨"config", some 'c', true⟩, ⟨"verbose", some 'v', false⟩, ⟨"json-logs", none, false⟩,
    ⟨"input", none, true⟩, ⟨"dry-run", none, false⟩]

/-- How to use the command. -/
def help : List String :=
  ["Usage: batch [OPTIONS]",
    "",
    "  -c, --config <FILE>  Settings of the batch [default: batch-tag.toml]",
    "  -v, --verbose        Accepted for symmetry",
    "      --json-logs      Accepted for symmetry",
    "      --input <FILE>   File to tag instead of the one in the settings",
    "      --dry-run        Check the settings and show what would be done",
    "  -h, --help           Print this help"]

/-- Options, and no operands. -/
def usage : Usage := ⟨switches, false, help⟩

/-- What a command line asks for. -/
structure Request where
  config : String
  input : Option String
  dryRun : Bool

/-- What a command line asks for. -/
def Request.ofArguments (a : Arguments) : Request :=
  ⟨(a.value? "config").getD "batch-tag.toml", a.value? "input", a.has "dry-run"⟩

/-- The settings with the input file of the request. -/
def Request.applyTo (request : Request) (config : Config.Batch) : Config.Batch :=
  match request.input with
  | some path => { config with input := { config.input with path := path } }
  | none => config

/-- What is shown before a file is tagged. -/
def overview (config : Config.Batch) (r : Resolver) : List String :=
  ["📋 Configuration Summary:", s!"  Batch: {config.batch.name}"] ++
    (config.batch.description.toList.map fun text => s!"  Description: {text}") ++
    [s!"  Input: {config.input.path}",
      s!"  Output: {config.output.path}/{config.output.tableName}",
      s!"  Country column: {config.output.countryName}",
      s!"  On invalid endpoint: {config.policy.title}",
      s!"  Tables: {r.schemeCount} schemes, {r.prefixCount 3}/{r.prefixCount 4}/{r.prefixCount 5} GLN prefixes, {r.overrideCount} overrides",
      ""]

/-- The status when the settings cannot be used. -/
def settingsStatus : Nat := 1

/-- A text with every line of it moved to the right. -/
def shifted (text : String) : String :=
  let margin := [' ', ' ', ' ', ' ']
  String.ofList (margin ++ text.toList.flatMap fun c => if c = '\n' then c :: margin else [c])

/-- The report of a fault that keeps a step from being taken. -/
def abandoned (step : String) (fault : Fault) : Report :=
  ⟨settingsStatus, [], [s!"Error: {step}", "", "Caused by:", shifted fault.message]⟩

/-- What a run does once its settings are known: it stops with a report, or tags a file after
showing something. -/
inductive Plan where
  | stop (report : Report)
  | tag (shown : List String) (config : Config.Batch) (resolver : Resolver)

/-- The plan for a request with settings that were read. -/
def plan (request : Request) (config : Config.Batch) : Plan :=
  let config := request.applyTo config
  match config.check with
  | .error fault => .stop ⟨settingsStatus, [], [complaint fault]⟩
  | .ok () =>
    match config.resolver.toResolver with
    | .error fault => .stop (abandoned "failed to apply [resolver] mappings" fault)
    | .ok r =>
      if request.dryRun then .stop ⟨0, overview config r, []⟩
      else .tag (overview config r) config r

/-- The report of a tagged file, after what was shown. -/
def finish (shown : List String) : Except Fault String → Report
  | .ok path => ⟨0, shown ++ [s!"📁 Output saved to: {path}"], []⟩
  | .error fault => ⟨fault.exitStatus, shown, [complaint fault]⟩

variable {m : Type → Type} [Monad m]

/-- Reads the settings that a request names. -/
def readConfig (env : Environment) (storage : Storage m) (path : String) :
    ExceptT Fault m Config.Batch := do
  let content ← storage.read path
  ExceptT.mk (pure (Config.loadBytes Config.Batch.ofDatum? env content))

/-- Carries out a request. -/
def perform (env : Environment) (storage : Storage m) (now : String) (request : Request) :
    m Report := do
  match ← (readConfig env storage request.config).run with
  | .error fault => pure (abandoned s!"failed to load config file '{request.config}'" fault)
  | .ok config =>
    match plan request config with
    | .stop report => pure report
    | .tag shown config r =>
      return finish shown (← (Tagging.run storage r.toMapper config now).run)

/-- Carries out a command line. -/
def run (env : Environment) (storage : Storage m) (now : String) (args : List String) :
    m Report :=
  match Arguments.read usage args with
  | .ok a => perform env storage now (Request.ofArguments a)
  | .error stop => pure (stop.report usage)

end EndpointCountry.Command.Batch
