import EndpointCountry.Command.Arguments
import EndpointCountry.Config.Load
import EndpointCountry.Datum.Json
import EndpointCountry.Storage

/-!
# The lookup command

Prints the country of every endpoint on the command line. A malformed endpoint is complained about
and does not keep the others from being looked up.
-/

namespace EndpointCountry.Command.Lookup

/-- The options of the command. -/
def switches : List Switch :=
  [⟨"scheme", none, true⟩, ⟨"value", none, true⟩, ⟨"config", some 'c', true⟩,
    ⟨"explain", none, false⟩, ⟨"json", none, false⟩, ⟨"verbose", some 'v', false⟩]

/-- How to use the command. -/
def help : List String :=
  ["Usage: lookup [OPTIONS] [ENDPOINTS]...",
    "",
    "Endpoints are written 'scheme:value'.",
    "",
    "      --scheme <SCHEME>  Scheme of one more endpoint (together with --value)",
    "      --value <VALUE>    Value of one more endpoint (together with --scheme)",
    "  -c, --config <FILE>    File with extra entries for the tables",
    "      --explain          Show which table gave each country",
    "      --json             Print a JSON object for each endpoint",
    "  -v, --verbose          Accepted for symmetry",
    "  -h, --help             Print this help"]

/-- Options, and endpoints as operands. -/
def usage : Usage := ⟨switches, true, help⟩

/-- How answers are printed. -/
inductive Style where
  | plain
  | explained
  | json
  deriving DecidableEq

/-- What a command line asks for. -/
structure Request where
  config : Option String
  style : Style
  /-- A scheme and a value that are given apart. -/
  pair : Option (String × String)
  endpoints : List String

/-- What a command line asks for; a scheme and a value are given together or not at all. -/
def Request.ofArguments (a : Arguments) : Except Stop Request :=
  let style := if a.has "json" then .json else if a.has "explain" then .explained else .plain
  match a.value? "scheme", a.value? "value" with
  | some scheme, some value => .ok ⟨a.value? "config", style, some (scheme, value), a.operands⟩
  | none, none => .ok ⟨a.value? "config", style, none, a.operands⟩
  | _, _ => .error .usage

/-- The line for an endpoint and its resolution. -/
def answerLine (style : Style) (endpoint : String) (r : Resolution) : String :=
  match style with
  | .plain => endpoint ++ "\t" ++ r.country.text
  | .explained => endpoint ++ "\t" ++ r.country.text ++ "\t" ++ r.source.text
  | .json =>
    (Datum.record [("endpoint", .text endpoint), ("country", r.country.toDatum),
      ("source", r.source.toDatum)]).compact

/-- What is printed to either stream for one endpoint, and what was wrong with it. -/
structure Answer where
  out : List String
  err : List String
  fault? : Option Fault

/-- The answer for a scheme and a value that are given apart. -/
def answerPair (r : Resolver) (style : Style) (pair : String × String) : Answer :=
  ⟨[answerLine style (Endpoint.mk pair.1 pair.2).text (r.explain pair.1 pair.2)], [], none⟩

/-- The answer for a text that is no endpoint. -/
def answerFault (style : Style) (text : String) (fault : Fault) : Answer :=
  match style with
  | .json =>
    ⟨[(Datum.record [("endpoint", .text text), ("error", .text fault.message)]).compact], [],
      some fault⟩
  | _ => ⟨[], [complaint fault], some fault⟩

/-- The answer for an endpoint in its joined form. -/
def answer (r : Resolver) (style : Style) (text : String) : Answer :=
  match Endpoint.parse text with
  | .ok e => ⟨[answerLine style text (r.explain e.scheme e.value)], [], none⟩
  | .error flaw => answerFault style text flaw.toFault

/-- All answers: first the pair, then the endpoints in order. -/
def answers (r : Resolver) (request : Request) : List Answer :=
  request.pair.toList.map (answerPair r request.style) ++
    request.endpoints.map (answer r request.style)

/-- The complaint about a command line without endpoints. -/
def nothingAsked : String :=
  "❌ No endpoint given. Pass 'scheme:value' or --scheme/--value."

/-- How severe the faults in some answers are. -/
def severities (answers : List Answer) : List Severity :=
  answers.filterMap fun a => a.fault?.map Fault.severity

/-- The status after some answers: the most severe fault among them decides. -/
def statusOf (answers : List Answer) : Nat :=
  match (severities answers).max? with
  | some worst => worst.exitStatus
  | none => 0

/-- The report of a request, with the resolver it asks for. -/
def report (r : Resolver) (request : Request) : Report :=
  if request.pair.isNone ∧ request.endpoints = [] then ⟨1, [], [nothingAsked]⟩
  else
    let all := answers r request
    ⟨statusOf all, all.flatMap (·.out), all.flatMap (·.err)⟩

/-- The resolver of a settings text. -/
def resolverOfBytes (env : Environment) (content : ByteArray) : Except Fault Resolver := do
  let config ← Config.loadBytes Config.lookupOfDatum? env content
  config.check
  config.toResolver

variable {m : Type → Type} [Monad m]

/-- The resolver that a request asks for. -/
def resolverFor (env : Environment) (storage : Storage m) (request : Request) :
    ExceptT Fault m Resolver :=
  match request.config with
  | none => pure .builtin
  | some path => do
    let content ← storage.read path
    ExceptT.mk (pure (resolverOfBytes env content))

/-- Carries out a request. -/
def perform (env : Environment) (storage : Storage m) (request : Request) : m Report := do
  match ← (resolverFor env storage request).run with
  | .ok r => pure (report r request)
  | .error fault => pure ⟨fault.exitStatus, [], [complaint fault]⟩

/-- Carries out a command line. -/
def run (env : Environment) (storage : Storage m) (args : List String) : m Report :=
  match (Arguments.read usage args).bind Request.ofArguments with
  | .ok request => perform env storage request
  | .error stop => pure (stop.report usage)

end EndpointCountry.Command.Lookup
