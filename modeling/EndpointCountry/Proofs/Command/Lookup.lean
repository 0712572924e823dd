import EndpointCountry.Command.Lookup
import EndpointCountry.Proofs.Command.Arguments
import EndpointCountry.Proofs.Config.Acceptance
import EndpointCountry.Proofs.Resolver.Sources
import EndpointCountry.Proofs.Storage

/-!
# Lookups do not depend on each other

What the lookup command prints for several lookups is what it prints for each of them alone, one
after the other, and the exit status tells whether any of them was malformed. As JSON every lookup
is one line, which reads back as the answer.

* `ended_flatMap`, `lines_ended` — printed lines, group by group and read back.
* `CommandLine`, `Spelled`, `spelled_args` — what a command line may ask for, and arguments for it.
* `Query`, `queries`, `only` — the lookups of a command line, and each of them alone.
* `mem_severities_queries`, `statusOf_queries` — the faults of a report, and its status.
* `report_request`, `report_only` — reports by the answers to the lookups.
* `lines_stdout` — the lines that are printed as JSON.
* `independent_of_run` — a run beside the runs for each lookup.
-/

namespace EndpointCountry.Command

/-! ## Printed lines -/

/-- Lines with a line end behind each. -/
def ended (ls : List String) : String :=
  String.join (ls.map (· ++ "\n"))

/-- What a report prints to the first stream. -/
def Report.stdout (report : Report) : String :=
  ended report.out

/-- What a report prints to the stream for complaints. -/
def Report.stderr (report : Report) : String :=
  ended report.err

/-- The lines of a text in which every line is ended. -/
def lines (text : String) : List String :=
  (text.toList.splitOn '\n').dropLast.map String.ofList

theorem ended_cons (l : String) (ls : List String) : ended (l :: ls) = l ++ "\n" ++ ended ls := by
  rw [← String.toList_inj]
  simp [ended, String.toList_join]

/-- Lines that are printed group by group. -/
theorem ended_flatMap {α : Type} (group : α → List String) (l : List α) :
    ended (l.flatMap group) = String.join (l.map fun a => ended (group a)) := by
  rw [← String.toList_inj]
  simp [ended, String.toList_join, List.flatMap_map, List.map_flatMap, List.flatMap_assoc]

/-- Lines without a line end in them are the lines of what is printed. -/
theorem lines_ended {ls : List String} (h : ∀ l ∈ ls, '\n' ∉ l.toList) : lines (ended ls) = ls := by
  have htext : (ended ls).toList = ['\n'].intercalate (ls.map String.toList ++ [[]]) := by
    clear h
    induction ls with
    | nil => rfl
    | cons l rest ih =>
      rw [List.map_cons, List.cons_append, List.intercalate_cons_of_ne_nil (by simp), ← ih,
        ended_cons]
      simp
  have hparts : ∀ part ∈ ls.map String.toList ++ [[]], '\n' ∉ part := by
    intro part hpart
    rcases List.mem_append.1 hpart with hpart | hpart
    · obtain ⟨l, hl, rfl⟩ := List.mem_map.1 hpart
      exact h l hl
    · rw [List.mem_singleton.1 hpart]
      exact List.not_mem_nil
  have hsplit := List.splitOn_intercalate '\n' hparts (by simp)
  rw [lines, htext, hsplit, List.dropLast_concat, List.map_map]
  exact (List.map_congr_left fun l _ => String.ofList_toList).trans (List.map_id _)

namespace Lookup

/-! ## Command lines -/

/-- What a command line asks for, switch by switch. -/
structure CommandLine where
  config : Option String
  explain : Bool
  json : Bool
  pair : Option (String × String)
  endpoints : List String

/-- One thing to look up. -/
inductive Query where
  /-- A scheme and a value that are given apart. -/
  | pair (scheme value : String)
  | endpoint (text : String)

namespace CommandLine

/-- How answers are printed: as JSON, if that is asked for. -/
def style (c : CommandLine) : Style :=
  if c.json then .json else if c.explain then .explained else .plain

def request (c : CommandLine) : Request :=
  ⟨c.config, c.style, c.pair, c.endpoints⟩

/-- The command reads some arguments as this command line. -/
def Spelled (c : CommandLine) (args : List String) : Prop :=
  (Arguments.read usage args).bind Request.ofArguments = .ok c.request

/-- The options of a command line, each once. -/
def given (c : CommandLine) : List Arguments.Given :=
  (c.config.toList.map fun path => .value "config" path) ++
    (if c.explain then [.flag "explain"] else []) ++ (if c.json then [.flag "json"] else []) ++
    c.pair.toList.flatMap fun pair => [.value "scheme" pair.1, .value "value" pair.2]

/-- Arguments for a command line. -/
def args (c : CommandLine) : List String :=
  c.given.map Arguments.Given.spelling ++ "--" :: c.endpoints

/-- The lookups of a command line, in order: the pair first. -/
def queries (c : CommandLine) : List Query :=
  (c.pair.toList.map fun pair => .pair pair.1 pair.2) ++ c.endpoints.map .endpoint

/-- The command line with one lookup and nothing else changed. -/
def only (c : CommandLine) : Query → CommandLine
  | .pair scheme value => { c with pair := some (scheme, value), endpoints := [] }
  | .endpoint text => { c with pair := none, endpoints := [text] }

theorem known_given (c : CommandLine) : ∀ g ∈ c.given, g.Known usage := by
  intro g hg
  simp only [given, List.mem_append, List.mem_map, List.mem_flatMap, List.mem_cons,
    List.not_mem_nil, or_false] at hg
  rcases hg with ((⟨path, -, rfl⟩ | hg) | hg) | ⟨pair, -, rfl | rfl⟩
  · exact ⟨by decide, _, rfl, rfl⟩
  · split at hg
    · cases List.mem_singleton.1 hg
      exact ⟨by decide, by decide, _, rfl, rfl⟩
    · cases hg
  · split at hg
    · cases List.mem_singleton.1 hg
      exact ⟨by decide, by decide, _, rfl, rfl⟩
    · cases hg
  · exact ⟨by decide, _, rfl, rfl⟩
  · exact ⟨by decide, _, rfl, rfl⟩

/-- Every command line can be spelled. -/
theorem spelled_args (c : CommandLine) : c.Spelled c.args := by
  have hdistinct : (keysOf (c.given.map Arguments.Given.option)).Nodup := by
    obtain ⟨config, explain, json, pair, endpoints⟩ := c
    cases config <;> cases explain <;> cases json <;> cases pair <;>
      simp [given, Arguments.Given.option, keysOf]
  have husage : usage.takesOperands = true := rfl
  have hread := Arguments.read_spelled husage c.known_given hdistinct c.endpoints
  rw [Spelled, args, hread]
  obtain ⟨config, explain, json, pair, endpoints⟩ := c
  cases config <;> cases explain <;> cases json <;> cases pair <;> rfl

theorem config_only (c : CommandLine) (q : Query) : (c.only q).request.config = c.config := by
  cases q <;> rfl

theorem style_only (c : CommandLine) (q : Query) : (c.only q).style = c.style := by
  cases q <;> rfl

end CommandLine

/-! ## Answers -/

/-- The answer to one lookup. -/
def answerTo (r : Resolver) (style : Style) : Query → Answer
  | .pair scheme value => answerPair r style (scheme, value)
  | .endpoint text => answer r style text

section Reports

variable (r : Resolver) (c : CommandLine)

theorem answers_request : answers r c.request = c.queries.map (answerTo r c.style) := by
  rw [answers, CommandLine.queries, List.map_append, List.map_map, List.map_map]
  rfl

/-- Every malformed endpoint has a fault of high severity, and nothing else has one. -/
theorem mem_severities_queries {style : Style} {severity : Severity} :
    severity ∈ severities (c.queries.map (answerTo r style)) ↔
      severity = .high ∧ ∃ text ∈ c.endpoints, (Endpoint.parse text).isOk = false := by
  have hendpoint (text : String) : (answer r style text).fault?.map Fault.severity = some severity ↔
      severity = .high ∧ (Endpoint.parse text).isOk = false := by
    unfold answer
    cases Endpoint.parse text with
    | ok e => simp [Except.isOk, Except.toBool]
    | error flaw =>
      have hhigh : flaw.toFault.severity = .high := rfl
      cases style <;> simp [answerFault, hhigh, Except.isOk, Except.toBool, eq_comm]
  simp only [severities, List.mem_filterMap, List.mem_map, CommandLine.queries, List.mem_append]
  constructor
  · rintro ⟨_, ⟨q, ⟨pair, -, rfl⟩ | ⟨text, htext, rfl⟩, rfl⟩, hseverity⟩
    · cases hseverity
    · obtain ⟨hhigh, hbad⟩ := (hendpoint text).1 hseverity
      exact ⟨hhigh, text, htext, hbad⟩
  · rintro ⟨hhigh, text, htext, hbad⟩
    exact ⟨_, ⟨_, .inr ⟨text, htext, rfl⟩, rfl⟩, (hendpoint text).2 ⟨hhigh, hbad⟩⟩

/-- The status is zero unless an endpoint is malformed. -/
theorem statusOf_queries (style : Style) :
    statusOf (c.queries.map (answerTo r style)) =
      if c.endpoints.all (fun text => (Endpoint.parse text).isOk) then 0 else 1 := by
  unfold statusOf
  cases hworst : (severities (c.queries.map (answerTo r style))).max? with
  | some worst =>
    obtain ⟨rfl, text, htext, hbad⟩ := (mem_severities_queries r c).1 (List.max?_mem hworst)
    have hsome : ¬ c.endpoints.all (fun text => (Endpoint.parse text).isOk) = true := by
      intro hall
      exact absurd (List.all_eq_true.1 hall text htext) (by simp [hbad])
    rw [if_neg hsome]
    rfl
  | none =>
    have hnone : c.endpoints.all (fun text => (Endpoint.parse text).isOk) = true := by
      rw [List.all_eq_true]
      intro text htext
      by_contra hbad
      have hmem : Severity.high ∈ severities (c.queries.map (answerTo r style)) :=
        (mem_severities_queries r c).2 ⟨rfl, text, htext, Bool.eq_false_of_not_eq_true hbad⟩
      rw [List.max?_eq_none_iff.1 hworst] at hmem
      cases hmem
    rw [if_pos hnone]

/-- The report of a command line with at least one lookup. -/
theorem report_request (h : c.queries ≠ []) :
    report r c.request =
      ⟨if c.endpoints.all (fun text => (Endpoint.parse text).isOk) then 0 else 1,
        c.queries.flatMap fun q => (answerTo r c.style q).out,
        c.queries.flatMap fun q => (answerTo r c.style q).err⟩ := by
  have hasked : ¬ (c.request.pair.isNone ∧ c.request.endpoints = []) := by
    rintro ⟨hpair, hendpoints⟩
    have hnone : c.pair = none := Option.isNone_iff_eq_none.1 hpair
    have hempty : c.endpoints = [] := hendpoints
    apply h
    rw [CommandLine.queries, hnone, hempty]
    rfl
  rw [report, if_neg hasked, answers_request]
  simp only [statusOf_queries, List.flatMap_map]

/-- The report of a command line with one lookup alone. -/
theorem report_only (q : Query) :
    (report r (c.only q).request).out = (answerTo r c.style q).out ∧
      (report r (c.only q).request).err = (answerTo r c.style q).err := by
  have hqueries : (c.only q).queries = [q] := by cases q <;> rfl
  rw [report_request r (c.only q) (by rw [hqueries]; exact List.cons_ne_nil _ _), hqueries,
    c.style_only]
  simp

/-- What is printed for several lookups is what is printed for each of them alone. -/
theorem stdout_report (h : c.queries ≠ []) :
    (report r c.request).stdout =
      String.join (c.queries.map fun q => (report r (c.only q).request).stdout) := by
  rw [report_request r c h]
  simp only [Report.stdout, report_only, ended_flatMap]

theorem stderr_report (h : c.queries ≠ []) :
    (report r c.request).stderr =
      String.join (c.queries.map fun q => (report r (c.only q).request).stderr) := by
  rw [report_request r c h]
  simp only [Report.stderr, report_only, ended_flatMap]

end Reports

/-! ## Lines of JSON -/

/-- What the line for a lookup tells: its text with the country and the source, or with the fault
if it is no endpoint. -/
inductive Tells (r : Resolver) : Query → Datum → Prop
  | pair (scheme value : String) :
    Tells r (.pair scheme value)
      (.record [("endpoint", .text (scheme ++ ":" ++ value)),
        ("country", .text (r.explain scheme value).country.text),
        ("source", (r.explain scheme value).source.toDatum)])
  | endpoint {text : String} {e : Endpoint} (h : Endpoint.parse text = .ok e) :
    Tells r (.endpoint text)
      (.record [("endpoint", .text text),
        ("country", .text (r.explain e.scheme e.value).country.text),
        ("source", (r.explain e.scheme e.value).source.toDatum)])
  | malformed {text : String} {flaw : Endpoint.Flaw} (h : Endpoint.parse text = .error flaw) :
    Tells r (.endpoint text)
      (.record [("endpoint", .text text), ("error", .text flaw.toFault.message)])

theorem Tells.exact {r : Resolver} (hr : r.Wf) {q : Query} {d : Datum} (h : Tells r q d) :
    d.Exact := by
  cases h with
  | pair scheme value =>
    refine .record (by simp) ?_
    simp [Datum.Exact.text, Resolver.exact_toDatum_source hr]
  | endpoint h =>
    refine .record (by simp) ?_
    simp [Datum.Exact.text, Resolver.exact_toDatum_source hr]
  | malformed h =>
    refine .record (by simp) ?_
    simp [Datum.Exact.text]

/-- As JSON a lookup is answered by one line. -/
theorem exists_tells (r : Resolver) (q : Query) :
    ∃ d, Tells r q d ∧ (answerTo r .json q).out = [d.compact] := by
  cases q with
  | pair scheme value => exact ⟨_, .pair scheme value, rfl⟩
  | endpoint text =>
    cases h : Endpoint.parse text with
    | ok e => exact ⟨_, .endpoint h, by rw [answerTo, answer, h]; rfl⟩
    | error flaw => exact ⟨_, .malformed h, by rw [answerTo, answer, h]; rfl⟩

/-- The lines that are printed as JSON are one for each lookup, and they read back. -/
theorem lines_stdout {r : Resolver} (hr : r.Wf) {c : CommandLine} (h : c.queries ≠ [])
    (hjson : c.json = true) :
    List.Forall₂ (fun q line => ∃ d, Datum.ofJson? line = some d ∧ Tells r q d) c.queries
      (lines (report r c.request).stdout) := by
  have hstyle : c.style = .json := by rw [CommandLine.style, if_pos hjson]
  choose told htold hout using exists_tells r
  have hprinted : (report r c.request).out = c.queries.map fun q => (told q).compact := by
    rw [report_request r c h, hstyle]
    simp only [hout]
    exact List.map_eq_flatMap.symm
  rw [Report.stdout, hprinted, lines_ended]
  · rw [List.forall₂_map_right_iff, List.forall₂_same]
    intro q hq
    exact ⟨told q, ((htold q).exact hr).ofJson?_compact, htold q⟩
  · intro line hline
    obtain ⟨q, -, rfl⟩ := List.mem_map.1 hline
    exact ((htold q).exact hr).newline_notMem_compact

/-! ## Runs -/

open Storage (exec)

/-- The resolver of a settings text has its prefix tables at their lengths. -/
theorem wf_of_resolverOfBytes {env : Environment} {content : ByteArray} {r : Resolver}
    (h : resolverOfBytes env content = .ok r) : r.Wf := by
  unfold resolverOfBytes at h
  simp only [bind_eq_ok_iff] at h
  obtain ⟨config, -, _, -, hr⟩ := h
  obtain ⟨⟨-, hadm⟩, rfl⟩ := Config.Resolver.toResolver_eq_ok_iff.1 hr
  exact hadm.wf_layered

theorem wf_of_resolverFor {σ : Type} {env : Environment} {storage : Storage (StateM σ)}
    {request : Request} {r : Resolver} {s s' : σ}
    (h : exec (resolverFor env storage request) s = (.ok r, s')) : r.Wf := by
  unfold resolverFor at h
  split at h
  · cases h
    exact Resolver.wf_builtin_with _ _
  · obtain ⟨content, mid, -, hr⟩ := Storage.exec_bind_eq_ok_iff.1 h
    exact wf_of_resolverOfBytes (Storage.exec_mk_pure_iff.1 hr).1

section Runs

variable {σ : Type} {env : Environment} {storage : Storage (StateM σ)} {r : Resolver}
  {c : CommandLine} {s s' : σ}

/-- A run whose resolver loads reports what that resolver answers. -/
theorem run_of_spelled {args : List String} (hargs : c.Spelled args)
    (hload : exec (resolverFor env storage c.request) s = (.ok r, s')) :
    ((run env storage args).run s).1 = report r c.request := by
  have hrun : run env storage args = perform env storage c.request := by
    rw [run, hargs]
  have hresolver : (resolverFor env storage c.request).run.run s = (.ok r, s') := hload
  rw [hrun, perform, StateT.run_bind, hresolver]
  rfl

/-- A run over several lookups beside the runs over each of them alone. -/
structure Independent (r : Resolver) (c : CommandLine) (whole : Report)
    (alone : Query → Report) : Prop where
  stdout_eq : whole.stdout = String.join (c.queries.map fun q => (alone q).stdout)
  stderr_eq : whole.stderr = String.join (c.queries.map fun q => (alone q).stderr)
  exit_eq : whole.exit = if c.endpoints.all (fun text => (Endpoint.parse text).isOk) then 0 else 1
  /-- As JSON every lookup is a line that reads back as its answer. -/
  lines : c.json = true →
    List.Forall₂ (fun q line => ∃ d, Datum.ofJson? line = some d ∧ Tells r q d) c.queries
      (lines whole.stdout)

/-- Lookups do not depend on each other, however the command line for all of them and the command
lines for each of them are spelled: what is printed for all is what is printed for each, in order,
and only a malformed endpoint makes the status differ from zero. -/
theorem independent_of_run (hsome : c.queries ≠ [])
    (hload : exec (resolverFor env storage c.request) s = (.ok r, s')) {args : List String}
    (hargs : c.Spelled args) {alone : Query → List String}
    (halone : ∀ q ∈ c.queries, (c.only q).Spelled (alone q)) :
    Independent r c ((run env storage args).run s).1
      fun q => ((run env storage (alone q)).run s).1 := by
  have hwhole := run_of_spelled hargs hload
  have hsingle : ∀ q ∈ c.queries,
      ((run env storage (alone q)).run s).1 = report r (c.only q).request := by
    intro q hq
    apply run_of_spelled (halone q hq)
    rwa [resolverFor, c.config_only]
  constructor
  · rw [hwhole, stdout_report r c hsome]
    exact congrArg _ (List.map_congr_left fun q hq => by rw [hsingle q hq])
  · rw [hwhole, stderr_report r c hsome]
    exact congrArg _ (List.map_congr_left fun q hq => by rw [hsingle q hq])
  · rw [hwhole, report_request r c hsome]
  · intro hjson
    rw [hwhole]
    exact lines_stdout (wf_of_resolverFor hload) hsome hjson

end Runs

/-- The pair is given behind an endpoint and looked up before it, and the last endpoint is
malformed, with a tabulator and a line end in it. -/
theorem independent_of_malformed_endpoint :
    let c : CommandLine :=
      ⟨none, true, true, some ("GLN", "5790000000001"), ["DK:CVR:1", "no\tcolon\n"]⟩
    let args := ["--json", "DK:CVR:1", "--scheme", "GLN", "--value=5790000000001", "--explain",
      "no\tcolon\n"]
    let storage := Storage.Memory.storage true
    let memory : Storage.Memory := ⟨[], []⟩
    let env : Environment := fun _ => none
    c.queries ≠ [] ∧ exec (resolverFor env storage c.request) memory = (.ok .builtin, memory) ∧
      c.Spelled args ∧ (∀ q ∈ c.queries, (c.only q).Spelled (c.only q).args) ∧
      Independent .builtin c ((run env storage args).run memory).1
        fun q => ((run env storage (c.only q).args).run memory).1 := by
  intro c args storage memory env
  have hsome : c.queries ≠ [] := List.cons_ne_nil _ _
  have hload : exec (resolverFor env storage c.request) memory = (.ok .builtin, memory) := rfl
  have hargs : c.Spelled args := rfl
  have halone : ∀ q ∈ c.queries, (c.only q).Spelled (c.only q).args :=
    fun q _ => (c.only q).spelled_args
  exact ⟨hsome, hload, hargs, halone, independent_of_run hsome hload hargs halone⟩

end Lookup

end EndpointCountry.Command
