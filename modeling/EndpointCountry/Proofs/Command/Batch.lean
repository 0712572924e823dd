import EndpointCountry.Command.Batch
import EndpointCountry.Proofs.Config.Faults
import EndpointCountry.Proofs.Storage.FileTree
import EndpointCountry.Proofs.Tagging.Writes

/-!
# The exit status of a batch

A request is carried out in five steps, and each of them may fail: the settings file is read, its
text is parsed, the settings are checked, the resolver is made of them, and the file is tagged. The
status is zero if none of them fails. Otherwise it is that of the fault's severity, but for the
first step: its faults are critical, and the status is that of settings that cannot be used.

* `Ready`, `Fails` — requests whose settings can be used, and how a request fails.
* `run_perform_of_error`, `run_perform_of_stop`, `run_perform_of_tag` — what a request does.
* `Course`, `course_of_perform`, `perform_of_course` — what a request has written as well.
* `exit_of_fails`, `exists_fails_of_exit` — the status of a request that fails.
* `Done`, `exit_eq_zero_iff` — requests that are carried out.
* `Exits`, `exit_of_run` — all of this about a command line.
* `not_forall_exit_eq` — a settings file that is not there.
-/

namespace EndpointCountry.Command.Batch

open Storage (exec)

variable {σ : Type} {env : Environment} {storage : Storage (StateM σ)} {now : String}
  {request : Request} {s s₁ s' : σ} {report : Report}

/-! ## Steps -/

/-- The settings that a request names are read and can be used, with the input of the request. -/
structure Ready (env : Environment) (storage : Storage (StateM σ)) (request : Request) (s : σ)
    (config : Config.Batch) (r : Resolver) (s' : σ) : Prop where
  read : ∃ settings, exec (readConfig env storage request.config) s = (.ok settings, s') ∧
    request.applyTo settings = config
  checked : config.check = .ok ()
  resolved : config.resolver.toResolver = .ok r

/-- The steps of a request. -/
inductive Step where
  /-- The settings file is read as a text. -/
  | reading
  /-- The text is read as settings. -/
  | parsing
  /-- The settings are checked. -/
  | checking
  /-- The resolver is made. -/
  | resolving
  /-- The input is read and tagged, and the result written. -/
  | tagging
  deriving DecidableEq

/-- A request fails at a step with a fault. -/
inductive Fails (env : Environment) (storage : Storage (StateM σ)) (now : String)
    (request : Request) (s : σ) : Step → Fault → Prop where
  | unread {fault : Fault} {s' : σ} :
    exec (storage.read request.config) s = (.error fault, s') →
    Fails env storage now request s .reading fault
  | noText {content : ByteArray} {s' : σ} :
    exec (storage.read request.config) s = (.ok content, s') →
    String.fromUTF8? content = none →
    Fails env storage now request s .reading (.storage .notText)
  | malformed {content : ByteArray} {text : String} {fault : Fault} {s' : σ} :
    exec (storage.read request.config) s = (.ok content, s') →
    String.fromUTF8? content = some text →
    Config.load Config.Batch.ofDatum? env text = .error fault →
    Fails env storage now request s .parsing fault
  | unsound {settings : Config.Batch} {fault : Fault} {s' : σ} :
    exec (readConfig env storage request.config) s = (.ok settings, s') →
    (request.applyTo settings).check = .error fault →
    Fails env storage now request s .checking fault
  | refused {settings : Config.Batch} {fault : Fault} {s' : σ} :
    exec (readConfig env storage request.config) s = (.ok settings, s') →
    (request.applyTo settings).check = .ok () →
    (request.applyTo settings).resolver.toResolver = .error fault →
    Fails env storage now request s .resolving fault
  | untagged {config : Config.Batch} {r : Resolver} {fault : Fault} {s₁ s' : σ} :
    Ready env storage request s config r s₁ →
    request.dryRun = false →
    exec (Tagging.run storage r.toMapper config now) s₁ = (.error fault, s') →
    Fails env storage now request s .tagging fault

/-- Between reading the settings and tagging, the settings are at fault. -/
theorem Fails.category {step : Step} {fault : Fault}
    (h : Fails env storage now request s step fault) (hread : step ≠ .reading)
    (htag : step ≠ .tagging) : fault.category = .configuration := by
  cases h with
  | unread => exact absurd rfl hread
  | noText => exact absurd rfl hread
  | malformed _ _ hload => exact Config.ofSettings_load _ _ _ _ hload
  | unsound _ hcheck => exact Config.Batch.ofSettings_check _ _ hcheck
  | refused _ hcheck hrefused =>
    exact Config.Batch.category_of_toResolver_eq_error hcheck hrefused
  | untagged => exact absurd rfl htag

/-! ## Plans -/

theorem plan_of_check_eq_error {settings : Config.Batch} {fault : Fault}
    (h : (request.applyTo settings).check = .error fault) :
    plan request settings = .stop ⟨settingsStatus, [], [complaint fault]⟩ := by
  simp only [plan, h]

theorem plan_of_toResolver_eq_error {settings : Config.Batch} {fault : Fault}
    (hcheck : (request.applyTo settings).check = .ok ())
    (h : (request.applyTo settings).resolver.toResolver = .error fault) :
    plan request settings =
      .stop (abandoned "failed to apply [resolver] mappings" fault) := by
  simp only [plan, hcheck, h]

theorem plan_of_toResolver_eq_ok {settings : Config.Batch} {r : Resolver}
    (hcheck : (request.applyTo settings).check = .ok ())
    (h : (request.applyTo settings).resolver.toResolver = .ok r) :
    plan request settings =
      if request.dryRun then .stop ⟨0, overview (request.applyTo settings) r, []⟩
      else .tag (overview (request.applyTo settings) r) (request.applyTo settings) r := by
  simp only [plan, hcheck, h]

/-! ## Runs -/

theorem exec_readConfig_of_error {path : String} {fault : Fault}
    (h : exec (storage.read path) s = (.error fault, s')) :
    exec (readConfig env storage path) s = (.error fault, s') :=
  Storage.exec_bind_of_error h _

theorem exec_readConfig_of_ok (env : Environment) {path : String} {content : ByteArray}
    (h : exec (storage.read path) s = (.ok content, s')) :
    exec (readConfig env storage path) s =
      (Config.loadBytes Config.Batch.ofDatum? env content, s') :=
  Storage.exec_bind_of_ok h _

theorem run_perform_of_error {fault : Fault}
    (h : exec (readConfig env storage request.config) s = (.error fault, s')) :
    (perform env storage now request).run s =
      (abandoned s!"failed to load config file '{request.config}'" fault, s') := by
  have hload : (readConfig env storage request.config).run.run s = (.error fault, s') := h
  rw [perform, StateT.run_bind, hload]
  rfl

theorem run_perform_of_stop {settings : Config.Batch}
    (h : exec (readConfig env storage request.config) s = (.ok settings, s'))
    (hplan : plan request settings = .stop report) :
    (perform env storage now request).run s = (report, s') := by
  have hload : (readConfig env storage request.config).run.run s = (.ok settings, s') := h
  rw [perform, StateT.run_bind, hload]
  simp only [bind]
  rw [hplan]
  rfl

theorem run_perform_of_tag {settings config : Config.Batch} {shown : List String} {r : Resolver}
    {result : Except Fault String}
    (h : exec (readConfig env storage request.config) s = (.ok settings, s₁))
    (hplan : plan request settings = .tag shown config r)
    (htag : exec (Tagging.run storage r.toMapper config now) s₁ = (result, s')) :
    (perform env storage now request).run s = (finish shown result, s') := by
  have hload : (readConfig env storage request.config).run.run s = (.ok settings, s₁) := h
  have hrun : (Tagging.run storage r.toMapper config now).run.run s₁ = (result, s') := htag
  rw [perform, StateT.run_bind, hload]
  simp only [bind]
  rw [hplan]
  show StateT.run ((Tagging.run storage r.toMapper config now).run >>= fun result =>
    pure (finish shown result)) s₁ = _
  rw [StateT.run_bind, hrun]
  rfl

/-- The courses that a request can take from a state: its report, the state it leaves, and what it
has written. -/
inductive Course (env : Environment) (storage : Storage (StateM σ)) (now : String)
    (request : Request) (s : σ) : Report → σ → List (String × ByteArray) → Prop where
  /-- The settings cannot be read. -/
  | unloaded {fault : Fault} {s' : σ} :
    exec (readConfig env storage request.config) s = (.error fault, s') →
    Course env storage now request s
      (abandoned s!"failed to load config file '{request.config}'" fault) s' []
  /-- The settings do not pass their check. -/
  | unsound {settings : Config.Batch} {fault : Fault} {s' : σ} :
    exec (readConfig env storage request.config) s = (.ok settings, s') →
    (request.applyTo settings).check = .error fault →
    Course env storage now request s ⟨settingsStatus, [], [complaint fault]⟩ s' []
  /-- The settings make no resolver. -/
  | refused {settings : Config.Batch} {fault : Fault} {s' : σ} :
    exec (readConfig env storage request.config) s = (.ok settings, s') →
    (request.applyTo settings).check = .ok () →
    (request.applyTo settings).resolver.toResolver = .error fault →
    Course env storage now request s (abandoned "failed to apply [resolver] mappings" fault) s' []
  /-- No more is asked for. -/
  | dry {config : Config.Batch} {r : Resolver} {s' : σ} :
    Ready env storage request s config r s' → request.dryRun = true →
    Course env storage now request s ⟨0, overview config r, []⟩ s' []
  /-- The file is tagged, or tagging it fails. -/
  | tagged {config : Config.Batch} {r : Resolver} {result : Except Fault String} {s₁ s' : σ}
    {written : List (String × ByteArray)} :
    Ready env storage request s config r s₁ → request.dryRun = false →
    exec (Tagging.run storage.recording r.toMapper config now) (s₁, []) = (result, s', written) →
    Course env storage now request s (finish (overview config r) result) s' written

variable {written : List (String × ByteArray)}

theorem exec_readConfig_recording {path : String} {p p' : σ × List (String × ByteArray)}
    {loaded : Except Fault Config.Batch}
    (h : exec (readConfig env storage.recording path) p = (loaded, p')) :
    exec (readConfig env storage path) p.1 = (loaded, p'.1) ∧ p'.2 = p.2 := by
  obtain ⟨fault, hread, rfl⟩ | ⟨content, mid, hread, hload⟩ := Storage.exec_bind_cases h
  · obtain ⟨hread, hwritten⟩ := Storage.exec_read_recording.1 hread
    exact ⟨exec_readConfig_of_error hread, hwritten⟩
  · obtain ⟨hread, hwritten⟩ := Storage.exec_read_recording.1 hread
    obtain ⟨rfl, rfl⟩ := Storage.exec_mk_pure_iff.1 hload
    exact ⟨exec_readConfig_of_ok env hread, hwritten⟩

theorem course_of_perform
    (h : (perform env storage.recording now request).run (s, []) = (report, s', written)) :
    Course env storage now request s report s' written := by
  cases hload : exec (readConfig env storage.recording request.config) (s, []) with
  | mk loaded p =>
    obtain ⟨s₁, before⟩ := p
    obtain ⟨hread, rfl⟩ := exec_readConfig_recording hload
    cases loaded with
    | error fault =>
      cases (run_perform_of_error hload).symm.trans h
      exact .unloaded hread
    | ok settings =>
      cases hcheck : (request.applyTo settings).check with
      | error fault =>
        cases (run_perform_of_stop hload (plan_of_check_eq_error hcheck)).symm.trans h
        exact .unsound hread hcheck
      | ok u =>
        cases hresolver : (request.applyTo settings).resolver.toResolver with
        | error fault =>
          have hplan := plan_of_toResolver_eq_error hcheck hresolver
          cases (run_perform_of_stop hload hplan).symm.trans h
          exact .refused hread hcheck hresolver
        | ok r =>
          have hready : Ready env storage request s (request.applyTo settings) r s₁ :=
            ⟨⟨settings, hread, rfl⟩, hcheck, hresolver⟩
          have hplan := plan_of_toResolver_eq_ok hcheck hresolver
          by_cases hdry : request.dryRun = true
          · rw [if_pos hdry] at hplan
            cases (run_perform_of_stop hload hplan).symm.trans h
            exact .dry hready hdry
          · rw [if_neg hdry] at hplan
            cases htag : exec (Tagging.run storage.recording r.toMapper (request.applyTo settings)
              now) (s₁, []) with
            | mk result p =>
              cases (run_perform_of_tag hload hplan htag).symm.trans h
              exact .tagged hready (Bool.eq_false_of_not_eq_true hdry) htag

/-- The plan for settings that can be used. -/
theorem Ready.exists_plan {config : Config.Batch} {r : Resolver}
    (h : Ready env storage request s config r s') :
    ∃ settings, exec (readConfig env storage request.config) s = (.ok settings, s') ∧
      plan request settings =
        if request.dryRun then .stop ⟨0, overview config r, []⟩
        else .tag (overview config r) config r := by
  obtain ⟨⟨settings, hread, rfl⟩, hcheck, hresolver⟩ := h
  exact ⟨settings, hread, plan_of_toResolver_eq_ok hcheck hresolver⟩

theorem Ready.run_perform_dry {config : Config.Batch} {r : Resolver}
    (h : Ready env storage request s config r s') (hdry : request.dryRun = true) :
    (perform env storage now request).run s = (⟨0, overview config r, []⟩, s') := by
  obtain ⟨settings, hread, hplan⟩ := h.exists_plan
  rw [if_pos hdry] at hplan
  exact run_perform_of_stop hread hplan

theorem Ready.run_perform_tag {config : Config.Batch} {r : Resolver}
    (h : Ready env storage request s config r s₁) (hdry : request.dryRun = false)
    {result : Except Fault String}
    (htag : exec (Tagging.run storage r.toMapper config now) s₁ = (result, s')) :
    (perform env storage now request).run s = (finish (overview config r) result, s') := by
  obtain ⟨settings, hread, hplan⟩ := h.exists_plan
  rw [hdry] at hplan
  exact run_perform_of_tag hread hplan htag

/-- A watched run tags as the run that is not watched. -/
theorem exec_run_of_recording {mapper : Mapper} {config : Config.Batch}
    {result : Except Fault String}
    (h : exec (Tagging.run storage.recording mapper config now) (s, []) = (result, s', written)) :
    exec (Tagging.run storage mapper config now) s = (result, s') :=
  Tagging.exec_run_iff.2 (Tagging.course_of_recording (Tagging.exec_run_iff.1 h))

/-- Watching a request does not change its course. -/
theorem perform_of_course (h : Course env storage now request s report s' written) :
    (perform env storage now request).run s = (report, s') := by
  cases h with
  | unloaded hread => exact run_perform_of_error hread
  | unsound hread hcheck => exact run_perform_of_stop hread (plan_of_check_eq_error hcheck)
  | refused hread hcheck hresolver =>
    exact run_perform_of_stop hread (plan_of_toResolver_eq_error hcheck hresolver)
  | dry hready hdry => exact hready.run_perform_dry hdry
  | tagged hready hdry htag => exact hready.run_perform_tag hdry (exec_run_of_recording htag)

/-! ## Failures -/

theorem exitStatus_of_configuration {fault : Fault} (h : fault.category = .configuration) :
    settingsStatus = fault.exitStatus :=
  (Fault.exitStatus_of_category h).symm

/-- The status of a request that fails. -/
theorem exit_of_fails {step : Step} {fault : Fault}
    (h : Fails env storage now request s step fault)
    (hrun : (perform env storage now request).run s = (report, s')) :
    report.exit = if step = .reading then settingsStatus else fault.exitStatus := by
  have hcategory := h.category
  cases h with
  | unread hread =>
    cases (run_perform_of_error (exec_readConfig_of_error hread)).symm.trans hrun
    rfl
  | noText hread htext =>
    have hload := exec_readConfig_of_ok env hread
    rw [Config.loadBytes_eq_error_iff.2 (.inl ⟨htext, rfl⟩)] at hload
    cases (run_perform_of_error hload).symm.trans hrun
    rfl
  | malformed hread htext hbad =>
    have hload := exec_readConfig_of_ok env hread
    rw [Config.loadBytes_eq_error_iff.2 (.inr ⟨_, htext, hbad⟩)] at hload
    cases (run_perform_of_error hload).symm.trans hrun
    exact exitStatus_of_configuration (hcategory nofun nofun)
  | unsound hread hcheck =>
    cases (run_perform_of_stop hread (plan_of_check_eq_error hcheck)).symm.trans hrun
    exact exitStatus_of_configuration (hcategory nofun nofun)
  | refused hread hcheck hresolver =>
    have hplan := plan_of_toResolver_eq_error hcheck hresolver
    cases (run_perform_of_stop hread hplan).symm.trans hrun
    exact exitStatus_of_configuration (hcategory nofun nofun)
  | untagged hready hdry htag =>
    cases (hready.run_perform_tag hdry htag).symm.trans hrun
    rfl

/-- Settings that cannot be read fail at the first step or at the second. -/
theorem exists_fails_of_readConfig {fault : Fault}
    (h : exec (readConfig env storage request.config) s = (.error fault, s')) :
    ∃ step, Fails env storage now request s step fault := by
  obtain ⟨_, hread, hfault⟩ | ⟨content, mid, hread, hload⟩ := Storage.exec_bind_cases h
  · cases hfault
    exact ⟨_, .unread hread⟩
  · obtain ⟨hbytes, rfl⟩ := Storage.exec_mk_pure_iff.1 hload
    rcases Config.loadBytes_eq_error_iff.1 hbytes with ⟨htext, rfl⟩ | ⟨text, htext, hbad⟩
    · exact ⟨_, .noText hread htext⟩
    · exact ⟨_, .malformed hread htext hbad⟩

theorem exists_fails_of_exit (h : Course env storage now request s report s' written)
    (hexit : report.exit ≠ 0) : ∃ step fault, Fails env storage now request s step fault := by
  cases h with
  | unloaded hread =>
    obtain ⟨step, hfails⟩ := exists_fails_of_readConfig hread
    exact ⟨step, _, hfails⟩
  | unsound hread hcheck => exact ⟨_, _, .unsound hread hcheck⟩
  | refused hread hcheck hresolver => exact ⟨_, _, .refused hread hcheck hresolver⟩
  | dry => exact absurd rfl hexit
  | @tagged _ _ result _ _ _ hready hdry htag =>
    cases result with
    | error fault => exact ⟨_, _, .untagged hready hdry (exec_run_of_recording htag)⟩
    | ok path => exact absurd rfl hexit

/-- The faults of reading files are critical, and what is no text is one of them. -/
theorem exitStatus_of_reading (hfiles : storage.ReadsFiles) {fault : Fault}
    (h : Fails env storage now request s .reading fault) :
    fault.exitStatus = Severity.critical.exitStatus := by
  cases h with
  | unread hread =>
    obtain ⟨refusal, rfl⟩ := hfiles.fault _ _ _ _ hread
    rfl
  | noText => rfl

/-! ## Success -/

/-- The line that tells where the tagged file is. -/
def savedLine (path : String) : String :=
  s!"📁 Output saved to: {path}"

/-- What is shown first ends in an empty line. -/
theorem getLast?_overview (config : Config.Batch) (r : Resolver) :
    (overview config r).getLast? = some "" := by
  rw [overview, List.getLast?_append]
  rfl

theorem savedLine_ne_empty (path : String) : savedLine path ≠ "" := by
  intro h
  exact absurd (String.append_eq_empty_iff.1 h).1 (by decide)

/-- A request is carried out: it was a dry run with settings that can be used, or the tagged file is
written and its path is what is printed last. -/
inductive Done (env : Environment) (storage : Storage (StateM σ)) (request : Request) (s : σ)
    (report : Report) (written : List (String × ByteArray)) : Prop where
  | shown {config : Config.Batch} {r : Resolver} {s' : σ} :
    Ready env storage request s config r s' → request.dryRun = true →
    Done env storage request s report written
  | saved {config : Config.Batch} {r : Resolver} {content : ByteArray} {s₁ : σ} :
    Ready env storage request s config r s₁ →
    (Tagging.outputFile config.output, content) ∈ written →
    report.out.getLast? = some (savedLine (Tagging.outputFile config.output)) →
    Done env storage request s report written

theorem exit_eq_zero_iff (h : Course env storage now request s report s' written) :
    report.exit = 0 ↔ Done env storage request s report written := by
  constructor
  · intro hexit
    cases h with
    | unloaded => cases hexit
    | unsound => cases hexit
    | refused => cases hexit
    | dry hready hdry => exact .shown hready hdry
    | @tagged _ _ result _ _ _ hready _ htag =>
      cases Tagging.ending_of_course (Tagging.exec_run_iff.1 htag) with
      | nothing => exact absurd hexit (Fault.exitStatus_ne_zero _)
      | unsummarized => exact absurd hexit (Fault.exitStatus_ne_zero _)
      | complete => exact .saved hready List.mem_cons_self (List.getLast?_concat ..)
  · intro hdone
    cases hdone with
    | shown hready hdry =>
      cases (perform_of_course h).symm.trans (hready.run_perform_dry hdry)
      rfl
    | saved hready hmem hline =>
      cases h with
      | unloaded => cases hmem
      | unsound => cases hmem
      | refused => cases hmem
      | dry => cases hmem
      | @tagged _ _ result _ _ _ _ _ htag =>
        cases result with
        | ok path => rfl
        | error fault =>
          -- what was shown before tagging ends in an empty line
          have hempty := (getLast?_overview _ _).symm.trans hline
          exact absurd (Option.some.inj hempty).symm (savedLine_ne_empty _)

theorem dry_of_course (h : Course env storage now request s report s' written)
    (hdry : request.dryRun = true) :
    written = [] ∧ ∃ loaded, exec (readConfig env storage request.config) s = (loaded, s') := by
  cases h with
  | unloaded hread => exact ⟨rfl, _, hread⟩
  | unsound hread => exact ⟨rfl, _, hread⟩
  | refused hread => exact ⟨rfl, _, hread⟩
  | dry hready =>
    obtain ⟨settings, hread, -⟩ := hready.read
    exact ⟨rfl, _, hread⟩
  | tagged _ hwet => exact absurd (hdry.symm.trans hwet) (by decide)

/-- Reading settings changes no file. -/
theorem state_of_readConfig (hfiles : storage.ReadsFiles) {path : String}
    {loaded : Except Fault Config.Batch}
    (h : exec (readConfig env storage path) s = (loaded, s')) : s' = s := by
  obtain ⟨fault, hread, -⟩ | ⟨content, mid, hread, hload⟩ := Storage.exec_bind_cases h
  · exact hfiles.state _ _ _ _ hread
  · obtain ⟨-, rfl⟩ := Storage.exec_mk_pure_iff.1 hload
    exact hfiles.state _ _ _ _ hread

/-! ## Command lines -/

/-- What the status of a request stands for. -/
structure Exits (env : Environment) (storage : Storage (StateM σ)) (now : String)
    (request : Request) (s : σ) (report : Report) (s' : σ)
    (written : List (String × ByteArray)) : Prop where
  /-- The status is not zero exactly if some step fails. -/
  failed : report.exit ≠ 0 ↔ ∃ step fault, Fails env storage now request s step fault
  /-- Wherever the request fails once the settings file is read, the severity of the fault decides on
  the status. -/
  severity : ∀ step fault, Fails env storage now request s step fault → step ≠ .reading →
    report.exit = fault.severity.exitStatus
  /-- Where the settings file cannot be read, the severity is not looked at. -/
  reading : ∀ fault, Fails env storage now request s .reading fault →
    report.exit = 1 ∧ (storage.ReadsFiles → fault.severity.exitStatus = 3)
  /-- The status is zero exactly if the request is carried out. -/
  done : report.exit = 0 ↔ Done env storage request s report written
  /-- A dry run writes nothing and leaves the files as they are. -/
  dry : request.dryRun = true → written = [] ∧ (storage.ReadsFiles → s' = s)

/-- The status of a command line is that of the fault it fails with, unless its settings file cannot
be read; it is zero exactly if nothing fails, and then the tagged file is written and its path
printed, or no more was asked for than a look at the settings. -/
theorem exit_of_run {args : List String} {a : Arguments} (hargs : Arguments.read usage args = .ok a)
    (h : (run env storage.recording now args).run (s, []) = (report, s', written)) :
    (run env storage now args).run s = (report, s') ∧
      Exits env storage now (Request.ofArguments a) s report s' written := by
  have hrun (m : Type → Type) [Monad m] (storage : Storage m) :
      run env storage now args = perform env storage now (Request.ofArguments a) := by
    rw [run, hargs]
  rw [hrun] at h
  have hcourse := course_of_perform h
  have hperform := perform_of_course hcourse
  refine ⟨by rw [hrun, hperform], ?_, ?_, ?_, exit_eq_zero_iff hcourse, ?_⟩
  · refine ⟨exists_fails_of_exit hcourse, ?_⟩
    rintro ⟨step, fault, hfails⟩
    rw [exit_of_fails hfails hperform]
    split
    · decide
    · exact fault.exitStatus_ne_zero
  · intro step fault hfails hstep
    rw [exit_of_fails hfails hperform, if_neg hstep]
    rfl
  · intro fault hfails
    refine ⟨?_, fun hfiles => exitStatus_of_reading hfiles hfails⟩
    rw [exit_of_fails hfails hperform, if_pos rfl]
    rfl
  · intro hdry
    obtain ⟨hwritten, loaded, hread⟩ := dry_of_course hcourse hdry
    exact ⟨hwritten, fun hfiles => state_of_readConfig hfiles hread⟩

open Storage (FileTree Entry)

/-- A settings file and the file that it names. -/
def smallTree : FileTree :=
  ⟨[], .directory
    [("batch.toml".toList, .file ("[batch]\nname = \"b\"\n[input]\npath = \"in.csv\"\n" ++
      "endpoint_column = \"receiver\"\n[output]\npath = \"out\"\n").toUTF8),
      ("in.csv".toList, .file "receiver\nGLN:5790000000001\n".toUTF8)]⟩

/-- A run that goes through, a dry run that leaves the tree as it is, and a settings file that is not
there. -/
theorem exit_of_small_tree :
    (∃ report t written,
      Exits (fun _ => none) (FileTree.storage "") "" ⟨"batch.toml", none, false⟩ smallTree report t
        written ∧
      report.exit = 0) ∧
    (∃ report, (run (fun _ => none) (FileTree.storage "") "" ["-c", "batch.toml", "--dry-run"]).run
      smallTree = (report, smallTree)) ∧
    ∃ report t fault,
      (run (fun _ => none) (FileTree.storage "") "" ["-c", "none.toml"]).run smallTree =
        (report, t) ∧
      Fails (fun _ => none) (FileTree.storage "") "" ⟨"none.toml", none, false⟩ smallTree .reading
        fault ∧
      report.exit = 1 ∧ fault.severity.exitStatus = 3 := by
  have hfiles : (FileTree.storage "").ReadsFiles := FileTree.readsFiles ""
  have hrecorded (args : List String) : ∃ report t written,
      (run (fun _ => none) (FileTree.storage "").recording "" args).run (smallTree, []) =
        (report, t, written) := ⟨_, _, _, rfl⟩
  refine ⟨?_, ?_, ?_⟩
  · have hargs : Arguments.read usage ["--config", "batch.toml"] =
        .ok ⟨[("config", "batch.toml")], []⟩ := rfl
    have hexit : ((run (fun _ => none) (FileTree.storage "").recording ""
        ["--config", "batch.toml"]).run (smallTree, [])).1.exit = 0 := by
      decide +kernel
    obtain ⟨report, t, written, hrun⟩ := hrecorded ["--config", "batch.toml"]
    rw [hrun] at hexit
    exact ⟨report, t, written, (exit_of_run hargs hrun).2, hexit⟩
  · have hargs : Arguments.read usage ["-c", "batch.toml", "--dry-run"] =
        .ok ⟨[("config", "batch.toml"), ("dry-run", "")], []⟩ := rfl
    obtain ⟨report, t, written, hrun⟩ := hrecorded ["-c", "batch.toml", "--dry-run"]
    obtain ⟨halone, hexits⟩ := exit_of_run hargs hrun
    obtain rfl : t = smallTree := (hexits.dry rfl).2 hfiles
    exact ⟨report, halone⟩
  · have hargs : Arguments.read usage ["-c", "none.toml"] = .ok ⟨[("config", "none.toml")], []⟩ := rfl
    have hread : exec ((FileTree.storage "").read "none.toml") smallTree =
        (.error (.storage .noEntry), smallTree) := rfl
    obtain ⟨report, t, written, hrun⟩ := hrecorded ["-c", "none.toml"]
    obtain ⟨halone, hexits⟩ := exit_of_run hargs hrun
    obtain ⟨hexit, hcritical⟩ := hexits.reading _ (.unread hread)
    exact ⟨report, t, _, halone, .unread hread, hexit, hcritical hfiles⟩

/-- The status of a request whose settings file is not there is not that of its fault. -/
theorem not_forall_exit_eq :
    ¬ ∀ (env : Environment) (base now : String) (args : List String) (a : Arguments) (t t' : FileTree)
      (report : Report) (step : Step) (fault : Fault),
      Arguments.read usage args = .ok a →
      (run env (FileTree.storage base) now args).run t = (report, t') →
      Fails env (FileTree.storage base) now (Request.ofArguments a) t step fault →
      report.exit = fault.severity.exitStatus := by
  intro h
  have hread : exec ((FileTree.storage "").read "none.toml") (FileTree.empty []) =
      (.error (.storage .noEntry), FileTree.empty []) := rfl
  have hexit := h (fun _ => none) "" "" ["-c", "none.toml"] ⟨[("config", "none.toml")], []⟩
    (FileTree.empty []) _ _ .reading (.storage .noEntry) rfl rfl (.unread hread)
  exact absurd hexit (by decide)

end EndpointCountry.Command.Batch
