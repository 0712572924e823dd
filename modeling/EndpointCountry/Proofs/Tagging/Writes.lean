import EndpointCountry.Proofs.Tagging.Failures

/-!
# What a run writes

A table is tagged and laid out in full before the first write. So a run that fails has written
nothing, or has written the whole tagged file and was refused the summary; half a table is never
left behind. The runs here are watched, and the storage may refuse whatever it likes.

* `course_of_recording` — watching a storage does not change the course of a run.
* `Ending`, `ending_of_course` — what a run has written when it ends.
* `after_of_course` — where only writes that took effect change anything, what was written accounts
  for the state.
* `Unfit`, `Unfit.exists_prepare_eq_error` — input that no run gets through.
* `Unfit.of_malformed` — a malformed endpoint, where the mapper has no ways of its own.
* `written_of_exec_run` — all of this about a run.
-/

namespace EndpointCountry.Tagging

open Storage (exec exec_read_recording exec_write_recording)

variable {σ : Type}

/-- What a run writes that goes through: the tagged file, and the summary if it is wanted. -/
def filesOf (output : Config.Output) (result : Result) (content : ByteArray) :
    List (String × ByteArray) :=
  (outputFile output, content) ::
    if output.wantsSummary then [(summaryFile output, summaryBytes result.summary)] else []

/-- The ends of a run from a state: what it gives, the state it leaves, and what it has written. -/
inductive Ending (storage : Storage (StateM σ)) (mapper : Mapper) (config : Config.Batch)
    (generatedAt : String) (s : σ) :
    Except Fault String → σ → List (String × ByteArray) → Prop where
  /-- It fails, and nothing is written: the input cannot be read or cannot be tagged, or the tagged
  file is refused. -/
  | nothing {fault : Fault} {s' : σ} :
    (∀ input s₁ prepared s₂, exec (storage.read config.input.path) s = (.ok input, s₁) →
      prepare mapper config generatedAt input = .ok prepared →
      exec (storage.write (outputFile config.output) prepared.2) s₁ ≠ (.ok (), s₂)) →
    Ending storage mapper config generatedAt s (.error fault) s' []
  /-- It fails at the summary, and the tagged file is written in full. -/
  | unsummarized {input content : ByteArray} {result : Result} {fault : Fault} {s₁ s₂ s' : σ} :
    exec (storage.read config.input.path) s = (.ok input, s₁) →
    prepare mapper config generatedAt input = .ok (result, content) →
    exec (storage.write (outputFile config.output) content) s₁ = (.ok (), s₂) →
    config.output.wantsSummary = true →
    exec (storage.write (summaryFile config.output) (summaryBytes result.summary)) s₂ =
      (.error fault, s') →
    Ending storage mapper config generatedAt s (.error fault) s'
      [(outputFile config.output, content)]
  /-- It goes through, and its files are written. -/
  | complete {input content : ByteArray} {result : Result} {s₁ s' : σ} :
    exec (storage.read config.input.path) s = (.ok input, s₁) →
    prepare mapper config generatedAt input = .ok (result, content) →
    Ending storage mapper config generatedAt s (.ok (outputFile config.output)) s'
      (filesOf config.output result content)

section Watched

variable {storage : Storage (StateM σ)} {mapper : Mapper} {config : Config.Batch}
  {generatedAt : String} {r : Except Fault String}

/-- A run takes the same course whether it is watched or not. -/
theorem course_of_recording {p p' : σ × List (String × ByteArray)}
    (h : Course storage.recording mapper config generatedAt p r p') :
    Course storage mapper config generatedAt p.1 r p'.1 := by
  cases h with
  | unread hread => exact .unread (exec_read_recording.1 hread).1
  | unprepared hread hprepare => exact .unprepared (exec_read_recording.1 hread).1 hprepare
  | unwritten hread hprepare hwrite =>
    exact .unwritten (exec_read_recording.1 hread).1 hprepare (exec_write_recording.1 hwrite).1
  | bare hread hprepare hwrite hwants =>
    exact .bare (exec_read_recording.1 hread).1 hprepare (exec_write_recording.1 hwrite).1 hwants
  | unsummarized hread hprepare hwrite hwants hsummary =>
    exact .unsummarized (exec_read_recording.1 hread).1 hprepare (exec_write_recording.1 hwrite).1
      hwants (exec_write_recording.1 hsummary).1
  | summarized hread hprepare hwrite hwants hsummary =>
    exact .summarized (exec_read_recording.1 hread).1 hprepare (exec_write_recording.1 hwrite).1
      hwants (exec_write_recording.1 hsummary).1

/-- What a watched run of a steady storage has written accounts for the state it leaves. -/
theorem after_of_course (hsteady : storage.Steady) {s : σ}
    {p p' : σ × List (String × ByteArray)}
    (h : Course storage.recording mapper config generatedAt p r p')
    (hp : p.1 = storage.after s p.2) : p'.1 = storage.after s p'.2 := by
  cases h with
  | unread hread => exact hsteady.after_read hread hp
  | unprepared hread => exact hsteady.after_read hread hp
  | unwritten hread _ hwrite => exact hsteady.after_write hwrite (hsteady.after_read hread hp)
  | bare hread _ hwrite => exact hsteady.after_write hwrite (hsteady.after_read hread hp)
  | unsummarized hread _ hwrite _ hsummary =>
    exact hsteady.after_write hsummary (hsteady.after_write hwrite (hsteady.after_read hread hp))
  | summarized hread _ hwrite _ hsummary =>
    exact hsteady.after_write hsummary (hsteady.after_write hwrite (hsteady.after_read hread hp))

variable {s s' : σ} {written : List (String × ByteArray)}

/-- A run writes nothing, the tagged file alone, or the tagged file and the summary. -/
theorem ending_of_course
    (h : Course storage.recording mapper config generatedAt (s, []) r (s', written)) :
    Ending storage mapper config generatedAt s r s' written := by
  cases h with
  | unread hread =>
    obtain ⟨hread, rfl⟩ := exec_read_recording.1 hread
    refine .nothing fun _ _ _ _ hread' => ?_
    cases hread.symm.trans hread'
  | unprepared hread hprepare =>
    obtain ⟨hread, rfl⟩ := exec_read_recording.1 hread
    refine .nothing fun _ _ _ _ hread' hprepare' => ?_
    cases hread.symm.trans hread'
    cases hprepare.symm.trans hprepare'
  | unwritten hread hprepare hwrite =>
    obtain ⟨hread, hnone⟩ := exec_read_recording.1 hread
    -- a write that fails adds nothing to the record
    obtain ⟨hwrite, hkept⟩ := exec_write_recording.1 hwrite
    obtain rfl : written = [] := hkept.trans hnone
    refine .nothing fun _ _ _ _ hread' hprepare' hwrite' => ?_
    cases hread.symm.trans hread'
    cases hprepare.symm.trans hprepare'
    cases hwrite.symm.trans hwrite'
  | @bare _ content result _ _ hread hprepare hwrite hwants =>
    obtain ⟨hread, hnone⟩ := exec_read_recording.1 hread
    obtain ⟨-, hadded⟩ := exec_write_recording.1 hwrite
    rw [hnone] at hadded
    have hfiles : filesOf config.output result content = written := by
      rw [filesOf, hwants]
      exact hadded.symm
    exact hfiles ▸ .complete hread hprepare
  | unsummarized hread hprepare hwrite hwants hsummary =>
    obtain ⟨hread, hnone⟩ := exec_read_recording.1 hread
    obtain ⟨hwrite, hadded⟩ := exec_write_recording.1 hwrite
    obtain ⟨hsummary, hkept⟩ := exec_write_recording.1 hsummary
    rw [hnone] at hadded
    obtain rfl : written = _ := hkept.trans hadded
    exact .unsummarized hread hprepare hwrite hwants hsummary
  | @summarized _ content result _ _ _ hread hprepare hwrite hwants hsummary =>
    obtain ⟨hread, hnone⟩ := exec_read_recording.1 hread
    obtain ⟨-, hadded⟩ := exec_write_recording.1 hwrite
    obtain ⟨-, hadded'⟩ := exec_write_recording.1 hsummary
    rw [hadded, hnone] at hadded'
    have hfiles : filesOf config.output result content = written := by
      rw [filesOf, hwants]
      exact hadded'.symm
    exact hfiles ▸ .complete hread hprepare

/-! ## Input that no run gets through -/

/-- Input that cannot be tagged, whatever the storage. -/
inductive Unfit (mapper : Mapper) (config : Config.Batch) (input : ByteArray) : Prop where
  /-- Some record, wherever it stands, is not as long as the header or is no text. -/
  | unreadable {delimiter : UInt8} {header raw : Delimited.RawRecord}
    {rest : List Delimited.RawRecord} :
    config.input.delimiterByte = .ok delimiter →
    Delimited.rawRecords delimiter input.data.toList = header :: rest →
    raw ∈ header :: rest → ¬raw.Readable header.fields.length → Unfit mapper config input
  /-- The header has no column of a name that the settings give. -/
  | absent {table : Delimited.Table} {columns : Config.EndpointColumns} {name : String} :
    tableOfBytes config.input input = .ok table →
    config.input.endpointColumns = .ok columns →
    name ∈ columns.names → name ∉ table.headers → Unfit mapper config input
  /-- The policy is to give up, and the endpoint of some row, wherever it stands, is rejected. -/
  | rejected {table : Delimited.Table} {column : String} {row : List String} {fault : Fault} :
    tableOfBytes config.input input = .ok table → config.policy = .fail →
    config.input.endpointColumns = .ok (.joined column) → row ∈ table.rows →
    mapper.resolveEndpoint (cellAt row (table.headers.idxOf column)) = .error fault →
    Unfit mapper config input

/-- A mapper without ways of its own rejects what is malformed. -/
theorem Unfit.of_malformed {resolve : String → String → Country} {input : ByteArray}
    {table : Delimited.Table} {column : String} {row : List String} {flaw : Endpoint.Flaw}
    (htable : tableOfBytes config.input input = .ok table) (hpolicy : config.policy = .fail)
    (hjoined : config.input.endpointColumns = .ok (.joined column)) (hrow : row ∈ table.rows)
    (hflaw : Endpoint.parse (cellAt row (table.headers.idxOf column)) = .error flaw) :
    Unfit (.ofResolve resolve) config input := by
  have hfault : (Mapper.ofResolve resolve).resolveEndpoint
      (cellAt row (table.headers.idxOf column)) = .error flaw.toFault :=
    Mapper.resolveEndpoint_ofResolve_eq_error_iff.2 ⟨flaw, hflaw, rfl⟩
  exact .rejected htable hpolicy hjoined hrow hfault

theorem Unfit.exists_prepare_eq_error {input : ByteArray} (h : Unfit mapper config input) :
    ∃ fault, prepare mapper config generatedAt input = .error fault := by
  cases hprepare : prepare mapper config generatedAt input with
  | error fault => exact ⟨fault, rfl⟩
  | ok prepared =>
    exfalso
    obtain ⟨table, htable, htransform, -⟩ := prepare_eq_ok_iff.1 hprepare
    obtain ⟨l, hl, hfail, -⟩ := transform_eq_ok_iff.1 htransform
    obtain ⟨columns, hcolumns, hnames, rfl⟩ := locate_eq_ok_iff.1 hl
    cases h with
    | unreadable hdelimiter hraws hraw hunreadable =>
      obtain ⟨_, hdelimiter', hread⟩ := exists_read_eq_ok htable
      cases hdelimiter.symm.trans hdelimiter'
      exact hunreadable ((Delimited.exists_read_eq_ok_iff hraws).1 ⟨table, hread⟩ _ hraw)
    | absent htable' hcolumns' hname habsent =>
      cases htable.symm.trans htable'
      cases hcolumns.symm.trans hcolumns'
      exact habsent (hnames _ hname)
    | rejected htable' hpolicy hjoined hrow hfault =>
      cases htable.symm.trans htable'
      cases hcolumns.symm.trans hjoined
      obtain ⟨i, hi⟩ := exists_mem_rejections hrow hfault
      exact List.not_mem_nil (hfail hpolicy ▸ hi)

/-- A run that is given unfit input fails and has written nothing. -/
theorem nothing_of_unfit
    (h : Course storage.recording mapper config generatedAt (s, []) r (s', written))
    {input : ByteArray} {s₁ : σ} (hread : exec (storage.read config.input.path) s = (.ok input, s₁))
    (hunfit : Unfit mapper config input) : written = [] ∧ ∃ fault, r = .error fault := by
  obtain ⟨fault, hfault⟩ : ∃ fault, prepare mapper config generatedAt input = .error fault :=
    hunfit.exists_prepare_eq_error
  cases ending_of_course h with
  | nothing => exact ⟨rfl, _, rfl⟩
  | unsummarized hread' hprepare =>
    cases hread.symm.trans hread'
    cases hfault.symm.trans hprepare
  | complete hread' hprepare =>
    cases hread.symm.trans hread'
    cases hfault.symm.trans hprepare

/-- A run that fails has written nothing, or the tagged file in full and not the summary; a run that
goes through has written its files and nothing else. Given unfit input it fails and has written
nothing. Where only writes that take effect change anything, nothing else has changed. -/
theorem written_of_exec_run
    (h : exec (run storage.recording mapper config generatedAt) (s, []) = (r, s', written)) :
    exec (run storage mapper config generatedAt) s = (r, s') ∧
    Ending storage mapper config generatedAt s r s' written ∧
    (∀ input s₁, exec (storage.read config.input.path) s = (.ok input, s₁) →
      Unfit mapper config input → written = [] ∧ ∃ fault, r = .error fault) ∧
    (storage.Steady → s' = storage.after s written) := by
  have hcourse := exec_run_iff.1 h
  refine ⟨exec_run_iff.2 (course_of_recording hcourse), ending_of_course hcourse, ?_, ?_⟩
  · intro input s₁ hread hunfit
    exact nothing_of_unfit hcourse hread hunfit
  · intro hsteady
    exact after_of_course hsteady hcourse rfl

end Watched

/-- A storage where every path reads as one content, and where as many writes go through as the
state tells. -/
def rationed (content : ByteArray) : Storage (StateM Nat) where
  read _ := ExceptT.mk fun left => (.ok content, left)
  write path _ := ExceptT.mk fun left =>
    if left = 0 then (.error (Storage.Memory.refused path), 0) else (.ok (), left - 1)

/-- A batch that gives up at the first endpoint that is rejected. -/
def strictBatch : Config.Batch :=
  ⟨⟨"night", none⟩, ⟨"in.csv", none, some "receiver", none, none⟩, ⟨"out", none, none, none⟩, {}, .fail⟩

/-- Where one write goes through, it is that of the tagged file. In memory, a malformed endpoint
behind a good one leaves everything as it was. -/
theorem ending_of_one_write :
    let mapper : Mapper := .ofResolve fun _ _ => .of 'D' 'K'
    let memory : Storage.Memory := ⟨[("in.csv", "receiver\nGLN:5\nGLN\n".toUTF8)], []⟩
    Ending (rationed "receiver\nGLN:5\n".toUTF8) mapper strictBatch "" 1
      (.error (Storage.Memory.refused "out/tagged.summary.json")) 0
      [("out/tagged.csv", "receiver,country_code\nGLN:5,DK\n".toUTF8)] ∧
    ∃ fault, exec (run (Storage.Memory.storage false) mapper strictBatch "") memory =
      (.error fault, memory) := by
  intro mapper memory
  constructor
  · have hrun : exec (run (rationed "receiver\nGLN:5\n".toUTF8).recording mapper strictBatch "")
        (1, []) =
        (.error (Storage.Memory.refused "out/tagged.summary.json"), 0,
          [("out/tagged.csv", "receiver,country_code\nGLN:5,DK\n".toUTF8)]) := rfl
    exact (written_of_exec_run hrun).2.1
  · obtain ⟨r, ⟨memory', written⟩, hrun⟩ : ∃ r p,
        exec (run (Storage.Memory.storage false).recording mapper strictBatch "") (memory, []) =
          (r, p) := ⟨_, _, rfl⟩
    have hread : exec ((Storage.Memory.storage false).read strictBatch.input.path) memory =
        (.ok "receiver\nGLN:5\nGLN\n".toUTF8, memory) := rfl
    have htable : tableOfBytes strictBatch.input "receiver\nGLN:5\nGLN\n".toUTF8 =
        .ok ⟨["receiver"], [["GLN:5"], ["GLN"]]⟩ := rfl
    have hunfit : Unfit mapper strictBatch "receiver\nGLN:5\nGLN\n".toUTF8 :=
      .of_malformed htable rfl rfl (List.mem_cons_of_mem _ List.mem_cons_self) rfl
    obtain ⟨halone, -, hnothing, hsteady⟩ := written_of_exec_run hrun
    obtain ⟨rfl, fault, rfl⟩ := hnothing _ _ hread hunfit
    obtain rfl : memory' = memory := hsteady (Storage.Memory.steady false)
    exact ⟨fault, halone⟩

end EndpointCountry.Tagging
