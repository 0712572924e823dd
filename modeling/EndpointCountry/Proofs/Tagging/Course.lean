import EndpointCountry.Proofs.Delimited.Reading
import EndpointCountry.Proofs.Tagging.ReadBack

/-!
# The course of a run

A run touches the storage three times at most: it reads the input, writes the tagged file, and
writes the summary. All the work is done between the first and the second, on what was read, and it
either comes to its end or stops with a fault before anything is written.

* `prepare` — the work between reading and writing.
* `Course`, `exec_run_iff` — the courses that a run can take, one for each step it can stop at and
  two for a run that goes through.
-/

namespace EndpointCountry.Tagging

open Storage (exec)

/-- The work between reading and writing: the tagged table and the account of it, and the content of
the tagged file. -/
def prepare (mapper : Mapper) (config : Config.Batch) (generatedAt : String) (input : ByteArray) :
    Except Fault (Result × ByteArray) := do
  let table ← tableOfBytes config.input input
  let result ← transform mapper config generatedAt table
  let content ← bytesOfTable config.input result.table
  pure (result, content)

theorem prepare_eq_ok_iff {mapper : Mapper} {config : Config.Batch} {generatedAt : String}
    {input content : ByteArray} {result : Result} :
    prepare mapper config generatedAt input = .ok (result, content) ↔
      ∃ table, tableOfBytes config.input input = .ok table ∧
        transform mapper config generatedAt table = .ok result ∧
        bytesOfTable config.input result.table = .ok content := by
  simp only [prepare, bind_eq_ok_iff]
  constructor
  · rintro ⟨table, htable, _, hresult, _, hcontent, hpure⟩
    cases hpure
    exact ⟨table, htable, hresult, hcontent⟩
  · rintro ⟨table, htable, hresult, hcontent⟩
    exact ⟨table, htable, result, hresult, content, hcontent, rfl⟩

theorem prepare_eq_error_iff {mapper : Mapper} {config : Config.Batch} {generatedAt : String}
    {input : ByteArray} {fault : Fault} :
    prepare mapper config generatedAt input = .error fault ↔
      tableOfBytes config.input input = .error fault ∨
        ∃ table, tableOfBytes config.input input = .ok table ∧
          (transform mapper config generatedAt table = .error fault ∨
            ∃ result, transform mapper config generatedAt table = .ok result ∧
              bytesOfTable config.input result.table = .error fault) := by
  simp only [prepare, bind_eq_error_iff, pure, Except.pure, reduceCtorEq, and_false, exists_false,
    or_false]

variable {σ : Type}

/-- The courses that a run can take from a state, with what it gives and the state it leaves. -/
inductive Course (storage : Storage (StateM σ)) (mapper : Mapper) (config : Config.Batch)
    (generatedAt : String) (s : σ) : Except Fault String → σ → Prop where
  /-- The input cannot be read. -/
  | unread {fault : Fault} {s₁ : σ} :
    exec (storage.read config.input.path) s = (.error fault, s₁) →
    Course storage mapper config generatedAt s (.error fault) s₁
  /-- The input is no table that can be tagged. -/
  | unprepared {input : ByteArray} {fault : Fault} {s₁ : σ} :
    exec (storage.read config.input.path) s = (.ok input, s₁) →
    prepare mapper config generatedAt input = .error fault →
    Course storage mapper config generatedAt s (.error fault) s₁
  /-- The tagged file cannot be written. -/
  | unwritten {input content : ByteArray} {result : Result} {fault : Fault} {s₁ s₂ : σ} :
    exec (storage.read config.input.path) s = (.ok input, s₁) →
    prepare mapper config generatedAt input = .ok (result, content) →
    exec (storage.write (outputFile config.output) content) s₁ = (.error fault, s₂) →
    Course storage mapper config generatedAt s (.error fault) s₂
  /-- The tagged file is written, and no summary is wanted. -/
  | bare {input content : ByteArray} {result : Result} {s₁ s₂ : σ} :
    exec (storage.read config.input.path) s = (.ok input, s₁) →
    prepare mapper config generatedAt input = .ok (result, content) →
    exec (storage.write (outputFile config.output) content) s₁ = (.ok (), s₂) →
    config.output.wantsSummary = false →
    Course storage mapper config generatedAt s (.ok (outputFile config.output)) s₂
  /-- The tagged file is written, but the summary cannot be. -/
  | unsummarized {input content : ByteArray} {result : Result} {fault : Fault} {s₁ s₂ s₃ : σ} :
    exec (storage.read config.input.path) s = (.ok input, s₁) →
    prepare mapper config generatedAt input = .ok (result, content) →
    exec (storage.write (outputFile config.output) content) s₁ = (.ok (), s₂) →
    config.output.wantsSummary = true →
    exec (storage.write (summaryFile config.output) (summaryBytes result.summary)) s₂ =
      (.error fault, s₃) →
    Course storage mapper config generatedAt s (.error fault) s₃
  /-- The tagged file and the summary are written. -/
  | summarized {input content : ByteArray} {result : Result} {s₁ s₂ s₃ : σ} :
    exec (storage.read config.input.path) s = (.ok input, s₁) →
    prepare mapper config generatedAt input = .ok (result, content) →
    exec (storage.write (outputFile config.output) content) s₁ = (.ok (), s₂) →
    config.output.wantsSummary = true →
    exec (storage.write (summaryFile config.output) (summaryBytes result.summary)) s₂ =
      (.ok (), s₃) →
    Course storage mapper config generatedAt s (.ok (outputFile config.output)) s₃

/-- A run, with the work on what was read as one step. -/
theorem run_eq (storage : Storage (StateM σ)) (mapper : Mapper) (config : Config.Batch)
    (generatedAt : String) :
    run storage mapper config generatedAt = (do
      let input ← storage.read config.input.path
      let (result, content) ← ExceptT.mk (pure (prepare mapper config generatedAt input))
      storage.write (outputFile config.output) content
      if config.output.wantsSummary then
        storage.write (summaryFile config.output) (summaryBytes result.summary)
      pure (outputFile config.output)) := by
  unfold run extract load prepare
  simp only [bind_assoc, Storage.mk_pure_bind]
  rfl

section

variable {storage : Storage (StateM σ)} {mapper : Mapper} {config : Config.Batch}
  {generatedAt : String} {s s' : σ} {r : Except Fault String}

theorem course_of_exec_run (h : exec (run storage mapper config generatedAt) s = (r, s')) :
    Course storage mapper config generatedAt s r s' := by
  rw [run_eq] at h
  obtain ⟨_, hread, rfl⟩ | ⟨input, s₁, hread, h⟩ := Storage.exec_bind_cases h
  · exact .unread hread
  obtain ⟨_, hwork, rfl⟩ | ⟨⟨result, content⟩, _, hwork, h⟩ := Storage.exec_bind_cases h
  · obtain ⟨hprepare, rfl⟩ := Storage.exec_mk_pure_iff.1 hwork
    exact .unprepared hread hprepare
  obtain ⟨hprepare, rfl⟩ := Storage.exec_mk_pure_iff.1 hwork
  obtain ⟨_, hwrite, rfl⟩ | ⟨_, s₂, hwrite, h⟩ := Storage.exec_bind_cases h
  · exact .unwritten hread hprepare hwrite
  dsimp only at h
  split at h
  · rename_i hwants
    obtain ⟨_, hsummary, rfl⟩ | ⟨_, s₃, hsummary, h⟩ := Storage.exec_bind_cases h
    · exact .unsummarized hread hprepare hwrite hwants hsummary
    · cases h
      exact .summarized hread hprepare hwrite hwants hsummary
  · rename_i hwants
    cases h
    exact .bare hread hprepare hwrite (Bool.eq_false_of_not_eq_true hwants)

theorem exec_run_of_course (h : Course storage mapper config generatedAt s r s') :
    exec (run storage mapper config generatedAt) s = (r, s') := by
  rw [run_eq]
  have hwork {p : Except Fault (Result × ByteArray)} {input : ByteArray} {s₁ : σ}
      (h : prepare mapper config generatedAt input = p) :
      exec (ExceptT.mk (pure (prepare mapper config generatedAt input))) s₁ = (p, s₁) :=
    Storage.exec_mk_pure_iff.2 ⟨h, rfl⟩
  cases h with
  | unread hread => rw [Storage.exec_bind_of_error hread]
  | unprepared hread hprepare =>
    rw [Storage.exec_bind_of_ok hread, Storage.exec_bind_of_error (hwork hprepare)]
  | unwritten hread hprepare hwrite =>
    rw [Storage.exec_bind_of_ok hread, Storage.exec_bind_of_ok (hwork hprepare),
      Storage.exec_bind_of_error hwrite]
  | bare hread hprepare hwrite hwants =>
    rw [Storage.exec_bind_of_ok hread, Storage.exec_bind_of_ok (hwork hprepare),
      Storage.exec_bind_of_ok hwrite, hwants]
    rfl
  | unsummarized hread hprepare hwrite hwants hsummary =>
    rw [Storage.exec_bind_of_ok hread, Storage.exec_bind_of_ok (hwork hprepare),
      Storage.exec_bind_of_ok hwrite, hwants, if_pos rfl, Storage.exec_bind_of_error hsummary]
  | summarized hread hprepare hwrite hwants hsummary =>
    rw [Storage.exec_bind_of_ok hread, Storage.exec_bind_of_ok (hwork hprepare),
      Storage.exec_bind_of_ok hwrite, hwants, if_pos rfl, Storage.exec_bind_of_ok hsummary]
    rfl

/-- What a run does: one of the courses. -/
theorem exec_run_iff : exec (run storage mapper config generatedAt) s = (r, s') ↔
    Course storage mapper config generatedAt s r s' :=
  ⟨course_of_exec_run, exec_run_of_course⟩

end

end EndpointCountry.Tagging
