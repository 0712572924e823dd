import EndpointCountry.Proofs.Endpoint
import EndpointCountry.Proofs.Tagging.Course
import EndpointCountry.Proofs.Tagging.Rows

/-!
# How a run with sound settings fails

Settings that pass the check say how records are split and where the endpoints are. A run with such
settings stops only for what is outside of them: the storage, the input, a header that lacks a
column, or a malformed endpoint where the policy is to give up. Its tables keep their shape from
reading to writing, so that a table which was tagged can always be written.

* `delimiterByte_of_check`, `endpointColumns_of_check` — what the check vouches for.
* `length_of_mem_rows_transform`, `exists_bytesOfTable` — tables keep their shape, and those can be
  written.
* `RunFault`, `runFault_of_course` — the faults that are left.
* `Refuses`, `RunFault.refuses` — faults that only the storage can bring up.
* `run_of_check` — all of this about a run.
-/

namespace EndpointCountry

namespace Config.Batch

/-! ## Settings that were checked -/

theorem delimiterByte_of_check {config : Batch} (h : config.check = .ok ()) :
    ∃ delimiter, config.input.delimiterByte = .ok delimiter := by
  simp only [check, bind_eq_ok_iff] at h
  obtain ⟨_, -, _, -, _, -, _, -, _, -, delimiter, hdelimiter, -⟩ := h
  exact ⟨delimiter, hdelimiter⟩

theorem endpointColumns_of_check {config : Batch} (h : config.check = .ok ()) :
    ∃ columns, config.input.endpointColumns = .ok columns := by
  simp only [check, bind_eq_ok_iff] at h
  obtain ⟨_, -, _, -, _, -, _, -, _, -, _, -, columns, hcolumns, -⟩ := h
  exact ⟨columns, hcolumns⟩

end Config.Batch

namespace Tagging

open Storage (exec)

/-! ## Tables keep their shape -/

theorem exists_read_eq_ok {input : Config.Input} {content : ByteArray} {table : Delimited.Table}
    (h : tableOfBytes input content = .ok table) :
    ∃ delimiter, input.delimiterByte = .ok delimiter ∧
      Delimited.read delimiter content.data.toList = .ok table := by
  obtain ⟨delimiter, hdelimiter, hread⟩ := bind_eq_ok_iff.1 h
  exact ⟨delimiter, hdelimiter, mapError_eq_ok_iff.1 hread⟩

theorem tableOfBytes_eq_error {input : Config.Input} {delimiter : UInt8}
    (hd : input.delimiterByte = .ok delimiter) {content : ByteArray} {fault : Fault}
    (h : tableOfBytes input content = .error fault) :
    ∃ defect, Delimited.read delimiter content.data.toList = .error defect ∧
      fault = .delimited defect := by
  obtain h | ⟨_, hd', hread⟩ := bind_eq_error_iff.1 h
  · cases hd.symm.trans h
  · cases hd.symm.trans hd'
    obtain ⟨defect, hdefect, hfault⟩ := mapError_eq_error_iff.1 hread
    exact ⟨defect, hdefect, hfault.symm⟩

/-- Tagging a table with rows as long as its header gives one. -/
theorem length_of_mem_rows_transform {mapper : Mapper} {config : Config.Batch}
    {generatedAt : String} {table : Delimited.Table} {result : Result}
    (hrows : ∀ row ∈ table.rows, row.length = table.headers.length)
    (h : transform mapper config generatedAt table = .ok result) :
    ∀ row ∈ result.table.rows, row.length = result.table.headers.length := by
  obtain ⟨l, -, -, rfl⟩ := transform_eq_ok_iff.1 h
  intro row hrow
  obtain ⟨p, hp, rfl⟩ := List.mem_map.1 hrow
  obtain ⟨o, ho, hkept⟩ := List.mem_filterMap.1 hp
  obtain ⟨q, hq, rfl⟩ := List.mem_map.1 ho
  rw [kept?_outcome] at hkept
  split at hkept
  · cases hkept
    have hlength := hrows q.1 (List.fst_mem_of_mem_zipIdx hq)
    rw [withCountry, length_setCell, hlength]
    exact (length_placeCountry ..).symm
  · cases hkept

/-- A table with rows as long as its header can be written. -/
theorem exists_bytesOfTable {input : Config.Input} {delimiter : UInt8}
    (hd : input.delimiterByte = .ok delimiter) {table : Delimited.Table}
    (hrows : ∀ row ∈ table.rows, row.length = table.headers.length) :
    ∃ content, bytesOfTable input table = .ok content := by
  have hwrite : Delimited.write delimiter table = .ok _ := Delimited.write_eq_ok_iff.2 ⟨hrows, rfl⟩
  exact ⟨_, bind_eq_ok_iff.2 ⟨delimiter, hd, bind_eq_ok_iff.2
    ⟨_, mapError_eq_ok_iff.2 hwrite, rfl⟩⟩⟩

/-! ## The faults that are left -/

variable {σ : Type}

/-- The faults that a run from a state can end in when its settings are sound. -/
inductive RunFault (storage : Storage (StateM σ)) (config : Config.Batch) (s : σ) :
    Fault → Prop where
  /-- The storage refuses to read the input. -/
  | refusedRead {fault : Fault} {s' : σ} :
    exec (storage.read config.input.path) s = (.error fault, s') →
    RunFault storage config s fault
  /-- The storage refuses to write one of the two files. -/
  | refusedWrite {path : String} {content : ByteArray} {fault : Fault} {mid s' : σ} :
    path = outputFile config.output ∨ path = summaryFile config.output →
    exec (storage.write path content) mid = (.error fault, s') →
    RunFault storage config s fault
  /-- The input is no table. -/
  | defect {input : ByteArray} {delimiter : UInt8} {defect : Delimited.Defect} {s' : σ} :
    exec (storage.read config.input.path) s = (.ok input, s') →
    config.input.delimiterByte = .ok delimiter →
    Delimited.read delimiter input.data.toList = .error defect →
    RunFault storage config s (.delimited defect)
  /-- The header has no column of a name that the settings give. -/
  | absent {input : ByteArray} {table : Delimited.Table} {columns : Config.EndpointColumns}
    {name : String} {s' : σ} :
    exec (storage.read config.input.path) s = (.ok input, s') →
    tableOfBytes config.input input = .ok table →
    config.input.endpointColumns = .ok columns →
    name ∈ columns.names → name ∉ table.headers →
    RunFault storage config s (absentColumn table.headers name)
  /-- The policy is to give up, and the row of a number is the first with a malformed endpoint. -/
  | malformed {input : ByteArray} {table : Delimited.Table} {column : String} {number : Nat}
    {row : List String} {flaw : Endpoint.Flaw} {s' : σ} :
    exec (storage.read config.input.path) s = (.ok input, s') →
    tableOfBytes config.input input = .ok table →
    config.policy = .fail →
    config.input.endpointColumns = .ok (.joined column) →
    (row, number) ∈ table.rows.zipIdx 1 →
    Endpoint.parse (cellAt row (table.headers.idxOf column)) = .error flaw →
    (∀ p ∈ table.rows.zipIdx 1, p.2 < number →
      ∃ endpoint, Endpoint.parse (cellAt p.1 (table.headers.idxOf column)) = .ok endpoint) →
    RunFault storage config s (.processing s!"row {number}: {flaw.toFault.message}")

/-- The first entry is about the first row with a malformed endpoint. -/
theorem rejection?_eq_none_of_lt_head {mapper : Mapper} {l : Layout} {number : Nat}
    {rows : List (List String)} {first : InvalidRow}
    (hfirst : (rejections mapper l number rows).head? = some first) {p : List String × Nat}
    (hp : p ∈ rows.zipIdx number) (hlt : p.2 < first.row) :
    rejection? mapper l p.2 p.1 = none := by
  by_contra hsome
  obtain ⟨i, hi⟩ := Option.ne_none_iff_exists'.1 hsome
  have hrow := row_of_rejection? hi
  have hmem : i ∈ rejections mapper l number rows := mem_rejections.2 ⟨p.1, hrow ▸ hp, hrow ▸ hi⟩
  obtain ⟨rest, hrest⟩ := List.head?_eq_some_iff.1 hfirst
  have hordered : (rejections mapper l number rows).Pairwise (·.row < ·.row) :=
    pairwise_rejections number rows
  rw [hrest] at hmem hordered
  rcases List.mem_cons.1 hmem with rfl | hmem
  · omega
  · have := (List.pairwise_cons.1 hordered).1 i hmem
    omega

section

variable {storage : Storage (StateM σ)} {resolve : String → String → Country}
  {config : Config.Batch} {generatedAt : String} {s s' : σ} {input : ByteArray}

theorem runFault_of_transform (hread : exec (storage.read config.input.path) s = (.ok input, s'))
    {table : Delimited.Table} (htable : tableOfBytes config.input input = .ok table)
    {columns : Config.EndpointColumns} (hcolumns : config.input.endpointColumns = .ok columns)
    {fault : Fault} (h : transform (.ofResolve resolve) config generatedAt table = .error fault) :
    RunFault storage config s fault := by
  obtain hlocate | ⟨l, hl, hpolicy, first, hfirst, rfl⟩ := transform_eq_error_iff.1 h
  · obtain hbad | ⟨_, hcolumns', hlayout⟩ := bind_eq_error_iff.1 hlocate
    · cases hcolumns.symm.trans hbad
    · cases hcolumns.symm.trans hcolumns'
      obtain ⟨name, hname, habsent, rfl⟩ := exists_absentColumn hlayout
      exact .absent hread htable hcolumns hname habsent
  · obtain ⟨row, hrow, hrejection⟩ := mem_rejections.1 (List.mem_of_head? hfirst)
    obtain ⟨place, fault, rfl, hfault, hentry⟩ := rejection?_eq_some_iff.1 hrejection
    obtain ⟨flaw, hflaw, rfl⟩ := Mapper.resolveEndpoint_ofResolve_eq_error_iff.1 hfault
    obtain ⟨_, hcolumns', -, hplaces⟩ := locate_eq_ok_iff.1 hl
    cases hcolumns.symm.trans hcolumns'
    cases columns with
    | split scheme value => cases hplaces
    | joined column =>
      cases hplaces
      have hreason : first.reason = flaw.toFault.message := by rw [hentry]
      rw [givenUp, hreason]
      refine .malformed hread htable hpolicy hcolumns hrow hflaw fun p hp hlt => ?_
      have hnone := rejection?_eq_none_of_lt_head hfirst hp hlt
      cases hparse : Endpoint.parse (cellAt p.1 (table.headers.idxOf column)) with
      | ok endpoint => exact ⟨endpoint, rfl⟩
      | error flaw' =>
        rw [rejection?_eq_some_iff.2 ⟨_, _, rfl,
          Mapper.resolveEndpoint_ofResolve_eq_error_iff.2 ⟨flaw', hparse, rfl⟩, rfl⟩] at hnone
        cases hnone

theorem runFault_of_course (hcheck : config.check = .ok ()) {fault : Fault}
    (h : Course storage (.ofResolve resolve) config generatedAt s (.error fault) s') :
    RunFault storage config s fault := by
  obtain ⟨delimiter, hdelimiter⟩ := Config.Batch.delimiterByte_of_check hcheck
  obtain ⟨columns, hcolumns⟩ := Config.Batch.endpointColumns_of_check hcheck
  cases h with
  | unread hread => exact .refusedRead hread
  | unprepared hread hprepare =>
    obtain htable | ⟨table, htable, htransform | ⟨result, hresult, hcontent⟩⟩ :=
      prepare_eq_error_iff.1 hprepare
    · obtain ⟨defect, hdefect, rfl⟩ := tableOfBytes_eq_error hdelimiter htable
      exact .defect hread hdelimiter hdefect
    · exact runFault_of_transform hread htable hcolumns htransform
    · -- the table that was tagged has kept its shape, so it can be written
      obtain ⟨_, -, hrows⟩ := exists_read_eq_ok htable
      obtain ⟨content, hwritten⟩ := exists_bytesOfTable hdelimiter
        (length_of_mem_rows_transform (Delimited.length_of_mem_rows hrows) hresult)
      cases hcontent.symm.trans hwritten
  | unwritten _ _ hwrite => exact .refusedWrite (.inl rfl) hwrite
  | unsummarized _ _ _ _ hsummary => exact .refusedWrite (.inr rfl) hsummary

end

/-- A storage ends some access with a fault. -/
def Refuses (storage : Storage (StateM σ)) (fault : Fault) : Prop :=
  (∃ path s s', exec (storage.read path) s = (.error fault, s')) ∨
    ∃ path content s s', exec (storage.write path content) s = (.error fault, s')

/-- A fault about one value of the settings, or about one that is missing, is the storage's own. -/
theorem RunFault.refuses {storage : Storage (StateM σ)} {config : Config.Batch} {s : σ}
    {fault : Fault} (h : RunFault storage config s fault)
    (hfault : (∃ field, fault = .settingMissing field) ∨
      ∃ field value reason, fault = .settingValue field value reason) :
    Refuses storage fault := by
  cases h with
  | refusedRead hread => exact .inl ⟨_, _, _, hread⟩
  | refusedWrite _ hwrite => exact .inr ⟨_, _, _, _, hwrite⟩
  | defect => simp at hfault
  | absent => simp [absentColumn] at hfault
  | malformed => simp at hfault

/-- Settings that pass the check say how records are split and where the endpoints are; a table that
was read and tagged with them has rows as long as its header, so that it can be written; and a run
with them ends only in the faults of `RunFault`, whatever the storage does and holds. -/
theorem run_of_check {config : Config.Batch} (hcheck : config.check = .ok ())
    (resolve : String → String → Country) (generatedAt : String) :
    (∃ delimiter, config.input.delimiterByte = .ok delimiter) ∧
    (∃ columns, config.input.endpointColumns = .ok columns) ∧
    (∀ input table result, tableOfBytes config.input input = .ok table →
      transform (.ofResolve resolve) config generatedAt table = .ok result →
      (∀ row ∈ result.table.rows, row.length = result.table.headers.length) ∧
        ∃ content, bytesOfTable config.input result.table = .ok content) ∧
    ∀ (σ : Type) (storage : Storage (StateM σ)) (s : σ) (fault : Fault) (s' : σ),
      exec (run storage (.ofResolve resolve) config generatedAt) s = (.error fault, s') →
      RunFault storage config s fault ∧
        ((∃ field, fault = .settingMissing field) ∨
          (∃ field value reason, fault = .settingValue field value reason) →
          Refuses storage fault) := by
  obtain ⟨delimiter, hdelimiter⟩ := Config.Batch.delimiterByte_of_check hcheck
  refine ⟨⟨delimiter, hdelimiter⟩, Config.Batch.endpointColumns_of_check hcheck, ?_, ?_⟩
  · intro input table result htable hresult
    obtain ⟨_, -, hread⟩ := exists_read_eq_ok htable
    have hrows := length_of_mem_rows_transform (Delimited.length_of_mem_rows hread) hresult
    exact ⟨hrows, exists_bytesOfTable hdelimiter hrows⟩
  · intro σ storage s fault s' h
    have hfault := runFault_of_course hcheck (exec_run_iff.1 h)
    exact ⟨hfault, hfault.refuses⟩

/-- The third row is as malformed as the second, but the second comes first. -/
theorem runFault_of_second_row :
    (⟨⟨"night", none⟩, ⟨"in.csv", none, some "receiver", none, none⟩, ⟨"out", none, none, none⟩,
      {}, .fail⟩ : Config.Batch).check = .ok () ∧
    RunFault (Storage.Memory.storage false)
      ⟨⟨"night", none⟩, ⟨"in.csv", none, some "receiver", none, none⟩, ⟨"out", none, none, none⟩,
        {}, .fail⟩
      ⟨[("in.csv", "receiver\nGLN:5\n5\n:5\n".toUTF8)], []⟩
      (.processing
        "row 2: Invalid argument: invalid endpoint format '5', expected 'type:value'") := by
  have hrun : exec (run (Storage.Memory.storage false) (.ofResolve fun _ _ => .of 'D' 'K')
      ⟨⟨"night", none⟩, ⟨"in.csv", none, some "receiver", none, none⟩, ⟨"out", none, none, none⟩,
        {}, .fail⟩ "")
      ⟨[("in.csv", "receiver\nGLN:5\n5\n:5\n".toUTF8)], []⟩ =
      (.error (.processing
        "row 2: Invalid argument: invalid endpoint format '5', expected 'type:value'"), _) := rfl
  exact ⟨rfl, ((run_of_check rfl _ _).2.2.2 _ _ _ _ _ hrun).1⟩

end Tagging

end EndpointCountry
