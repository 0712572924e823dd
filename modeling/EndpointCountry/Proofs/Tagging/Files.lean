import EndpointCountry.Proofs.Path
import EndpointCountry.Proofs.Storage.FileTree
import EndpointCountry.Tagging.Run

/-!
# The two files of a batch

The summary is called after the tagged file, and never the same: what stands behind the last slash
of the one path does not stand behind that of the other. So the summary is written to a file of its
own, and the tagged file stays as it is.

The names of the two files differ as well, but for one case. A path that ends in a slash or in a
single point has the name of the directory that it asks for, and this may be the name that the
summary gets in it; then there is no tagged file, since it cannot be written.

* `stemL_append_ne` — no name is its own stem with the ending of a summary.
* `lastPart_outputFile_ne`, `outputFile_ne_summaryFile` — the paths of the two files differ.
* `SharesName`, `exists_fileNameL?_iff` — when the two paths have one name.
* `Saved`, `saved_of_exec_load` — what is left in the two files.
* `summary_beside_table` — all of this about the settings of an output.
-/

namespace EndpointCountry.Tagging

open EndpointCountry.Path (joinL fileNameL? stemL isAbsoluteL isName lastPart namesL)
open Storage (exec FileTree)

/-! ## Names -/

/-- What the name of a summary ends in. -/
def summaryEnding : List Char :=
  ".summary.json".toList

theorem stemL_append_ne (name : List Char) : stemL name ++ summaryEnding ≠ name := by
  intro h
  have hcut : summaryEnding = ".summary".toList ++ '.' :: "json".toList := by decide
  have hfront : stemL name ++ ".summary".toList ≠ [] := by simp
  have hstem : stemL name = stemL name ++ ".summary".toList := by
    have hstem : stemL ((stemL name ++ ".summary".toList) ++ '.' :: "json".toList) =
        stemL name ++ ".summary".toList := Path.stemL_append hfront (by decide)
    rw [List.append_assoc, ← hcut, h] at hstem
    exact hstem
  have hlength := congrArg List.length hstem
  rw [List.length_append] at hlength
  have hending : ".summary".toList.length = 8 := by decide
  omega

/-- A path whose last part ends as the name of a summary ends in that name. -/
theorem fileNameL?_of_summaryEnding {path front : List Char}
    (h : lastPart path = front ++ summaryEnding) :
    fileNameL? path = some (front ++ summaryEnding) := by
  have hlength : 13 ≤ (lastPart path).length := by
    have hending : summaryEnding.length = 13 := by decide
    rw [h, List.length_append]
    omega
  rw [← h]
  apply Path.fileNameL?_of_lastPart
  · rw [isName, decide_eq_true_eq]
    constructor <;> intro hshort <;> rw [hshort] at hlength <;> simp at hlength
  · intro hshort
    rw [hshort] at hlength
    simp at hlength

variable {o : Config.Output} {name : List Char}

theorem toList_outputFile (o : Config.Output) :
    (outputFile o).toList = joinL o.path.toList o.tableName.toList := by
  rw [outputFile, Path.join, String.toList_ofList]

theorem lastPart_outputFile (o : Config.Output) :
    lastPart (outputFile o).toList = lastPart o.tableName.toList := by
  rw [toList_outputFile, Path.lastPart_joinL]

theorem lastPart_summaryFile (o : Config.Output) :
    lastPart (summaryFile o).toList =
      lastPart ((Path.fileStem? o.tableName).getD o.tableName).toList ++ summaryEnding := by
  have hslash : '/' ∉ summaryEnding := by decide +kernel
  rw [summaryFile, Path.lastPart_join, String.toList_append]
  exact Path.lastPart_append_of_notMem _ hslash

theorem lastPart_summaryFile_of_some (h : fileNameL? o.tableName.toList = some name) :
    lastPart (summaryFile o).toList = stemL name ++ summaryEnding := by
  obtain ⟨-, -, hslash⟩ := Path.fileNameL?_eq_some h
  have hstem : '/' ∉ stemL name := fun hmem => hslash ((Path.stemL_isPrefix name).subset hmem)
  rw [lastPart_summaryFile, Path.fileStem?, h, Option.map_some, Option.getD_some,
    String.toList_ofList, Path.lastPart_of_notMem hstem]

theorem lastPart_summaryFile_of_none (h : fileNameL? o.tableName.toList = none) :
    lastPart (summaryFile o).toList = lastPart o.tableName.toList ++ summaryEnding := by
  rw [lastPart_summaryFile, Path.fileStem?, h, Option.map_none, Option.getD_none]

/-- What stands behind the last slash of the one path does not stand behind that of the other. -/
theorem lastPart_outputFile_ne (o : Config.Output) :
    lastPart (outputFile o).toList ≠ lastPart (summaryFile o).toList := by
  rw [lastPart_outputFile]
  intro h
  cases hname : fileNameL? o.tableName.toList with
  | none =>
    rw [lastPart_summaryFile_of_none hname] at h
    have hending : summaryEnding ≠ [] := by decide
    exact hending (List.self_eq_append_right.1 h)
  | some name =>
    rw [lastPart_summaryFile_of_some hname] at h
    have hsame := hname.symm.trans (fileNameL?_of_summaryEnding h)
    exact stemL_append_ne name (Option.some.inj hsame).symm

/-- The tagged file and its summary have different paths. -/
theorem outputFile_ne_summaryFile (o : Config.Output) : outputFile o ≠ summaryFile o := by
  intro h
  apply lastPart_outputFile_ne o
  rw [h]

/-! ## The case of one name -/

/-- The settings give the tagged file no name, and the directory that is to take it is called as the
summary is. -/
structure SharesName (o : Config.Output) : Prop where
  relative : isAbsoluteL o.tableName.toList = false
  nameless : namesL o.tableName.toList = []
  base : fileNameL? o.path.toList = some (lastPart o.tableName.toList ++ summaryEnding)

/-- If the settings give the tagged file no name, its path has that of the directory or none: what
starts at the root or leads up has no name. -/
theorem fileNameL?_outputFile_of_none (h : fileNameL? o.tableName.toList = none) :
    fileNameL? (outputFile o).toList =
      if isAbsoluteL o.tableName.toList = false ∧ namesL o.tableName.toList = [] then
        fileNameL? o.path.toList
      else none := by
  rw [toList_outputFile]
  by_cases habsolute : isAbsoluteL o.tableName.toList = true
  · rw [Path.joinL_of_isAbsoluteL _ habsolute, h, if_neg (by simp [habsolute])]
  have hrelative := Bool.eq_false_of_not_eq_true habsolute
  rw [fileNameL?, Path.namesL_joinL hrelative]
  by_cases hnames : namesL o.tableName.toList = []
  · rw [if_pos ⟨hrelative, hnames⟩, hnames, List.append_nil, ← fileNameL?]
  · have hlast := List.getLast?_eq_some_getLast hnames
    rw [if_neg (by simp [hnames]), List.getLast?_append, hlast, Option.some_or]
    rwa [fileNameL?, hlast] at h

/-- The two paths have one name in one case only. -/
theorem exists_fileNameL?_iff (o : Config.Output) :
    (∃ name, fileNameL? (outputFile o).toList = some name ∧
      fileNameL? (summaryFile o).toList = some name) ↔ SharesName o := by
  cases hname : fileNameL? o.tableName.toList with
  | some name =>
    have houtput : fileNameL? (outputFile o).toList = some name := by
      rw [toList_outputFile, Path.fileNameL?_joinL _ hname]
    have hsummary := fileNameL?_of_summaryEnding (lastPart_summaryFile_of_some hname)
    constructor
    · rintro ⟨shared, hshared, hshared'⟩
      have hsame := (houtput.symm.trans hshared).trans (hshared'.symm.trans hsummary)
      exact absurd (Option.some.inj hsame).symm (stemL_append_ne name)
    · intro hshares
      rw [Path.fileNameL?_of_namesL hshares.nameless] at hname
      cases hname
  | none =>
    have houtput := fileNameL?_outputFile_of_none hname
    rw [houtput, fileNameL?_of_summaryEnding (lastPart_summaryFile_of_none hname)]
    constructor
    · rintro ⟨shared, hshared, hsummary⟩
      split at hshared
      · rename_i hbare
        exact ⟨hbare.1, hbare.2, hshared.trans hsummary.symm⟩
      · cases hshared
    · intro hshares
      rw [if_pos ⟨hshares.relative, hshares.nameless⟩]
      exact ⟨_, hshares.base, rfl⟩

/-- In the case of one name no file tree takes the tagged file. -/
theorem SharesName.refused (h : SharesName o) {base : String} {content : ByteArray}
    {t t' : FileTree} :
    exec ((FileTree.storage base).write (outputFile o) content) t ≠ (.ok (), t') := by
  intro hwrite
  have hname := FileTree.isName_of_exec_write hwrite
  rw [lastPart_outputFile] at hname
  have hmem : lastPart o.tableName.toList ∈ namesL o.tableName.toList :=
    List.mem_filter.2 ⟨List.getLast_mem (Path.splitSlash_ne_nil _), hname⟩
  rw [h.nameless] at hmem
  cases hmem

/-! ## What is left in the two files -/

variable {σ : Type}

/-- How a call of `load` ends that wants a summary, and what is left in its files. -/
inductive Saved (storage : Storage (StateM σ)) (config : Config.Batch) (result : Result) (s : σ) :
    Except Fault String → σ → Prop where
  /-- The table cannot be laid out, or the tagged file is refused. -/
  | refused {fault : Fault} {s' : σ} :
    (∀ content mid, bytesOfTable config.input result.table = .ok content →
      exec (storage.write (outputFile config.output) content) s ≠ (.ok (), mid)) →
    Saved storage config result s (.error fault) s'
  /-- The summary is refused. The tagged file stands as it was written. -/
  | unsummarized {content : ByteArray} {fault : Fault} {mid s' : σ} :
    bytesOfTable config.input result.table = .ok content →
    exec (storage.write (outputFile config.output) content) s = (.ok (), mid) →
    exec (storage.write (summaryFile config.output) (summaryBytes result.summary)) mid =
      (.error fault, s') →
    (exec (storage.read (outputFile config.output)) s').1 = .ok content →
    Saved storage config result s (.error fault) s'
  /-- Both files stand as they were written. -/
  | complete {content : ByteArray} {mid s' : σ} :
    bytesOfTable config.input result.table = .ok content →
    exec (storage.write (outputFile config.output) content) s = (.ok (), mid) →
    exec (storage.write (summaryFile config.output) (summaryBytes result.summary)) mid =
      (.ok (), s') →
    (exec (storage.read (outputFile config.output)) s').1 = .ok content →
    (exec (storage.read (summaryFile config.output)) s').1 = .ok (summaryBytes result.summary) →
    Saved storage config result s (.ok (outputFile config.output)) s'

theorem saved_of_exec_load {storage : Storage (StateM σ)} {config : Config.Batch} {result : Result}
    (hapart : storage.Apart (outputFile config.output) (summaryFile config.output))
    (hwants : config.output.wantsSummary = true) {s s' : σ} {r : Except Fault String}
    (h : exec (load storage config result) s = (r, s')) : Saved storage config result s r s' := by
  unfold load at h
  obtain ⟨fault, hwork, rfl⟩ | ⟨content, _, hwork, h⟩ := Storage.exec_bind_cases h
  · obtain ⟨hbytes, rfl⟩ := Storage.exec_mk_pure_iff.1 hwork
    refine .refused fun content mid hcontent _ => ?_
    cases hbytes.symm.trans hcontent
  obtain ⟨hbytes, rfl⟩ := Storage.exec_mk_pure_iff.1 hwork
  obtain ⟨fault, hwrite, rfl⟩ | ⟨_, mid, hwrite, h⟩ := Storage.exec_bind_cases h
  · refine .refused fun content' mid hcontent hwrite' => ?_
    cases hbytes.symm.trans hcontent
    cases hwrite.symm.trans hwrite'
  rw [if_pos hwants] at h
  obtain ⟨fault, hsummary, rfl⟩ | ⟨_, last, hsummary, h⟩ := Storage.exec_bind_cases h
  · exact .unsummarized hbytes hwrite hsummary (hapart _ _ _ _ _ _ hwrite hsummary).1
  · obtain ⟨rfl, rfl⟩ := Prod.mk.inj h
    obtain ⟨hread, hread'⟩ := hapart _ _ _ _ _ _ hwrite hsummary
    exact .complete hbytes hwrite hsummary hread (hread' rfl)

/-- The paths of the two files differ, and so do their names but for one case, in which no file tree
takes the tagged file. The summary is written to a file of its own: in a file tree, and in any
storage that keeps what it is given, the tagged file stands as it was written when `load` ends. -/
theorem summary_beside_table (o : Config.Output) :
    outputFile o ≠ summaryFile o ∧
    ((∃ name, fileNameL? (outputFile o).toList = some name ∧
      fileNameL? (summaryFile o).toList = some name) ↔ SharesName o) ∧
    (SharesName o → ∀ base content t t',
      exec ((FileTree.storage base).write (outputFile o) content) t ≠ (.ok (), t')) ∧
    ∀ (config : Config.Batch) (result : Result),
      config.output = o → o.wantsSummary = true →
      (∀ base t r t', exec (load (FileTree.storage base) config result) t = (r, t') →
        Saved (FileTree.storage base) config result t r t') ∧
      ∀ (σ : Type) (storage : Storage (StateM σ)), storage.Keeps →
        ∀ s r s', exec (load storage config result) s = (r, s') →
          Saved storage config result s r s' := by
  refine ⟨outputFile_ne_summaryFile o, exists_fileNameL?_iff o, ?_, ?_⟩
  · intro hshares base content t t'
    exact hshares.refused
  · rintro config result rfl hwants
    constructor
    · intro base t r t' h
      exact saved_of_exec_load (FileTree.apart (lastPart_outputFile_ne config.output)) hwants h
    · intro σ storage hkeeps s r s' h
      exact saved_of_exec_load (hkeeps.apart (outputFile_ne_summaryFile config.output)) hwants h

/-- Settings with two points in the name of the tagged file. -/
def pointedBatch : Config.Batch :=
  ⟨⟨"night", none⟩, ⟨"in.csv", none, none, none, none⟩, ⟨"out", some "a.b.csv", none, none⟩, {}, .fail⟩

/-- A table of one row, and the account of it. -/
def singleRow : Result :=
  ⟨⟨["n"], [["5"]]⟩, ⟨"night", "", 1, 1, 0, 1, [], []⟩⟩

/-- A name with two points, and a single point in place of a name. -/
theorem saved_and_refused :
    Saved (FileTree.storage "") pointedBatch singleRow (FileTree.empty []) (.ok "out/a.b.csv")
      (exec (load (FileTree.storage "") pointedBatch singleRow) (FileTree.empty [])).2 ∧
    ∀ t', exec ((FileTree.storage "").write "..summary.json/." ByteArray.empty) (FileTree.empty []) ≠
      (.ok (), t') := by
  constructor
  · have hload : (exec (load (FileTree.storage "") pointedBatch singleRow) (FileTree.empty [])).1 =
        .ok "out/a.b.csv" := rfl
    have hsaved := ((summary_beside_table pointedBatch.output).2.2.2 pointedBatch singleRow rfl
      rfl).1 ""
    exact hsaved _ _ _ (Prod.ext hload rfl)
  · have hshares : SharesName ⟨"..summary.json", some ".", none, none⟩ :=
      ⟨by decide, by decide, by decide⟩
    have hpath : outputFile ⟨"..summary.json", some ".", none, none⟩ = "..summary.json/." := by
      decide +kernel
    intro t'
    rw [← hpath]
    exact (summary_beside_table ⟨"..summary.json", some ".", none, none⟩).2.2.1 hshares _ _ _ _

/-- A directory can be called as the summary in it is. -/
theorem not_forall_fileNameL?_ne :
    ¬ ∀ o : Config.Output, outputFile o ≠ summaryFile o ∧
      ∀ name, fileNameL? (outputFile o).toList = some name →
        fileNameL? (summaryFile o).toList ≠ some name := by
  intro h
  have hne := (h ⟨"..summary.json", some ".", none, none⟩).2 "..summary.json".toList
  exact hne (by decide +kernel) (by decide +kernel)

end EndpointCountry.Tagging
