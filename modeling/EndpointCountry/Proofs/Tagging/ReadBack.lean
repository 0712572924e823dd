import EndpointCountry.Proofs.Delimited.RoundTrip
import EndpointCountry.Proofs.Steps
import EndpointCountry.Proofs.Storage
import EndpointCountry.Proofs.Tagging.Files

/-!
# Reading back a tagged file

A tagged file can be tagged again: what is read from it is the table that was written, cell by
cell. The summary that is written after it does not get in the way.

* `delimiterByte_lt` — a delimiter is an ASCII byte.
* `bytesOfTable_eq_ok`, `tableOfBytes_eq_ok` — the content of a file for a table.
* `exec_load_eq_ok` — what a run of `load` has written.
* `Returns`, `Returns.of_keeps`, `Returns.fileTree` — storages from which a tagged file can be read.
* `extract_load` — the round trip through a storage.
-/

namespace EndpointCountry

namespace Config.Input

theorem asciiByte?_lt {s : String} {b : UInt8} (h : asciiByte? s = some b) : b < 0x80 := by
  unfold asciiByte? at h
  split at h
  · split at h
    · rename_i hc
      cases h
      rw [UInt8.lt_iff_toNat_lt, Char.toUInt8, UInt32.toNat_toUInt8]
      exact Nat.lt_of_le_of_lt (Nat.mod_le _ _) hc
    · cases h
  · cases h

theorem delimiterByte_lt {i : Input} {delimiter : UInt8} (h : i.delimiterByte = .ok delimiter) :
    delimiter < 0x80 := by
  unfold delimiterByte at h
  split at h
  · cases h
    decide
  split at h
  · cases h
    decide
  split at h
  · rename_i hb
    cases h
    exact asciiByte?_lt hb
  · cases h

end Config.Input

namespace Tagging

open Storage (exec)

/-! ## Contents of files -/

theorem bytesOfTable_eq_ok {input : Config.Input} {delimiter : UInt8}
    (hd : input.delimiterByte = .ok delimiter) {table : Delimited.Table} {content : ByteArray}
    (h : bytesOfTable input table = .ok content) :
    Delimited.write delimiter table = .ok content.data.toList := by
  obtain ⟨_, hd', h⟩ := bind_eq_ok_iff.1 h
  cases hd.symm.trans hd'
  obtain ⟨bytes, hbytes, hpure⟩ := bind_eq_ok_iff.1 h
  cases hpure
  cases hwrite : Delimited.write delimiter table with
  | ok written =>
    rw [hwrite] at hbytes
    cases hbytes
    rfl
  | error defect =>
    rw [hwrite] at hbytes
    cases hbytes

theorem tableOfBytes_eq_ok {input : Config.Input} {delimiter : UInt8}
    (hd : input.delimiterByte = .ok delimiter) {content : ByteArray} {table : Delimited.Table}
    (h : Delimited.read delimiter content.data.toList = .ok table) :
    tableOfBytes input content = .ok table := by
  have hread : (Delimited.read delimiter content.data.toList).mapError Fault.delimited =
      .ok table := by
    rw [h]
    rfl
  rw [tableOfBytes, bind_eq_ok_iff]
  exact ⟨delimiter, hd, hread⟩

/-! ## Runs -/

variable {σ : Type} {storage : Storage (StateM σ)} {config : Config.Batch}

/-- What was done when `load` went through: the table was written, then the summary if it is
wanted. -/
theorem exec_load_eq_ok {result : Result} {s s' : σ} {path : String}
    (h : exec (load storage config result) s = (.ok path, s')) :
    path = outputFile config.output ∧
      ∃ content mid, bytesOfTable config.input result.table = .ok content ∧
        exec (storage.write path content) s = (.ok (), mid) ∧
        (if config.output.wantsSummary then
          exec (storage.write (summaryFile config.output) (summaryBytes result.summary)) mid =
            (.ok (), s')
        else s' = mid) := by
  unfold load at h
  obtain ⟨content, _, hcontent, h⟩ := Storage.exec_bind_eq_ok_iff.1 h
  rw [Storage.exec_mk_pure] at hcontent
  obtain ⟨hbytes, rfl⟩ := Prod.mk.inj hcontent
  obtain ⟨_, mid, hwrite, h⟩ := Storage.exec_bind_eq_ok_iff.1 h
  dsimp only at h
  split at h
  · rename_i hwants
    obtain ⟨_, last, hsummary, h⟩ := Storage.exec_bind_eq_ok_iff.1 h
    rw [Storage.exec_pure] at h
    cases h
    exact ⟨rfl, content, mid, hbytes, hwrite, by rwa [if_pos hwants]⟩
  · rename_i hwants
    rw [Storage.exec_pure] at h
    cases h
    exact ⟨rfl, content, _, hbytes, hwrite, by rw [if_neg hwants]⟩

theorem exec_extract {s : σ} {content : ByteArray}
    (h : (exec (storage.read config.input.path) s).1 = .ok content) :
    (exec (extract storage config) s).1 = tableOfBytes config.input content := by
  unfold extract
  rw [Storage.exec_bind]
  cases hread : exec (storage.read config.input.path) s with
  | mk r mid =>
    rw [hread] at h
    cases h
    rfl

/-- A tagged file reads as it was written, also once its summary is written. -/
structure Returns (storage : Storage (StateM σ)) (o : Config.Output) : Prop where
  readsBack : storage.ReadsBack (outputFile o)
  apart : o.wantsSummary = true → storage.Apart (outputFile o) (summaryFile o)

theorem Returns.of_keeps (h : storage.Keeps) (o : Config.Output) : Returns storage o :=
  ⟨h.readsBack _, fun _ => h.apart (outputFile_ne_summaryFile o)⟩

theorem Returns.fileTree (base : String) (o : Config.Output) :
    Returns (Storage.FileTree.storage base) o :=
  ⟨Storage.FileTree.readsBack base _, fun _ => Storage.FileTree.apart (lastPart_outputFile_ne o)⟩

/-- A tagged file is read back as the table that was written, whatever its cells hold. That its rows
are as long as its header is not asked for here, since otherwise nothing would have been written. -/
theorem extract_load (hreturns : Returns storage config.output) {delimiter : UInt8}
    (hd : config.input.delimiterByte = .ok delimiter) (hs : Delimited.Separates delimiter)
    {result : Result} (hheaders : result.table.headers ≠ [])
    (hmark : ∀ cell ∈ result.table.headers.head?, ¬ Delimited.Marked cell) {path : String} {s s' : σ}
    (hload : exec (load storage config result) s = (.ok path, s')) {source : Config.Batch}
    (hpath : source.input.path = path) (hsource : source.input.delimiterByte = .ok delimiter) :
    (exec (extract storage source) s').1 = .ok result.table := by
  obtain ⟨rfl, content, mid, hcontent, hwrite, hlast⟩ := exec_load_eq_ok hload
  have hread : (exec (storage.read source.input.path) s').1 = .ok content := by
    rw [hpath]
    split at hlast
    · rename_i hwants
      exact (hreturns.apart hwants _ _ _ _ _ _ hwrite hlast).1
    · rw [hlast]
      exact hreturns.readsBack _ _ _ hwrite
  have hbytes := bytesOfTable_eq_ok hd hcontent
  have hascii := Config.Input.delimiterByte_lt hd
  rw [exec_extract hread]
  exact tableOfBytes_eq_ok hsource (Delimited.read_write hs hascii hheaders hmark hbytes)

/-- One column whose cells are empty or hold the delimiter, quotes and line ends. -/
def awkward : Result :=
  ⟨⟨[""], [[""], ["a;\"b\""], ["\r\n"]]⟩, ⟨"night", "", 3, 3, 0, 3, [], []⟩⟩

/-- A batch that writes a tagged file and its summary. -/
def firstBatch : Config.Batch :=
  ⟨⟨"night", none⟩, ⟨"in.csv", some ";", none, none, none⟩, ⟨"out", none, none, none⟩, {}, .fail⟩

/-- A batch that starts from the tagged file of the first one. -/
def secondBatch : Config.Batch :=
  ⟨⟨"day", none⟩, ⟨"out/tagged.csv", some ";", none, none, none⟩, ⟨"again", none, none, none⟩, {}, .fail⟩

/-- An awkward table is read back from memory and from a file tree. -/
theorem extract_load_awkward :
    (exec (extract (Storage.Memory.storage false) secondBatch)
      (exec (load (Storage.Memory.storage false) firstBatch awkward) ⟨[], []⟩).2).1 =
        .ok awkward.table ∧
    (exec (extract (Storage.FileTree.storage "") secondBatch)
      (exec (load (Storage.FileTree.storage "") firstBatch awkward) (Storage.FileTree.empty [])).2).1 =
        .ok awkward.table := by
  have hd : firstBatch.input.delimiterByte = .ok 0x3B := rfl
  have hs : Delimited.Separates 0x3B := ⟨by decide, by decide⟩
  have hmark : ∀ cell ∈ awkward.table.headers.head?, ¬ Delimited.Marked cell := by
    simp [awkward, Delimited.Marked]
  constructor
  · have hload : (exec (load (Storage.Memory.storage false) firstBatch awkward) ⟨[], []⟩).1 =
        .ok "out/tagged.csv" := rfl
    exact extract_load (.of_keeps (Storage.Memory.keeps false) _) hd hs (by decide) hmark
      (Prod.ext hload rfl) rfl rfl
  · have hload : (exec (load (Storage.FileTree.storage "") firstBatch awkward)
        (Storage.FileTree.empty [])).1 = .ok "out/tagged.csv" := rfl
    exact extract_load (.fileTree "" _) hd hs (by decide) hmark (Prod.ext hload rfl) rfl rfl

end Tagging

end EndpointCountry
