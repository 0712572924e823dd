import EndpointCountry.Config.Load
import EndpointCountry.Proofs.Config.Batch
import EndpointCountry.Proofs.Config.Environment
import EndpointCountry.Proofs.Steps
import EndpointCountry.Proofs.Toml.LongText
import EndpointCountry.Proofs.Toml.Sections

/-!
# Values of the environment in the path of the input

References are replaced before the notation of a settings text is read. So the path that a value
gives is what its characters mean between quotation marks, which is the value itself only if none
of them has a meaning of its own.

* `Batch.ofStatements?_inputPath` — statements that give another path of the input.
* `load_reference` — the settings when the path is a reference to a variable that is set.
* `not_forall_load_reference` — a value that does not get there as it is.
-/

namespace EndpointCountry.Toml

namespace QuotedLine

variable {l : QuotedLine}

/-- A line that gives the path of the input, in the table of the input or with the name of that
table in front. -/
def GivesInputPath (l : QuotedLine) : Prop :=
  ∃ ss table path, l.Reads ss path ∧ tableInForce ss = some table ∧
    table ++ path = ["input", "path"]

end QuotedLine

/-- In front of the end of a line, a text that is read as it is written does not open a text over
several lines. -/
theorem append_ne_of_verbatim {text after : List Char} (htext : Verbatim text)
    (hafter : (lineEnd? after).isSome = true) (rest : List Char) :
    text ++ '"' :: after ≠ '"' :: '"' :: rest := by
  intro heq
  cases text with
  | nil =>
    obtain rfl := (List.cons_eq_cons.1 heq).2
    cases hafter
  | cons c text =>
    obtain ⟨rfl, -⟩ := List.cons_eq_cons.1 heq
    exact (htext '"' List.mem_cons_self).2.1 rfl

end EndpointCountry.Toml

namespace EndpointCountry.Config

open Environment Toml

/-- The settings that statements describe. -/
def Batch.ofStatements? (ss : List Statement) : Option Batch :=
  (tableOf? ss).bind fun t => Batch.ofDatum? t.toDatum

theorem load_eq_ok_iff {env : Environment} {text : String} {c : Batch} :
    load Batch.ofDatum? env text = .ok c ↔
      (statements? (env.substitute text).toList).bind Batch.ofStatements? = some c := by
  have hparse : (parse? (env.substitute text)).bind Batch.ofDatum? =
      (statements? (env.substitute text).toList).bind Batch.ofStatements? := by
    simp only [parse?, Option.bind_eq_bind, Option.bind_assoc]
    rfl
  rw [load, hparse]
  cases (statements? (env.substitute text).toList).bind Batch.ofStatements? <;> simp

/-- Statements that give another path of the input. -/
theorem Batch.ofStatements?_inputPath {ss more : List Statement} {table path : List String}
    (hforce : tableInForce ss = some table) (haddress : table ++ path = ["input", "path"])
    (hpath : path ≠ []) {s : String} {c : Batch}
    (h : Batch.ofStatements? (ss ++ .assign path (.text s) :: more) = some c) (s' : String) :
    c.input.path = s ∧ Batch.ofStatements? (ss ++ .assign path (.text s') :: more) =
      some { c with input := { c.input with path := s' } } := by
  obtain ⟨t, ht, hread⟩ := Option.bind_eq_some_iff.1 h
  have hrel : Option.Rel (Table.Apart (.text s) (.text s') ["input", "path"])
      (tableOf? (ss ++ .assign path (.text s) :: more))
      (tableOf? (ss ++ .assign path (.text s') :: more)) :=
    tableOf?_apart hforce haddress hpath
  rw [ht] at hrel
  generalize ht' : tableOf? (ss ++ .assign path (.text s') :: more) = other at hrel
  cases hrel with
  | @some _ t' hapart =>
    obtain ⟨front, back, m, m', hinput, hapart, htable, htable'⟩ := hapart.toDatum_cons
    obtain ⟨front', back', n, n', hkey, hapart, hm, hm'⟩ := hapart.toDatum_cons
    obtain ⟨hn, hn'⟩ := hapart.toDatum_nil
    rw [hn] at hm
    rw [hn'] at hm'
    rw [Table.toDatum, htable, hm] at hread
    obtain ⟨hread, hbatch⟩ := Batch.ofDatum?_input hinput hread
    obtain ⟨hs, hread'⟩ := Input.ofDatum?_path hkey hread s'
    refine ⟨hs, ?_⟩
    rw [Batch.ofStatements?, ht', Option.bind_some, Table.toDatum, htable', hm']
    exact hbatch _ _ hread'

theorem isPlain_of_isNameChar {c : Char} (h : isNameChar c = true) : isPlain c = true := by
  have hrange : 48 ≤ c.toNat ∧ c.toNat ≤ 122 := by
    simp only [isNameChar, isNameStart, Bool.or_eq_true, Bool.and_eq_true, decide_eq_true_eq,
      beq_iff_eq, Char.le_def, UInt32.le_iff_toNat_le] at h
    obtain ((⟨hlow, hhigh⟩ | ⟨hlow, hhigh⟩) | rfl) | ⟨hlow, hhigh⟩ := h
    · exact ⟨le_trans (by decide) hlow, le_trans hhigh (by decide)⟩
    · exact ⟨le_trans (by decide) hlow, le_trans hhigh (by decide)⟩
    · decide
    · exact ⟨le_trans (by decide) hlow, le_trans hhigh (by decide)⟩
  simp only [isPlain, Bool.or_eq_true, Bool.and_eq_true, decide_eq_true_eq, bne_iff_ne]
  omega

/-- A reference is read as it is written. -/
theorem verbatim_reference {name : List Char} (hname : IsName name) :
    Verbatim (reference name) := by
  have hchars : ∀ c ∈ name, isPlain c = true ∧ c ≠ '"' ∧ c ≠ '\\' := by
    intro c hc
    have hall := List.all_eq_true.1 hname.2 c hc
    refine ⟨isPlain_of_isNameChar hall, ?_, ?_⟩
    all_goals
      rintro rfl
      cases hall
  intro c hc
  obtain rfl | rfl | hc | rfl : c = '$' ∨ c = '\x7b' ∨ c ∈ name ∨ c = '\x7d' := by
    simpa [reference] using hc
  · decide
  · decide
  · exact hchars c hc
  · decide

/-- A document with a reference for its text, when references are replaced. -/
theorem toList_substitute_document (env : Environment) {l : QuotedLine} {name : List Char}
    (hname : IsName name) (hfront : NoReference l.front) (hback : NoReference l.back) :
    (env.substitute (String.ofList (l.document (reference name)))).toList =
      l.document (env.valueOf name) := by
  rw [QuotedLine.document, substitute_reference env hname hfront hback, String.toList_ofList,
    QuotedLine.document]

/-- Where the path of the input is a reference to a variable that is set, the settings have the
value of that variable for their path, if every character of it stands for itself between quotation
marks. No other value gets there as it is. -/
theorem load_reference {l : QuotedLine} (hl : l.GivesInputPath) {name : List Char}
    (hname : IsName name) (hfront : NoReference l.front) (hback : NoReference l.back) {c : Batch}
    (hvalid : load Batch.ofDatum? (fun _ => none) (String.ofList (l.document (reference name))) =
      .ok c)
    (env : Environment) {value : String} (hvalue : env (String.ofList name) = some value) :
    (Verbatim value.toList →
      load Batch.ofDatum? env (String.ofList (l.document (reference name))) =
        .ok { c with input := { c.input with path := value } }) ∧
    ∀ c', load Batch.ofDatum? env (String.ofList (l.document (reference name))) = .ok c' →
      c'.input.path = value → Verbatim value.toList := by
  obtain ⟨ss, table, path, hreads, hforce, haddress⟩ := hl
  have hpath := ne_nil_of_keyPath? hreads.key
  simp only [load_eq_ok_iff, toList_substitute_document _ hname hfront hback] at hvalid ⊢
  -- A variable that is not set leaves its reference in place.
  have hunset : Environment.valueOf (fun _ => none) name = reference name := rfl
  have hset : env.valueOf name = value.toList := by rw [valueOf, hvalue]
  have hstart (rest : List Char) : reference name ++ l.back ≠ '"' :: '"' :: rest := by
    rw [reference]
    simp
  rw [hunset, QuotedLine.statements?_document_of_verbatim hreads (verbatim_reference hname) hstart]
    at hvalid
  rw [hset]
  simp only [Option.bind_eq_some_iff, Option.map_eq_some_iff] at hvalid
  obtain ⟨_, ⟨rest, hrest, more, hmore, rfl⟩, hvalid⟩ := hvalid
  have hafter : (lineEnd? l.after).isSome = true := by rw [hrest]; rfl
  constructor
  · intro hverbatim
    have hopen := append_ne_of_verbatim hverbatim hafter
    obtain ⟨-, hread⟩ := Batch.ofStatements?_inputPath hforce haddress hpath hvalid value
    rw [QuotedLine.statements?_document_of_verbatim hreads hverbatim hopen, hrest, Option.bind_some,
      hmore, Option.map_some, Option.bind_some, String.ofList_toList]
    exact hread
  · intro c' hload hc'
    rw [QuotedLine.statements?_document hreads] at hload
    simp only [Option.bind_eq_some_iff, Option.map_eq_some_iff, Prod.exists] at hload
    obtain ⟨_, ⟨text, tail, htext, _, -, _, -, rfl⟩, hload⟩ := hload
    obtain ⟨hread, -⟩ := Batch.ofStatements?_inputPath hforce haddress hpath hload value
    obtain rfl : text = value.toList := by
      rw [← hc', hread, String.toList_ofList]
    unfold quoted? at htext
    split at htext
    · rename_i hopen
      exact absurd (longText_of_longBasicBy htext) (not_longText_self hrest hmore hopen)
    · exact verbatim_of_basicBy htext

/-- A small settings text, cut at the path of its input. -/
def smallBatch : QuotedLine where
  before := "[batch]\nname = \"b\"\n[input]\n".toList
  key := "path ".toList
  gap := [' ']
  after := "\nendpoint_column = \"e\"\n[output]\npath = \"out\"\n".toList

theorem smallBatch_givesInputPath : smallBatch.GivesInputPath := by
  have hlines : statements? "[batch]\nname = \"b\"\n[input]".toList =
      some [.table ["batch"], .assign ["name"] (.text "b"), .table ["input"]] := rfl
  have hbefore : WholeLines smallBatch.before
      [.table ["batch"], .assign ["name"] (.text "b"), .table ["input"]] :=
    .lines hlines (.inl rfl)
  exact ⟨_, ["input"], ["path"], ⟨hbefore, rfl, rfl⟩, rfl, rfl⟩

theorem smallBatch_noReference : NoReference smallBatch.front ∧ NoReference smallBatch.back :=
  ⟨noReference_of_notMem (by decide +kernel), noReference_of_notMem (by decide +kernel)⟩

/-- The settings of a small text while its variable is not set. -/
theorem exists_load_smallBatch :
    ∃ c, load Batch.ofDatum? (fun _ => none)
      (String.ofList (smallBatch.document (reference ['N']))) = .ok c :=
  exists_eq_ok_of_isOk (by decide +kernel)

/-- A path without a character that has a meaning of its own. -/
theorem load_reference_of_plain_path :
    (∃ c, load Batch.ofDatum? (fun _ => some "data/in.csv")
      (String.ofList (smallBatch.document (reference ['N']))) = .ok c ∧
        c.input.path = "data/in.csv") ∧ Verbatim "data/in.csv".toList := by
  obtain ⟨hfront, hback⟩ := smallBatch_noReference
  obtain ⟨c, hvalid⟩ := exists_load_smallBatch
  obtain ⟨hplain, honly⟩ := load_reference smallBatch_givesInputPath ⟨⟨'N', rfl, rfl⟩, rfl⟩ hfront
    hback hvalid (fun _ => some "data/in.csv") rfl
  have hload := hplain (by decide +kernel)
  exact ⟨⟨_, hload, rfl⟩, honly _ hload rfl⟩

/-- A backslash between quotation marks has a meaning of its own, so not every value gets to the
settings as it is. -/
theorem not_forall_load_reference :
    ¬∀ (l : QuotedLine) (name : List Char) (c : Batch) (env : Environment) (value : String),
      l.GivesInputPath → IsName name → NoReference l.front → NoReference l.back →
      load Batch.ofDatum? (fun _ => none) (String.ofList (l.document (reference name))) = .ok c →
      '\x00' ∉ value.toList → env (String.ofList name) = some value →
      ∃ c', load Batch.ofDatum? env (String.ofList (l.document (reference name))) = .ok c' ∧
        c'.input.path = value := by
  intro hall
  obtain ⟨hfront, hback⟩ := smallBatch_noReference
  obtain ⟨c, hvalid⟩ := exists_load_smallBatch
  obtain ⟨c', hload, hpath⟩ := hall smallBatch ['N'] c (fun _ => some "C:\\temp") "C:\\temp"
    smallBatch_givesInputPath ⟨⟨'N', rfl, rfl⟩, rfl⟩ hfront hback hvalid (by decide +kernel) rfl
  have htab : (load Batch.ofDatum? (fun _ => some "C:\\temp")
      (String.ofList (smallBatch.document (reference ['N'])))).toOption.map (·.input.path) =
        some "C:\temp" := by
    decide +kernel
  rw [hload] at htab
  have hpath' := hpath.symm.trans (Option.some.inj htab)
  exact absurd hpath' (by decide)

end EndpointCountry.Config
