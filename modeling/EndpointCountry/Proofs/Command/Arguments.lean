import EndpointCountry.Command.Arguments
import EndpointCountry.Proofs.Entries

/-!
# Command lines that spell options out

Options under their long names, each given once, and operands behind two dashes are read as what
was given, whatever the values and the operands are.

* `Given` — an option as it is spelled and as it is read.
* `readFrom_cons_spelling` — one option.
* `readFrom_spelled`, `read_spelled` — a whole command line.
-/

namespace EndpointCountry.Command.Arguments

/-- An option on a command line, under its long name. -/
inductive Given where
  | flag (long : String)
  /-- The value follows an equals sign. -/
  | value (long text : String)

namespace Given

/-- How an option is spelled. -/
def spelling : Given → String
  | flag long => "--" ++ long
  | value long text => "--" ++ long ++ "=" ++ text

/-- What is kept of an option: its long name and its value. -/
def option : Given → String × String
  | flag long => (long, "")
  | value long text => (long, text)

/-- A command knows an option of that name, and it takes a value or not as the spelling has it. -/
def Known (usage : Usage) : Given → Prop
  | flag long => long ≠ "" ∧ '=' ∉ long.toList ∧
    ∃ switch, usage.switches.find? (·.long = long) = some switch ∧ switch.takesValue = false
  | value long _ => '=' ∉ long.toList ∧
    ∃ switch, usage.switches.find? (·.long = long) = some switch ∧ switch.takesValue = true

end Given

/-! ## Names before an equals sign -/

theorem splitEquals_of_notMem {name : List Char} (h : '=' ∉ name) :
    splitEquals name = (name, none) := by
  have hrest : name.dropWhile (· ≠ '=') = [] := by
    rw [List.dropWhile_eq_nil_iff]
    intro c hc
    exact decide_eq_true fun heq => h (heq ▸ hc)
  rw [splitEquals, hrest]

theorem splitEquals_append {name : List Char} (h : '=' ∉ name) (value : List Char) :
    splitEquals (name ++ '=' :: value) = (name, some value) := by
  have hname : ∀ c ∈ name, decide (c ≠ '=') = true := by
    intro c hc
    exact decide_eq_true fun heq => h (heq ▸ hc)
  have hrest : (name ++ '=' :: value).dropWhile (· ≠ '=') = '=' :: value := by
    rw [List.dropWhile_append_of_pos hname]
    rfl
  have hfront : (name ++ '=' :: value).takeWhile (· ≠ '=') = name := by
    rw [List.takeWhile_append_of_pos hname, List.takeWhile_cons_of_neg (by decide), List.append_nil]
  rw [splitEquals, hrest, hfront]

/-! ## Reading -/

section Reading

variable {usage : Usage} {a : Arguments}

/-- An option that was not given before is added. -/
theorem addOption_eq_ok {long : String} (h : long ∉ keysOf a.options) (value : String) :
    a.addOption long value = .ok { a with options := a.options ++ [(long, value)] } := by
  have hnew : a.has long = false := by
    rw [has, value?, lookup_eq_none_iff.2 h]
    rfl
  rw [addOption, if_neg (by simp [hnew])]

/-- A long option that is known is read as it is given, and the rest of the command line after
it. -/
theorem readFrom_cons_spelling {g : Given} (hknown : g.Known usage)
    (hnew : g.option.1 ∉ keysOf a.options) (rest : List String) :
    readFrom usage a none (g.spelling :: rest) =
      readFrom usage { a with options := a.options ++ [g.option] } none rest := by
  cases g with
  | flag long =>
    obtain ⟨hne, hequals, switch, hfind, htakes⟩ := hknown
    have hadd : a.addOption long "" = _ := addOption_eq_ok hnew ""
    have hlong : switch.long = long := by simpa using List.find?_some hfind
    obtain ⟨c, cs, hcs⟩ : ∃ c cs, long.toList = c :: cs :=
      List.exists_cons_of_ne_nil (by simpa using hne)
    have hread : readLong usage.switches a long.toList =
        .ok ({ a with options := a.options ++ [(long, "")] }, none) := by
      rw [readLong, splitEquals_of_notMem hequals]
      simp [hfind, htakes, hlong, hadd, Except.map, Given.option]
    rw [hcs] at hread
    have htext : (Given.flag long).spelling.toList = '-' :: '-' :: c :: cs := by
      rw [Given.spelling, String.toList_append, hcs]
      rfl
    simp [readFrom, htext, hread, Given.option]
  | value long text =>
    obtain ⟨hequals, switch, hfind, htakes⟩ := hknown
    have hadd : a.addOption long text = _ := addOption_eq_ok hnew text
    have hlong : switch.long = long := by simpa using List.find?_some hfind
    have hread : readLong usage.switches a (long.toList ++ '=' :: text.toList) =
        .ok ({ a with options := a.options ++ [(long, text)] }, none) := by
      rw [readLong, splitEquals_append hequals]
      simp [hfind, htakes, hlong, hadd, Except.map, Given.option]
    obtain ⟨c, cs, hcs⟩ : ∃ c cs, long.toList ++ '=' :: text.toList = c :: cs :=
      List.exists_cons_of_ne_nil (by simp)
    rw [hcs] at hread
    have htext : (Given.value long text).spelling.toList = '-' :: '-' :: c :: cs := by
      rw [← hcs, Given.spelling]
      simp
    simp [readFrom, htext, hread, Given.option]

/-- Options that are known and given once, and operands behind two dashes, are read as they are
given. -/
theorem readFrom_spelled (husage : usage.takesOperands = true) {given : List Given}
    (hknown : ∀ g ∈ given, g.Known usage)
    (hdistinct : (keysOf (a.options ++ given.map Given.option)).Nodup) (operands : List String) :
    readFrom usage a none (given.map Given.spelling ++ "--" :: operands) =
      .ok ⟨a.options ++ given.map Given.option, a.operands ++ operands⟩ := by
  induction given generalizing a with
  | nil => simp [readFrom, addOperands, husage]
  | cons g rest ih =>
    obtain ⟨hg, hrest⟩ := List.forall_mem_cons.1 hknown
    have hnew : g.option.1 ∉ keysOf a.options := by
      intro hmem
      rw [keysOf, List.map_append, List.nodup_append] at hdistinct
      exact hdistinct.2.2 _ hmem _ (by simp) rfl
    rw [List.map_cons, List.cons_append, readFrom_cons_spelling hg hnew,
      ih hrest (by simpa using hdistinct), List.map_cons, List.append_assoc, List.singleton_append]

theorem read_spelled (husage : usage.takesOperands = true) {given : List Given}
    (hknown : ∀ g ∈ given, g.Known usage) (hdistinct : (keysOf (given.map Given.option)).Nodup)
    (operands : List String) :
    read usage (given.map Given.spelling ++ "--" :: operands) =
      .ok ⟨given.map Given.option, operands⟩ := by
  have hread := readFrom_spelled (a := {}) husage hknown hdistinct operands
  exact hread

end Reading

end EndpointCountry.Command.Arguments
