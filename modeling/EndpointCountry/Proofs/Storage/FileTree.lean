import EndpointCountry.Proofs.Path
import EndpointCountry.Proofs.Steps
import EndpointCountry.Proofs.Storage
import EndpointCountry.Storage.FileTree

/-!
# Files in a tree

A path leads through the directories of a tree, perhaps up and down again, to the names of what it
is about. Writing to it makes directories and puts one file in its place. So the directories that
were there are still there, every other file is as it was, and a path that led to a file leads to
it still. Which file that is, the last part of the path tells in part: it is the last of the names.

* `Entry.Room`, `Entry.find?_put_self`, `Entry.exists_find?_put` — putting an entry in its place.
* `Position.Stands`, `Position.enter_eq_ok_iff`, `Position.exists_follow_eq_ok` — walks, and the
  same walk in a tree that keeps the directories.
* `Grown`, `grown_put`, `grown_ensureDirectories` — what becomes of a tree.
* `Leads`, `Leads.read`, `Leads.grown` — paths to files, which stay paths to these files.
* `leads_of_write`, `leads_of_writeWithDirectories` — what a write does.
* `exec_read`, `exec_write`, `readsFiles`, `readsBack`, `apart` — the laws of the storage of a tree.
-/

namespace EndpointCountry.Storage

namespace Entry

/-! ## Putting an entry in its place -/

theorem find?_nil (entry : Entry) : entry.find? [] = some entry := by
  cases entry <;> rfl

theorem find?_append (entry : Entry) (names more : List (List Char)) :
    entry.find? (names ++ more) = (entry.find? names).bind (·.find? more) := by
  induction names generalizing entry with
  | nil => rw [List.nil_append, find?_nil, Option.bind_some]
  | cons name names ih =>
    cases entry with
    | file content => rfl
    | directory entries =>
      rw [List.cons_append, find?, find?]
      cases entries.lookup name with
      | none => rfl
      | some inner => exact ih inner

section Put

variable {entries : List (List Char × Entry)} {root new : Entry} {name : List Char}
  {names : List (List Char)}

theorem find?_put_cons_self (more : List (List Char)) :
    ((directory entries).put new (name :: names)).find? (name :: more) =
      (put ((entries.lookup name).getD empty) new names).find? more := by
  simp [put, find?]

theorem find?_put_cons_of_ne {other : List Char} (h : other ≠ name) (more : List (List Char)) :
    ((directory entries).put new (name :: names)).find? (other :: more) =
      (directory entries).find? (other :: more) := by
  have hlookup : (entries.filter (·.1 ≠ name)).lookup other = entries.lookup other := by
    induction entries with
    | nil => rfl
    | cons e rest ih =>
      by_cases he : e.1 = name
      · have hne : (other == e.1) = false := beq_eq_false_iff_ne.2 (he ▸ h)
        rw [List.filter_cons_of_neg (by simpa using he), ih, List.lookup_cons, hne]
      · rw [List.filter_cons_of_pos (by simpa using he), List.lookup_cons, List.lookup_cons, ih]
  have hne : (other == name) = false := beq_eq_false_iff_ne.2 h
  rw [put, find?, find?, List.lookup_cons, hne, hlookup]

/-- There is room for an entry where names lead: the directory that it goes into is there, and no
directory stands in its place. -/
inductive Room : Entry → List (List Char) → Prop where
  | here {entries : List (List Char × Entry)} {name : List Char} :
    (∀ held, entries.lookup name ≠ some (directory held)) → Room (directory entries) [name]
  | inside {entries : List (List Char × Entry)} {name : List Char} {inner : Entry}
    {names : List (List Char)} :
    entries.lookup name = some inner → Room inner names → Room (directory entries) (name :: names)

/-- Both are directories, or both are the same file. -/
inductive Alike : Entry → Entry → Prop where
  | file (content : ByteArray) : Alike (file content) (file content)
  | directory (held held' : List (List Char × Entry)) : Alike (directory held) (directory held')

theorem Alike.refl (entry : Entry) : Alike entry entry := by
  cases entry with
  | file content => exact .file content
  | directory held => exact .directory held held

theorem room_of_find? {outer : List (List Char)} (h : root.find? outer = some (directory entries))
    (hfree : ∀ held, entries.lookup name ≠ some (directory held)) : Room root (outer ++ [name]) := by
  induction outer generalizing root with
  | nil =>
    rw [find?_nil] at h
    cases h
    exact .here hfree
  | cons first outer ih =>
    cases root with
    | file content => cases h
    | directory top =>
      obtain ⟨inner, hinner, h⟩ := Option.bind_eq_some_iff.1 h
      exact .inside hinner (ih h)

theorem find?_put_self (h : Room root names) : (root.put new names).find? names = some new := by
  induction h with
  | here => rw [find?_put_cons_self, find?_nil, put]
  | inside hlookup _ ih => rw [find?_put_cons_self, hlookup, Option.getD_some, ih]

theorem Room.find?_ne_directory (h : Room root names) (held : List (List Char × Entry)) :
    root.find? names ≠ some (directory held) := by
  induction h with
  | here hfree =>
    intro hfound
    obtain ⟨inner, hinner, hfound⟩ := Option.bind_eq_some_iff.1 hfound
    rw [find?_nil] at hfound
    exact hfree held (hinner.trans hfound)
  | inside hlookup _ ih =>
    intro hfound
    rw [find?, hlookup] at hfound
    exact ih hfound

/-- What stands elsewhere stays: files as they are, and directories as directories. -/
theorem exists_find?_put (new : Entry) (h : Room root names) {other : List (List Char)}
    (hne : other ≠ names) {entry : Entry} (hentry : root.find? other = some entry) :
    ∃ entry', (root.put new names).find? other = some entry' ∧ entry.Alike entry' := by
  induction h generalizing other with
  | @here entries name hfree =>
    cases other with
    | nil =>
      cases hentry
      exact ⟨_, rfl, .directory _ _⟩
    | cons first more =>
      by_cases hfirst : first = name
      · -- nothing stands below the new entry's place, which is no directory
        subst hfirst
        obtain ⟨inner, hinner, hentry⟩ := Option.bind_eq_some_iff.1 hentry
        cases inner with
        | directory held => exact absurd hinner (hfree held)
        | file content =>
          cases more with
          | nil => exact absurd rfl hne
          | cons second more => cases hentry
      · exact ⟨entry, (find?_put_cons_of_ne hfirst more).trans hentry, .refl entry⟩
  | @inside entries name inner names hlookup _ ih =>
    cases other with
    | nil =>
      cases hentry
      exact ⟨_, rfl, .directory _ _⟩
    | cons first more =>
      by_cases hfirst : first = name
      · subst hfirst
        rw [find?, hlookup, Option.bind_some] at hentry
        rw [find?_put_cons_self, hlookup, Option.getD_some]
        exact ih (fun hmore => hne (congrArg _ hmore)) hentry
      · exact ⟨entry, (find?_put_cons_of_ne hfirst more).trans hentry, .refl entry⟩

end Put

end Entry

/-! ## Walks -/

namespace Position

/-- A position that a walk from the root of a tree can come to. -/
inductive Stands (root : Entry) : Position → Prop where
  | root : Stands root ⟨[], some root, []⟩
  | inside {names : List (List Char)} {entries : List (List Char × Entry)} {above : List Entry}
    (name : List Char) :
    Stands root ⟨names, some (.directory entries), above⟩ →
    Stands root ⟨name :: names, entries.lookup name, .directory entries :: above⟩

/-- Every directory of a tree is a directory in another one. -/
def KeepsDirectories (root root' : Entry) : Prop :=
  ∀ names held, root.find? names = some (.directory held) →
    ∃ held', root'.find? names = some (.directory held')

variable {root root' : Entry} {p p' q : Position} {name : List Char}

theorem Stands.entry?_eq (h : Stands root p) : p.entry? = root.find? p.names.reverse := by
  induction h with
  | root => exact (Entry.find?_nil root).symm
  | @inside names entries above name houter ih =>
    have houter : root.find? names.reverse = some (.directory entries) := ih.symm
    rw [List.reverse_cons, Entry.find?_append, houter, Option.bind_some, Entry.find?]
    cases entries.lookup name with
    | none => rfl
    | some inner => exact (Entry.find?_nil inner).symm

theorem entries_eq_ok_iff {entries : List (List Char × Entry)} :
    p.entries = .ok entries ↔ p.entry? = some (.directory entries) := by
  unfold Position.entries
  split <;> simp_all

/-- The steps of a walk. Each starts at a directory. -/
inductive Enters (p : Position) (entries : List (List Char × Entry)) :
    List Char → Position → Prop where
  | stay : Enters p entries ['.'] p
  /-- The root is in itself. -/
  | top : p.above = [] → Enters p entries ['.', '.'] p
  | up {outer : Entry} {above : List Entry} :
    p.above = outer :: above → Enters p entries ['.', '.'] ⟨p.names.drop 1, some outer, above⟩
  | down {name : List Char} :
    name ≠ ['.'] → name ≠ ['.', '.'] → byteLength name ≤ maxName →
    Enters p entries name ⟨name :: p.names, entries.lookup name, .directory entries :: p.above⟩

theorem enter_eq_ok_iff :
    p.enter name = .ok q ↔
      ∃ entries, p.entry? = some (.directory entries) ∧ Enters p entries name q := by
  unfold Position.enter
  rw [bind_eq_ok_iff]
  refine exists_congr fun entries => ?_
  rw [entries_eq_ok_iff]
  refine and_congr_right fun _ => ⟨fun h => ?_, fun h => ?_⟩
  · split at h
    · rename_i hdot
      cases h
      rw [hdot]
      exact .stay
    split at h
    · rename_i hdots
      rw [hdots]
      split at h
      · rename_i habove
        cases h
        exact .top habove
      · rename_i habove
        cases h
        exact .up habove
    split at h
    · cases h
    · rename_i hdot hdots hshort
      cases h
      exact .down hdot hdots (Nat.le_of_not_lt hshort)
  · cases h with
    | stay => exact if_pos rfl
    | top habove =>
      rw [if_neg (by decide), if_pos rfl, habove]
    | up habove =>
      rw [if_neg (by decide), if_pos rfl, habove]
    | down hdot hdots hshort => rw [if_neg hdot, if_neg hdots, if_neg (Nat.not_lt.2 hshort)]

theorem Stands.enter (hp : Stands root p) (h : p.enter name = .ok q) : Stands root q := by
  obtain ⟨entries, hentries, h⟩ := enter_eq_ok_iff.1 h
  cases h with
  | stay => exact hp
  | top => exact hp
  | up habove =>
    cases hp with
    | root => cases habove
    | inside last houter =>
      cases habove
      exact houter
  | down =>
    obtain ⟨names, entry?, above⟩ := p
    obtain rfl : entry? = some (.directory entries) := hentries
    exact .inside name hp

/-- A step that a walk takes in one tree it takes in every tree that keeps the directories. -/
theorem exists_enter_eq_ok (hp : Stands root p) (hp' : Stands root' p') (hnames : p'.names = p.names)
    (hkeeps : KeepsDirectories root root') (h : p.enter name = .ok q) :
    ∃ q', p'.enter name = .ok q' ∧ q'.names = q.names := by
  obtain ⟨entries, hentries, h⟩ := enter_eq_ok_iff.1 h
  obtain ⟨entries', hentries'⟩ : ∃ entries', p'.entry? = some (.directory entries') := by
    rw [hp'.entry?_eq, hnames]
    exact hkeeps _ _ (hp.entry?_eq.symm.trans hentries)
  suffices hstep : ∃ q', Enters p' entries' name q' ∧ q'.names = q.names by
    obtain ⟨q', hq', hnames'⟩ := hstep
    exact ⟨q', enter_eq_ok_iff.2 ⟨entries', hentries', hq'⟩, hnames'⟩
  cases h with
  | stay => exact ⟨p', .stay, hnames⟩
  | top habove =>
    cases hp with
    | inside => cases habove
    | root =>
      cases hp' with
      | inside => cases hnames
      | root => exact ⟨_, .top rfl, rfl⟩
  | up habove =>
    cases hp with
    | root => cases habove
    | inside last =>
      cases hp' with
      | root => cases hnames
      | inside last' => exact ⟨_, .up rfl, congrArg (List.drop 1) hnames⟩
  | down hdot hdots hshort =>
    exact ⟨_, .down hdot hdots hshort, List.cons_eq_cons.2 ⟨rfl, hnames⟩⟩

theorem Stands.follow {parts : List (List Char)} (hp : Stands root p)
    (h : p.follow parts = .ok q) : Stands root q := by
  unfold Position.follow at h
  generalize parts.filter (· ≠ []) = steps at h
  induction steps generalizing p with
  | nil =>
    cases h
    exact hp
  | cons name steps ih =>
    obtain ⟨mid, hmid, h⟩ := bind_eq_ok_iff.1 (List.foldlM_cons.symm.trans h)
    exact ih (hp.enter hmid) h

theorem exists_follow_eq_ok {parts : List (List Char)} (hp : Stands root p)
    (hp' : Stands root' p') (hnames : p'.names = p.names)
    (hkeeps : KeepsDirectories root root') (h : p.follow parts = .ok q) :
    ∃ q', p'.follow parts = .ok q' ∧ q'.names = q.names := by
  unfold Position.follow at h ⊢
  generalize parts.filter (· ≠ []) = steps at h ⊢
  induction steps generalizing p p' with
  | nil =>
    cases h
    exact ⟨p', rfl, hnames⟩
  | cons name steps ih =>
    obtain ⟨mid, hmid, h⟩ := bind_eq_ok_iff.1 (List.foldlM_cons.symm.trans h)
    obtain ⟨mid', hmid', hnames'⟩ := exists_enter_eq_ok hp hp' hnames hkeeps hmid
    obtain ⟨q', hq', hq⟩ := ih (hp.enter hmid) (hp'.enter hmid') hnames' h
    exact ⟨q', List.foldlM_cons.trans (bind_eq_ok_iff.2 ⟨mid', hmid', hq'⟩), hq⟩

end Position

/-! ## Trees that grow -/

namespace FileTree

open Position (Stands KeepsDirectories)

variable {t t' t'' : FileTree} {path : List Char} {written written' : List (List (List Char))}

/-- A tree that was made from another one: directories are still directories, and files are as they
were, but for those at the names that were written. -/
structure Grown (written : List (List (List Char))) (t t' : FileTree) : Prop where
  working : t'.working = t.working
  directories : KeepsDirectories t.root t'.root
  files : ∀ names content, names ∉ written → t.root.find? names = some (.file content) →
    t'.root.find? names = some (.file content)

theorem Grown.refl (t : FileTree) : Grown [] t t :=
  ⟨rfl, fun _ held h => ⟨held, h⟩, fun _ _ _ h => h⟩

theorem Grown.trans (h : Grown written t t') (h' : Grown written' t' t'') :
    Grown (written ++ written') t t'' := by
  refine ⟨h'.working.trans h.working, fun names held hheld => ?_, fun names content hnames hfile => ?_⟩
  · obtain ⟨held', hheld'⟩ := h.directories names held hheld
    exact h'.directories names held' hheld'
  · obtain ⟨hfirst, hsecond⟩ := not_or.1 (mt List.mem_append.2 hnames)
    exact h'.files names content hsecond (h.files names content hfirst hfile)

/-- A tree has grown by an entry for which there was room. -/
theorem grown_put {p : Position} (hroom : Entry.Room t.root p.names.reverse) (entry : Entry) :
    Grown [p.names.reverse] t (t.put p entry) := by
  refine ⟨rfl, fun names held hheld => ?_, fun names content hnames hfile => ?_⟩
  · have hne : names ≠ p.names.reverse := by
      rintro rfl
      exact hroom.find?_ne_directory held hheld
    obtain ⟨_, hfound, halike⟩ := Entry.exists_find?_put entry hroom hne hheld
    cases halike with
    | directory _ held' => exact ⟨held', hfound⟩
  · obtain ⟨_, hfound, halike⟩ :=
      Entry.exists_find?_put entry hroom (List.ne_of_not_mem_cons hnames) hfile
    cases halike with
    | file => exact hfound

/-- Where a path leads along some parts. -/
def reach (t : FileTree) (path : List Char) (parts : List (List Char)) :
    Except Refusal Position := do
  (← t.start path).follow parts

theorem stands_of_start {p : Position} (h : t.start path = .ok p) : Stands t.root p := by
  unfold start at h
  simp only at h
  split at h
  · cases h
    exact .root
  · exact Stands.root.follow h

theorem stands_of_reach {parts : List (List Char)} {p : Position}
    (h : t.reach path parts = .ok p) : Stands t.root p := by
  obtain ⟨start, hstart, h⟩ := bind_eq_ok_iff.1 h
  exact (stands_of_start hstart).follow h

/-- Where a path leads, it still leads when the tree has grown. -/
theorem Grown.exists_reach_eq_ok (hgrown : Grown written t t') {parts : List (List Char)}
    {p : Position} (h : t.reach path parts = .ok p) :
    ∃ p', t'.reach path parts = .ok p' ∧ p'.names = p.names := by
  obtain ⟨start, hstart, h⟩ := bind_eq_ok_iff.1 h
  obtain ⟨start', hstart', hnames⟩ :
      ∃ start', t'.start path = .ok start' ∧ start'.names = start.names := by
    unfold FileTree.start at hstart ⊢
    simp only at hstart ⊢
    split at hstart
    · rename_i habsolute
      cases hstart
      exact ⟨_, if_pos habsolute, rfl⟩
    · rename_i hrelative
      have hroot : Stands t.root ⟨[], some t.root, []⟩ := .root
      have hroot' : Stands t'.root ⟨[], some t'.root, []⟩ := .root
      rw [if_neg hrelative, hgrown.working]
      exact Position.exists_follow_eq_ok hroot hroot' rfl hgrown.directories hstart
  obtain ⟨p', hp', hnames'⟩ := Position.exists_follow_eq_ok (stands_of_start hstart)
    (stands_of_start hstart') hnames hgrown.directories h
  exact ⟨p', bind_eq_ok_iff.2 ⟨start', hstart', hp'⟩, hnames'⟩

/-! ## New entries -/

/-- There is room for a new entry in the directory that a path leads to. -/
theorem reach_of_approach {directory p : Position} {name : List Char}
    (happroach : t.approach path = .ok (directory, name)) (hnew : isNew name = true)
    (henter : directory.enter name = .ok p) (hfree : ∀ held, p.entry? ≠ some (.directory held)) :
    checkPath path = .ok () ∧ t.reach path (Path.splitSlash path) = .ok p ∧
      p.names = name :: directory.names ∧ Entry.Room t.root p.names.reverse ∧
      ((Path.splitSlash path).filter (· ≠ [])).getLast? = some name := by
  unfold approach at happroach
  simp only [bind_eq_ok_iff] at happroach
  obtain ⟨_, hcheck, start, hstart, directory, hfollow, _, -, hlast⟩ := happroach
  obtain ⟨rfl, hname⟩ := Prod.mk.inj (Except.ok.inj hlast)
  have hlast : ((Path.splitSlash path).filter (· ≠ [])).getLast? = some name := by
    cases hfound : ((Path.splitSlash path).filter (· ≠ [])).getLast? with
    | none =>
      rw [hfound, Option.getD_none] at hname
      rw [← hname] at hnew
      exact absurd hnew (by decide)
    | some last =>
      rw [hfound, Option.getD_some] at hname
      rw [hname]
  have hstands : Stands t.root directory := (stands_of_start hstart).follow hfollow
  obtain ⟨held, hheld, hstep⟩ := Position.enter_eq_ok_iff.1 henter
  cases hstep with
  | stay => exact absurd hnew (by decide)
  | top => exact absurd hnew (by decide)
  | up => exact absurd hnew (by decide)
  | down =>
    have hdirectory : t.root.find? directory.names.reverse = some (.directory held) :=
      hstands.entry?_eq.symm.trans hheld
    refine ⟨hcheck, bind_eq_ok_iff.2 ⟨start, hstart, ?_⟩, rfl, ?_, hlast⟩
    · obtain ⟨front, hsplit⟩ := List.getLast?_eq_some_iff.1 hlast
      have hfront : front.filter (· ≠ []) = front := by
        rw [List.filter_eq_self]
        intro part hpart
        have hmem : part ∈ (Path.splitSlash path).filter (· ≠ []) := by
          rw [hsplit]
          exact List.mem_append_left _ hpart
        exact (List.mem_filter.1 hmem).2
      rw [hsplit, List.dropLast_concat] at hfollow
      unfold Position.follow at hfollow ⊢
      rw [hfront] at hfollow
      rw [hsplit, List.foldlM_append]
      refine bind_eq_ok_iff.2 ⟨directory, hfollow, ?_⟩
      rw [List.foldlM_cons, henter]
      rfl
    · rw [List.reverse_cons]
      exact Entry.room_of_find? hdirectory hfree

/-- A tree in which a directory was made has grown, and no file has changed. -/
theorem grown_makeDirectory (h : t.makeDirectory path = .ok t') : Grown [] t t' := by
  unfold makeDirectory at h
  obtain ⟨⟨directory, name⟩, happroach, h⟩ := bind_eq_ok_iff.1 h
  dsimp only at h
  split at h
  · cases h
  rename_i hnew
  rw [not_not] at hnew
  obtain ⟨p, henter, h⟩ := bind_eq_ok_iff.1 h
  split at h
  · rename_i hnone
    cases h
    have hfree : ∀ held, p.entry? ≠ some (.directory held) := by
      rw [hnone]
      exact fun _ => nofun
    obtain ⟨-, hreach, -, hroom, -⟩ := reach_of_approach happroach hnew henter hfree
    have hgrown : Grown [p.names.reverse] t (t.put p .empty) := grown_put hroom .empty
    refine ⟨hgrown.working, hgrown.directories, fun names content _ hfile => ?_⟩
    refine hgrown.files names content (fun hmem => ?_) hfile
    rw [List.mem_singleton.1 hmem, ← (stands_of_reach hreach).entry?_eq, hnone] at hfile
    cases hfile
  · cases h

theorem grown_ensureDirectory (h : t.ensureDirectory path = .ok t') : Grown [] t t' := by
  unfold ensureDirectory at h
  split at h
  · rename_i hmade
    cases h
    exact grown_makeDirectory hmade
  · split at h
    · cases h
      exact .refl t
    · cases h

/-- Making directories changes no file, whether it goes through or not. -/
theorem grown_ensureDirectories (parts : List (List Char)) (t : FileTree) :
    Grown [] t (ensureDirectories parts t).1 := by
  induction parts with
  | nil => exact .refl t
  | cons part outer ih =>
    unfold ensureDirectories
    simp only
    split
    · exact ih
    split
    · rename_i hmade
      exact grown_makeDirectory hmade
    · split
      · rename_i houter
        rw [houter] at ih
        exact ih
      · rename_i mid houter
        rw [houter] at ih
        split
        · rename_i hensured
          exact ih.trans (grown_ensureDirectory hensured)
        · exact ih
    · split
      · exact .refl t
      · exact .refl t

/-! ## Files that can be read back -/

/-- A path leads to a file at some names. -/
structure Leads (t : FileTree) (path : List Char) (names : List (List Char))
    (content : ByteArray) : Prop where
  checked : checkPath path = .ok ()
  reached : ∃ p, t.reach path (parts path) = .ok p ∧ p.names.reverse = names
  file : t.root.find? names = some (.file content)

variable {names : List (List Char)} {content : ByteArray}

theorem Leads.read (h : Leads t path names content) : t.read path = .ok content := by
  obtain ⟨p, hreach, rfl⟩ := h.reached
  have hentry : p.entry? = some (.file content) :=
    (stands_of_reach hreach).entry?_eq.trans h.file
  have hfind : t.find path = .ok (.file content) := by
    obtain ⟨start, hstart, hfollow⟩ := bind_eq_ok_iff.1 hreach
    refine bind_eq_ok_iff.2 ⟨(), h.checked, bind_eq_ok_iff.2 ⟨start, hstart,
      bind_eq_ok_iff.2 ⟨p, hfollow, ?_⟩⟩⟩
    simp only [hentry]
  rw [FileTree.read, hfind]

/-- A path leads to its file as long as nothing is written at the same names. -/
theorem Leads.grown (h : Leads t path names content) (hgrown : Grown written t t')
    (hnames : names ∉ written) : Leads t' path names content := by
  obtain ⟨p, hreach, rfl⟩ := h.reached
  obtain ⟨p', hreach', hsame⟩ := hgrown.exists_reach_eq_ok hreach
  exact ⟨h.checked, ⟨p', hreach', congrArg _ hsame⟩, hgrown.files _ _ hnames h.file⟩

theorem ne_nil_of_checkPath (h : checkPath path = .ok ()) : path ≠ [] := by
  rintro rfl
  cases h

/-- A file that is written gets the last part of its path for a name. -/
theorem leads_of_write (h : t.write path content = .ok t') :
    Path.isName (Path.lastPart path) = true ∧ Path.lastPart path ≠ ['.', '.'] ∧
      ∃ names, names.getLast? = some (Path.lastPart path) ∧ Grown [names] t t' ∧
        Leads t' path names content := by
  unfold write at h
  obtain ⟨⟨directory, name⟩, happroach, h⟩ := bind_eq_ok_iff.1 h
  dsimp only at h
  split at h
  · cases h
  rename_i hallowed
  obtain ⟨hnew, hslash⟩ := not_or.1 hallowed
  rw [not_not] at hnew
  obtain ⟨p, henter, h⟩ := bind_eq_ok_iff.1 h
  split at h
  · cases h
  rename_i hfile
  cases h
  obtain ⟨hcheck, hreach, hnames, hroom, hlast⟩ :=
    reach_of_approach happroach hnew henter fun held hheld => hfile held hheld
  have hpart : Path.lastPart path ≠ [] := fun hnil =>
    (Path.eq_nil_or_getLast?_of_lastPart hnil).elim (ne_nil_of_checkPath hcheck) hslash
  have hsplit : Path.splitSlash path = (Path.splitSlash path).dropLast ++ [Path.lastPart path] :=
    (List.dropLast_append_getLast (Path.splitSlash_ne_nil path)).symm
  obtain rfl : Path.lastPart path = name := by
    rw [hsplit, List.filter_append, List.filter_cons_of_pos (by simpa using hpart)] at hlast
    rw [List.filter_nil, List.getLast?_concat] at hlast
    exact Option.some.inj hlast
  have hparts : parts path = Path.splitSlash path := by
    rw [parts, if_neg]
    rw [hsplit, List.getLast?_concat]
    exact fun hnil => hpart (Option.some.inj hnil)
  obtain ⟨hdot, hdots⟩ : Path.lastPart path ≠ ['.'] ∧ Path.lastPart path ≠ ['.', '.'] := by
    simpa [isNew] using hnew
  have hgrown : Grown [p.names.reverse] t (t.put p (.file content)) := grown_put hroom _
  obtain ⟨p', hreach', hsame⟩ := hgrown.exists_reach_eq_ok hreach
  refine ⟨by simp [Path.isName, hpart, hdot], hdots, p.names.reverse, ?_, hgrown, hcheck, ?_, ?_⟩
  · rw [hnames, List.reverse_cons, List.getLast?_concat]
  · exact ⟨p', hparts ▸ hreach', congrArg _ hsame⟩
  · exact Entry.find?_put_self hroom

/-- A write that goes through puts a file in its place; any other one changes no file. -/
theorem leads_of_writeWithDirectories {r : Except Refusal Unit}
    (h : t.writeWithDirectories path content = (t', r)) :
    (r = .ok () ∧ Path.isName (Path.lastPart path) = true ∧ Path.lastPart path ≠ ['.', '.'] ∧
      ∃ names, names.getLast? = some (Path.lastPart path) ∧ Grown [names] t t' ∧
        Leads t' path names content) ∨
    (r ≠ .ok () ∧ Grown [] t t') := by
  have hdirectories := grown_ensureDirectories (Path.outerPartsL path) t
  unfold writeWithDirectories at h
  split at h
  · rename_i hmade
    cases h
    rw [hmade] at hdirectories
    exact .inr ⟨nofun, hdirectories⟩
  · rename_i mid hmade
    rw [hmade] at hdirectories
    split at h
    · rename_i hwrite
      cases h
      obtain ⟨hname, hdots, names, hlast, hgrown, hleads⟩ := leads_of_write hwrite
      exact .inl ⟨rfl, hname, hdots, names, hlast, hdirectories.trans hgrown, hleads⟩
    · cases h
      exact .inr ⟨nofun, hdirectories⟩

/-! ## The storage of a tree -/

variable {base : String}

theorem exec_read (base path : String) (t : FileTree) :
    exec ((storage base).read path) t =
      ((t.read (Path.join base path).toList).mapError .storage, t) := by
  have hget : exec (get : ExceptT Fault (StateM FileTree) FileTree) t = (.ok t, t) := rfl
  unfold storage
  rw [exec_bind]
  simp only [hget]
  cases t.read (Path.join base path).toList <;> rfl

theorem readsFiles (base : String) : (storage base).ReadsFiles := by
  constructor
  · intro path t r t' h
    rw [exec_read, Prod.mk.injEq] at h
    exact h.2.symm
  · intro path t fault t' h
    rw [exec_read, Prod.mk.injEq, mapError_eq_error_iff] at h
    obtain ⟨⟨refusal, -, rfl⟩, -⟩ := h
    exact ⟨refusal, rfl⟩

theorem exec_write (base path : String) (content : ByteArray) (t : FileTree) :
    exec ((storage base).write path content) t =
      ((t.writeWithDirectories (Path.join base path).toList content).2.mapError .storage,
        (t.writeWithDirectories (Path.join base path).toList content).1) := by
  have hget : exec (get : ExceptT Fault (StateM FileTree) FileTree) t = (.ok t, t) := rfl
  have hset (t' : FileTree) :
      exec (set t' : ExceptT Fault (StateM FileTree) PUnit) t = (.ok (), t') := rfl
  unfold storage
  rw [exec_bind]
  simp only [hget]
  rw [exec_bind]
  simp only [hset]
  cases (t.writeWithDirectories (Path.join base path).toList content).2 <;> rfl

theorem exec_write_eq_ok_iff {path : String} :
    exec ((storage base).write path content) t = (.ok (), t') ↔
      t.writeWithDirectories (Path.join base path).toList content = (t', .ok ()) := by
  rw [exec_write, Prod.mk.injEq, mapError_eq_ok_iff, Prod.ext_iff]
  exact and_comm

/-- Nothing can be written where a path ends in no name. -/
theorem isName_of_exec_write {path : String}
    (h : exec ((storage base).write path content) t = (.ok (), t')) :
    Path.isName (Path.lastPart path.toList) = true := by
  rw [← Path.lastPart_join base]
  obtain ⟨-, hname, -⟩ | ⟨hfailed, -⟩ := leads_of_writeWithDirectories (exec_write_eq_ok_iff.1 h)
  · exact hname
  · exact absurd rfl hfailed

theorem readsBack (base path : String) : (storage base).ReadsBack path := by
  intro content t t' h
  obtain ⟨-, -, -, _, -, -, hleads⟩ | ⟨hfailed, -⟩ :=
    leads_of_writeWithDirectories (exec_write_eq_ok_iff.1 h)
  · rw [exec_read, hleads.read]
    rfl
  · exact absurd rfl hfailed

/-- Two paths with different last parts lead to two files of a tree. -/
theorem apart {path other : String} (hne : Path.lastPart path.toList ≠ Path.lastPart other.toList) :
    (storage base).Apart path other := by
  intro content content' t mid r t' hfirst hsecond
  obtain ⟨-, -, -, names, hlast, -, hleads⟩ | ⟨hfailed, -⟩ :=
    leads_of_writeWithDirectories (exec_write_eq_ok_iff.1 hfirst)
  · cases hwrite : mid.writeWithDirectories (Path.join base other).toList content' with
    | mk t₂ done =>
      rw [exec_write, hwrite] at hsecond
      obtain ⟨rfl, rfl⟩ := Prod.mk.inj hsecond
      obtain ⟨-, -, -, names', hlast', hgrown, hleads'⟩ | ⟨hfailed, hgrown⟩ :=
        leads_of_writeWithDirectories hwrite
      · have hnames : names ∉ [names'] := by
          intro hmem
          rw [List.mem_singleton.1 hmem, hlast', Path.lastPart_join, Path.lastPart_join] at hlast
          exact hne (Option.some.inj hlast).symm
        rw [exec_read, exec_read, (hleads.grown hgrown hnames).read, hleads'.read]
        exact ⟨rfl, fun _ => rfl⟩
      · rw [exec_read, (hleads.grown hgrown List.not_mem_nil).read]
        exact ⟨rfl, fun hok => absurd (mapError_eq_ok_iff.1 hok) hfailed⟩
  · exact absurd rfl hfailed

end FileTree

end EndpointCountry.Storage
