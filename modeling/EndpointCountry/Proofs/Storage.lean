import Mathlib
import EndpointCountry.Storage

/-!
# Work over storages

Work over a storage runs from a state to a state and may stop with a fault. A storage keeps what it
is given when a file that was written reads as it was written, until that path is written again.
Any storage can be watched: a record beside its state tells which writes took effect.

* `exec`, `exec_bind_cases`, `exec_bind_eq_ok_iff` — running work from a state, step by step.
* `ReadsBack` — a path that reads as what was written to it.
* `Keeps`, `Memory.keeps` — the law of keeping what is given; files in memory obey it.
* `Apart`, `Keeps.apart` — paths that lead to two files.
* `recording`, `exec_read_recording`, `exec_write_recording` — a storage that is watched.
* `ReadsFiles`, `Memory.readsFiles` — storages that read as files do.
* `Steady`, `Steady.after_read`, `Steady.after_write` — where only writes that took effect change
  anything, the record accounts for the state.
-/

namespace EndpointCountry.Storage

variable {σ α β : Type}

/-- What work over a storage gives from a state, and the state it leaves. -/
def exec (x : ExceptT Fault (StateM σ) α) (s : σ) : Except Fault α × σ :=
  x.run.run s

theorem exec_pure (a : α) (s : σ) : exec (pure a) s = (.ok a, s) := rfl

/-- A step that does not touch the storage. -/
theorem exec_mk_pure (r : Except Fault α) (s : σ) : exec (ExceptT.mk (pure r)) s = (r, s) := rfl

theorem exec_mk_pure_iff {x r : Except Fault α} {s s' : σ} :
    exec (ExceptT.mk (pure x)) s = (r, s') ↔ x = r ∧ s = s' := by
  rw [exec_mk_pure, Prod.mk.injEq]

/-- Two steps that do not touch the storage are one. -/
theorem mk_pure_bind (x : Except Fault α) (f : α → Except Fault β) :
    (ExceptT.mk (pure (x >>= f)) : ExceptT Fault (StateM σ) β) =
      ExceptT.mk (pure x) >>= fun a => ExceptT.mk (pure (f a)) := by
  cases x with
  | ok a => rfl
  | error fault => rfl

theorem exec_bind (x : ExceptT Fault (StateM σ) α) (f : α → ExceptT Fault (StateM σ) β) (s : σ) :
    exec (x >>= f) s =
      match exec x s with
      | (.ok a, s') => exec (f a) s'
      | (.error fault, s') => (.error fault, s') := by
  rw [exec, ExceptT.run_bind, StateT.run_bind]
  unfold exec
  cases x.run.run s with
  | mk r s' => cases r <;> rfl

theorem exec_bind_of_ok {x : ExceptT Fault (StateM σ) α} {s mid : σ} {a : α}
    (h : exec x s = (.ok a, mid)) (f : α → ExceptT Fault (StateM σ) β) :
    exec (x >>= f) s = exec (f a) mid := by
  rw [exec_bind, h]

theorem exec_bind_of_error {x : ExceptT Fault (StateM σ) α} {s mid : σ} {fault : Fault}
    (h : exec x s = (.error fault, mid)) (f : α → ExceptT Fault (StateM σ) β) :
    exec (x >>= f) s = (.error fault, mid) := by
  rw [exec_bind, h]

/-- Work stops at its first step, or goes on from there. -/
theorem exec_bind_cases {x : ExceptT Fault (StateM σ) α} {f : α → ExceptT Fault (StateM σ) β}
    {s s' : σ} {r : Except Fault β} (h : exec (x >>= f) s = (r, s')) :
    (∃ fault, exec x s = (.error fault, s') ∧ r = .error fault) ∨
      ∃ a mid, exec x s = (.ok a, mid) ∧ exec (f a) mid = (r, s') := by
  cases hx : exec x s with
  | mk first mid =>
    cases first with
    | ok a => exact .inr ⟨a, mid, rfl, (exec_bind_of_ok hx f).symm.trans h⟩
    | error fault =>
      cases (exec_bind_of_error hx f).symm.trans h
      exact .inl ⟨fault, rfl, rfl⟩

/-- Work goes through step by step: the second step starts in the state that the first one
leaves. -/
theorem exec_bind_eq_ok_iff {x : ExceptT Fault (StateM σ) α}
    {f : α → ExceptT Fault (StateM σ) β} {s s' : σ} {b : β} :
    exec (x >>= f) s = (.ok b, s') ↔
      ∃ a mid, exec x s = (.ok a, mid) ∧ exec (f a) mid = (.ok b, s') := by
  constructor
  · intro h
    obtain ⟨_, -, hr⟩ | h := exec_bind_cases h
    · cases hr
    · exact h
  · rintro ⟨a, mid, hx, hf⟩
    rw [exec_bind_of_ok hx, hf]

/-- After a write that goes through, a path reads as what was written. -/
def ReadsBack (storage : Storage (StateM σ)) (path : String) : Prop :=
  ∀ content s s', exec (storage.write path content) s = (.ok (), s') →
    (exec (storage.read path) s').1 = .ok content

/-- A storage keeps what it is given. -/
structure Keeps (storage : Storage (StateM σ)) : Prop where
  readsBack : ∀ path, storage.ReadsBack path
  /-- A write to another path leaves what a path reads as. -/
  read_write_of_ne : ∀ path other content s, path ≠ other →
    (exec (storage.read path) (exec (storage.write other content) s).2).1 =
      (exec (storage.read path) s).1

/-- Two paths lead to two files: what was written to the first stays there when the second is written,
whether that goes through or not, and the second reads as it was written. -/
def Apart (storage : Storage (StateM σ)) (path other : String) : Prop :=
  ∀ content content' s mid r s', exec (storage.write path content) s = (.ok (), mid) →
    exec (storage.write other content') mid = (r, s') →
    (exec (storage.read path) s').1 = .ok content ∧
      (r = .ok () → (exec (storage.read other) s').1 = .ok content')

theorem Keeps.apart {storage : Storage (StateM σ)} (h : storage.Keeps) {path other : String}
    (hne : path ≠ other) : storage.Apart path other := by
  intro content content' s mid r s' hfirst hsecond
  constructor
  · have hkept := h.read_write_of_ne path other content' mid hne
    rw [hsecond] at hkept
    exact hkept.trans (h.readsBack path _ _ _ hfirst)
  · rintro rfl
    exact h.readsBack other _ _ _ hsecond

namespace Memory

theorem exec_read (readOnly : Bool) (path : String) (memory : Memory) :
    exec ((storage readOnly).read path) memory =
      ((memory.get? path).elim (.error (refused path)) .ok, memory) := by
  have hget : exec (get : ExceptT Fault (StateM Memory) Memory) memory = (.ok memory, memory) := rfl
  unfold storage
  rw [exec_bind]
  simp only [hget]
  cases memory.get? path <;> rfl

theorem exec_write (readOnly : Bool) (path : String) (content : ByteArray) (memory : Memory) :
    exec ((storage readOnly).write path content) memory =
      if readOnly then (.error (refused path), memory)
      else (.ok (), { memory with written := (path, content) :: memory.written }) := by
  cases readOnly <;> rfl

theorem get?_written (memory : Memory) (path other : String) (content : ByteArray) :
    get? { memory with written := (other, content) :: memory.written } path =
      if path = other then some content else memory.get? path := by
  unfold get?
  rw [List.lookup_cons]
  by_cases h : path = other
  · simp [h]
  · have hne : (path == other) = false := by simpa using h
    simp [h, hne]

/-- Files in memory are kept. -/
theorem keeps (readOnly : Bool) : Keeps (storage readOnly) := by
  constructor
  · intro path content memory memory' h
    rw [exec_write] at h
    cases readOnly with
    | true => cases h
    | false =>
      cases h
      rw [exec_read, get?_written, if_pos rfl]
      rfl
  · intro path other content memory hne
    rw [exec_write, exec_read, exec_read]
    cases readOnly with
    | true => rfl
    | false =>
      simp only [Bool.false_eq_true, if_false]
      rw [get?_written, if_neg hne]

end Memory

/-! ## Watching a storage -/

/-- A storage that is watched: beside its state stand the writes that took effect, the earliest
first. A write that fails is not among them. -/
def recording (storage : Storage (StateM σ)) :
    Storage (StateM (σ × List (String × ByteArray))) where
  read path := ExceptT.mk fun (s, written) =>
    let (r, s') := exec (storage.read path) s
    (r, s', written)
  write path content := ExceptT.mk fun (s, written) =>
    let (r, s') := exec (storage.write path content) s
    (r, s', if r.isOk then written ++ [(path, content)] else written)

section Recording

variable {storage : Storage (StateM σ)} {path : String} {content : ByteArray}
  {p p' : σ × List (String × ByteArray)}

/-- Reading is not recorded. -/
theorem exec_read_recording {r : Except Fault ByteArray} :
    exec (storage.recording.read path) p = (r, p') ↔
      exec (storage.read path) p.1 = (r, p'.1) ∧ p'.2 = p.2 := by
  have hread : exec (storage.recording.read path) p =
      ((exec (storage.read path) p.1).1, (exec (storage.read path) p.1).2, p.2) := rfl
  rw [hread]
  constructor
  · rintro ⟨⟩
    exact ⟨rfl, rfl⟩
  · rintro ⟨hexec, hwritten⟩
    rw [hexec, ← hwritten]

/-- A write is recorded if it takes effect. -/
theorem exec_write_recording {r : Except Fault Unit} :
    exec (storage.recording.write path content) p = (r, p') ↔
      exec (storage.write path content) p.1 = (r, p'.1) ∧
        p'.2 = if r.isOk then p.2 ++ [(path, content)] else p.2 := by
  have hwrite : exec (storage.recording.write path content) p =
      ((exec (storage.write path content) p.1).1, (exec (storage.write path content) p.1).2,
        if (exec (storage.write path content) p.1).1.isOk then p.2 ++ [(path, content)]
        else p.2) := rfl
  rw [hwrite]
  constructor
  · rintro ⟨⟩
    exact ⟨rfl, rfl⟩
  · rintro ⟨hexec, hwritten⟩
    rw [hexec, ← hwritten]

/-- The state that writes lead to. -/
def after (storage : Storage (StateM σ)) (s : σ) (writes : List (String × ByteArray)) : σ :=
  writes.foldl (fun s w => (exec (storage.write w.1 w.2) s).2) s

theorem after_concat (s : σ) (writes : List (String × ByteArray)) :
    storage.after s (writes ++ [(path, content)]) =
      (exec (storage.write path content) (storage.after s writes)).2 := by
  simp only [after, List.foldl_append, List.foldl_cons, List.foldl_nil]

/-- Reading leaves a storage as it is, and so does a write that fails. -/
structure Steady (storage : Storage (StateM σ)) : Prop where
  read : ∀ path s r s', exec (storage.read path) s = (r, s') → s' = s
  write : ∀ path content s fault s',
    exec (storage.write path content) s = (.error fault, s') → s' = s

/-- What was recorded of a steady storage accounts for its state: it stays so through reading. -/
theorem Steady.after_read (hsteady : storage.Steady) {s : σ} {r : Except Fault ByteArray}
    (h : exec (storage.recording.read path) p = (r, p')) (hp : p.1 = storage.after s p.2) :
    p'.1 = storage.after s p'.2 := by
  obtain ⟨hread, hwritten⟩ := exec_read_recording.1 h
  rw [hsteady.read _ _ _ _ hread, hwritten, hp]

/-- What was recorded of a steady storage accounts for its state: it stays so through a write. -/
theorem Steady.after_write (hsteady : storage.Steady) {s : σ} {r : Except Fault Unit}
    (h : exec (storage.recording.write path content) p = (r, p'))
    (hp : p.1 = storage.after s p.2) : p'.1 = storage.after s p'.2 := by
  obtain ⟨hwrite, hwritten⟩ := exec_write_recording.1 h
  rw [hwritten]
  cases r with
  | ok _ =>
    change p'.1 = storage.after s (p.2 ++ [(path, content)])
    rw [after_concat, ← hp, hwrite]
  | error fault => exact (hsteady.write _ _ _ _ _ hwrite).trans hp

end Recording

/-- A storage reads as files do: reading leaves it as it is, and fails only by a refusal. -/
structure ReadsFiles (storage : Storage (StateM σ)) : Prop where
  state : ∀ path s r s', exec (storage.read path) s = (r, s') → s' = s
  fault : ∀ path s fault s', exec (storage.read path) s = (.error fault, s') →
    ∃ refusal, fault = .storage refusal

theorem Memory.readsFiles (readOnly : Bool) : ReadsFiles (Memory.storage readOnly) := by
  constructor
  · intro path memory r memory' h
    rw [exec_read, Prod.mk.injEq] at h
    exact h.2.symm
  · intro path memory fault memory' h
    rw [exec_read] at h
    cases hget : memory.get? path with
    | none =>
      rw [hget] at h
      cases h
      exact ⟨_, rfl⟩
    | some content =>
      rw [hget] at h
      cases h

/-- Files in memory change only by a write that takes effect. -/
theorem Memory.steady (readOnly : Bool) : Steady (Memory.storage readOnly) := by
  constructor
  · intro path memory r memory' h
    exact (readsFiles readOnly).state path memory r memory' h
  · intro path content memory fault memory' h
    rw [exec_write] at h
    cases readOnly with
    | true =>
      cases h
      rfl
    | false => cases h

end EndpointCountry.Storage
