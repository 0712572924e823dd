import Mathlib

/-!
# Steps that may stop

Lists worked off one after another, where each step may stop the whole with a fault. Each statement
says when the work comes to its end, and with what.

* `bind_eq_ok_iff`, `bind_eq_error_iff` — one step after another.
* `mapError_eq_ok_iff`, `mapError_eq_error_iff` — a step whose faults are worded anew.
* `foldlM_eq_ok_iff` — a fold whose steps only check an entry before they take it.
* `mapM_eq_ok_iff` — a list whose entries are read one by one.
* `forM_eq_ok_iff`, `exists_of_forM_eq_error` — a list whose entries are checked one by one.
-/

namespace EndpointCountry

variable {α β σ ε δ : Type}

theorem bind_eq_ok_iff {x : Except ε α} {f : α → Except ε β} {b : β} :
    x >>= f = .ok b ↔ ∃ a, x = .ok a ∧ f a = .ok b := by
  cases x with
  | ok a => simp [bind, Except.bind]
  | error e => simp [bind, Except.bind]

theorem bind_eq_error_iff {x : Except ε α} {f : α → Except ε β} {e : ε} :
    x >>= f = .error e ↔ x = .error e ∨ ∃ a, x = .ok a ∧ f a = .error e := by
  cases x with
  | ok a => simp [bind, Except.bind]
  | error e => simp [bind, Except.bind]

/-- One check after another. -/
theorem seq_eq_ok_iff {x : Except ε Unit} {y : Except ε β} {b : β} :
    (x >>= fun _ => y) = .ok b ↔ x = .ok () ∧ y = .ok b := by
  rw [bind_eq_ok_iff]
  exact ⟨fun ⟨_, hx, hy⟩ => ⟨hx, hy⟩, fun ⟨hx, hy⟩ => ⟨(), hx, hy⟩⟩

theorem exists_eq_ok_of_isOk {x : Except ε α} (h : x.isOk = true) : ∃ a, x = .ok a := by
  cases x with
  | ok a => exact ⟨a, rfl⟩
  | error e => cases h

theorem mapError_eq_ok_iff {x : Except ε α} {f : ε → δ} {a : α} :
    x.mapError f = .ok a ↔ x = .ok a := by
  cases x with
  | ok a => simp [Except.mapError]
  | error e => simp [Except.mapError]

theorem mapError_eq_error_iff {x : Except ε α} {f : ε → δ} {d : δ} :
    x.mapError f = .error d ↔ ∃ e, x = .error e ∧ f e = d := by
  cases x with
  | ok a => simp [Except.mapError]
  | error e => simp [Except.mapError]

/-- A fold whose step admits an entry by a check on the entry alone goes through exactly when every
entry is admitted. -/
theorem foldlM_eq_ok_iff {f : σ → α → Except ε σ} {admits : α → Prop} {step : σ → α → σ}
    (h : ∀ s a s', f s a = .ok s' ↔ admits a ∧ s' = step s a) {entries : List α} {s s' : σ} :
    entries.foldlM f s = .ok s' ↔ (∀ a ∈ entries, admits a) ∧ s' = entries.foldl step s := by
  induction entries generalizing s with
  | nil => simp [pure, Except.pure, eq_comm]
  | cons a rest ih =>
    rw [List.foldlM_cons, bind_eq_ok_iff, List.foldl_cons, List.forall_mem_cons]
    constructor
    · rintro ⟨next, hnext, hrest⟩
      obtain ⟨ha, rfl⟩ := (h _ _ _).1 hnext
      obtain ⟨hall, rfl⟩ := ih.1 hrest
      exact ⟨⟨ha, hall⟩, rfl⟩
    · rintro ⟨⟨ha, hall⟩, rfl⟩
      exact ⟨step s a, (h _ _ _).2 ⟨ha, rfl⟩, ih.2 ⟨hall, rfl⟩⟩

/-- Reading a list entry by entry goes through exactly when every entry can be read. -/
theorem mapM_eq_ok_iff {f : α → Except ε β} {g : α → Option β}
    (h : ∀ a b, f a = .ok b ↔ g a = some b) {entries : List α} {bs : List β} :
    entries.mapM f = .ok bs ↔ (∀ a ∈ entries, ∃ b, g a = some b) ∧ bs = entries.filterMap g := by
  induction entries generalizing bs with
  | nil => simp [pure, Except.pure, eq_comm]
  | cons a rest ih =>
    rw [List.mapM_cons, bind_eq_ok_iff, List.forall_mem_cons]
    constructor
    · rintro ⟨b, hb, hrest⟩
      obtain ⟨bs', hbs', hpure⟩ := bind_eq_ok_iff.1 hrest
      obtain ⟨hall, rfl⟩ := ih.1 hbs'
      cases hpure
      have hga := (h a b).1 hb
      exact ⟨⟨⟨b, hga⟩, hall⟩, by rw [List.filterMap_cons_some hga]⟩
    · rintro ⟨⟨⟨b, hga⟩, hall⟩, rfl⟩
      rw [List.filterMap_cons_some hga]
      exact ⟨b, (h a b).2 hga, bind_eq_ok_iff.2 ⟨_, ih.2 ⟨hall, rfl⟩, rfl⟩⟩

/-- Checking a list entry by entry goes through exactly when every entry passes. -/
theorem forM_eq_ok_iff {f : α → Except ε Unit} {entries : List α} :
    entries.forM f = .ok () ↔ ∀ a ∈ entries, f a = .ok () := by
  induction entries with
  | nil => simp [pure, Except.pure]
  | cons a rest ih =>
    have hstep : (a :: rest).forM f = (f a >>= fun _ => rest.forM f) := rfl
    rw [hstep, seq_eq_ok_iff, List.forall_mem_cons, ih]

/-- A check of a list fails as the check of one of its entries does. -/
theorem exists_of_forM_eq_error {f : α → Except ε Unit} {entries : List α} {e : ε}
    (h : entries.forM f = .error e) : ∃ a ∈ entries, f a = .error e := by
  induction entries with
  | nil => cases h
  | cons a rest ih =>
    have hstep : (a :: rest).forM f = (f a >>= fun _ => rest.forM f) := rfl
    rw [hstep, bind_eq_error_iff] at h
    rcases h with ha | ⟨_, -, hrest⟩
    · exact ⟨a, List.mem_cons_self, ha⟩
    · obtain ⟨b, hb, hfb⟩ := ih hrest
      exact ⟨b, List.mem_cons_of_mem _ hb, hfb⟩

end EndpointCountry
