import EndpointCountry.Proofs.CaselessTable
import EndpointCountry.Scheme.Table

/-!
# What a scheme table lists

The built-in table is a caseless table of the registered schemes and of the default, which stands
under the empty scheme. Schemes listed later take the place of those under other spellings. No
spelling of the empty scheme is another text, so the default stays what it is until it is listed
anew, and it is never missing.

* `upper_of_mem_registered`, `nodup_preset` — the built-in schemes are in upper case and distinct.
* `insertAll`, `entries_builtin_insertAll` — schemes listed on top of the built-in ones.
* `get?_builtin_insertAll`, `get?_of_mem_preset` — one scheme.
* `default_insert`, `default_insertAll` — one insertion leaves the default alone, and so does a run.
* `Reflects`, `tables_reflect_insertions` — what a table says after any insertions.
-/

namespace EndpointCountry.Scheme

open Text (upper)

/-! ## The registered schemes -/

/-- The names and numbers of the registered schemes are their own upper-case forms, by the code
points of their characters. -/
theorem toNat_lt_of_mem_registered {e : String × Country} (he : e ∈ registered) {c : Char}
    (hc : c ∈ e.1.toList) : c.toNat < 0x61 := by
  have hall : (registered.all fun e => e.1.toList.all fun c => Nat.blt c.toNat 0x61) = true := by
    decide +kernel
  exact Nat.le_of_ble_eq_true (List.all_eq_true.1 (List.all_eq_true.1 hall e he) c hc)

theorem upper_of_mem_registered {e : String × Country} (he : e ∈ registered) :
    upper e.1 = e.1 := by
  refine Text.upper_eq_self fun c hc => ?_
  exact Text.upperChars_of_lt (toNat_lt_of_mem_registered he hc)

/-- The country of a registered scheme stands beside the upper-case form of the scheme. -/
theorem lastUnder?_registered (scheme : String) :
    CaselessTable.lastUnder? scheme registered =
      ((registered.filter fun e => upper scheme = e.1).getLast?).map (·.2) := by
  have hkeys : ∀ e ∈ registered,
      decide (upper scheme = upper e.1) = decide (upper scheme = e.1) := by
    intro e he
    rw [upper_of_mem_registered he]
  rw [CaselessTable.lastUnder?, List.filter_congr hkeys]

namespace Table

open CaselessTable (lastUnder?)

/-- The built-in entries: the registered schemes, and the default. -/
def preset : List (String × Country) := registered ++ [(defaultKey, .unknown)]

/-- A small number for a key. The modulus keeps the built-in keys apart, so that these numbers can be
compared in their place. -/
def keyNumber (key : String) : Nat :=
  key.toList.foldl (fun n c => 128 * n + c.toNat) 0 % 2211

/-- No built-in scheme is a spelling of another one. -/
theorem nodup_preset : (preset.map fun e => upper e.1).Nodup := by
  have hupper : (preset.map fun e => upper e.1) = preset.map (·.1) := by
    refine List.map_congr_left fun e he => ?_
    rcases List.mem_append.1 he with he | he
    · exact upper_of_mem_registered he
    · rw [List.mem_singleton.1 he]
      rfl
  have hnumbers : Text.distinct ((preset.map (·.1)).map keyNumber) = true := by decide +kernel
  rw [hupper]
  exact (Text.nodup_of_distinct hnumbers).of_map keyNumber

/-! ## Insertions -/

/-- Lists schemes one after another. -/
def insertAll (t : Table) (calls : List (String × Country)) : Table :=
  calls.foldl (fun t call => t.insert call.1 call.2) t

theorem entries_insertAll (t : Table) (calls : List (String × Country)) :
    (t.insertAll calls).entries = t.entries.insertAll calls := by
  induction calls generalizing t with
  | nil => rfl
  | cons call rest ih => exact ih (t.insert call.1 call.2)

theorem entries_builtin : builtin.entries = CaselessTable.empty.insertAll preset := by
  rw [preset, CaselessTable.insertAll_append, CaselessTable.insertAll_singleton, builtin]

/-- Schemes listed on top of the built-in ones come after them. -/
theorem entries_builtin_insertAll (calls : List (String × Country)) :
    (builtin.insertAll calls).entries = CaselessTable.empty.insertAll (preset ++ calls) := by
  rw [entries_insertAll, entries_builtin, CaselessTable.insertAll_append]

/-! ## One scheme -/

section Scheme

variable (calls : List (String × Country))

theorem get?_builtin_insertAll (scheme : String) :
    (builtin.insertAll calls).get? scheme =
      (lastUnder? scheme calls).or (lastUnder? scheme preset) := by
  rw [get?, entries_builtin_insertAll, CaselessTable.get?_empty_insertAll,
    CaselessTable.lastUnder?_append]

/-- A built-in scheme has the country of the last entry under a spelling of it, or else its own. -/
theorem get?_of_mem_preset {e : String × Country} (he : e ∈ preset) {scheme : String}
    (h : upper scheme = upper e.1) :
    (builtin.insertAll calls).get? scheme = some ((lastUnder? scheme calls).getD e.2) := by
  rw [get?_builtin_insertAll, CaselessTable.lastUnder?_eq_some_of_mem nodup_preset he h]
  cases lastUnder? scheme calls <;> rfl

/-- The default is always there. -/
theorem get?_defaultKey : (builtin.insertAll calls).get? defaultKey =
    some (builtin.insertAll calls).default := by
  have hmem : (defaultKey, Country.unknown) ∈ preset := List.mem_append_right _ List.mem_cons_self
  have hget := get?_of_mem_preset calls hmem rfl
  rw [get?] at hget
  rw [get?, default, hget, Option.getD_some]

end Scheme

/-! ## The default -/

theorem default_builtin : builtin.default = .unknown := by
  have hstored := get?_defaultKey []
  have hpreset := get?_of_mem_preset [] (List.mem_append_right registered List.mem_cons_self) rfl
  exact Option.some.inj (hstored.symm.trans hpreset)

/-- Only an entry under the empty scheme itself changes the default: no other text is a spelling of
it. -/
theorem default_insert (t : Table) {scheme : String} (h : scheme ≠ defaultKey) (country : Country) :
    (t.insert scheme country).default = t.default := by
  have hspelling : upper defaultKey ≠ upper scheme := by
    intro heq
    exact h (Text.upper_eq_empty_iff.1 heq.symm)
  have hentries : (t.insert scheme country).entries = t.entries.insert scheme country := rfl
  rw [default, hentries, CaselessTable.get?_insert, if_neg hspelling, default]

theorem default_insertAll (t : Table) {calls : List (String × Country)}
    (h : ∀ call ∈ calls, call.1 ≠ defaultKey) : (t.insertAll calls).default = t.default := by
  induction calls generalizing t with
  | nil => rfl
  | cons call rest ih =>
    obtain ⟨hcall, hrest⟩ := List.forall_mem_cons.1 h
    calc (t.insertAll (call :: rest)).default
        = (t.insert call.1 call.2).default := ih (t.insert call.1 call.2) hrest
      _ = t.default := default_insert t hcall call.2

/-! ## All that a table says -/

/-- A table says what the entries say that were listed on top of the built-in ones, one after
another. -/
structure Reflects (t : Table) (calls : List (String × Country)) : Prop where
  /-- A scheme has the country of the last entry under a spelling of it, or else of the built-in
  entry. -/
  get? : ∀ scheme, t.get? scheme = (lastUnder? scheme calls).or (lastUnder? scheme preset)
  /-- There is one built-in entry under a spelling of a scheme, and it counts until the scheme is
  listed. -/
  get?_of_mem_preset : ∀ e ∈ preset, ∀ scheme, upper scheme = upper e.1 →
    t.get? scheme = some ((lastUnder? scheme calls).getD e.2)
  contains : ∀ scheme, t.entries.contains scheme = true ↔ ∃ country, t.get? scheme = some country
  /-- The schemes are counted by their upper-case forms. -/
  size : t.size = ((preset ++ calls).map fun e => upper e.1).toFinset.card
  /-- The next insertion is answered with what is there before it. -/
  exchange : ∀ scheme country, (t.exchange scheme country).1 = t.get? scheme
  /-- Schemes that are not listed have what stands under the empty scheme. -/
  lookup : ∃ fallback, t.get? "" = some fallback ∧ t.default = fallback ∧
    ∀ scheme, t.lookup scheme = (t.get? scheme).getD fallback
  /-- The next insertion leaves the default alone, unless it is one under the empty scheme. -/
  default_insert : ∀ scheme country, scheme ≠ "" → (t.insert scheme country).default = t.default

theorem reflects_builtin_insertAll (calls : List (String × Country)) :
    (builtin.insertAll calls).Reflects calls where
  get? := get?_builtin_insertAll calls
  get?_of_mem_preset _ he _ h := Table.get?_of_mem_preset calls he h
  contains _ := CaselessTable.contains_iff
  size := by rw [size, entries_builtin_insertAll, CaselessTable.size_empty_insertAll]
  exchange scheme country := CaselessTable.exchange_fst _ scheme country
  lookup := ⟨_, get?_defaultKey calls, rfl, fun _ => rfl⟩
  default_insert _ country h := Table.default_insert _ h country

/-- After any insertions into an empty caseless table, or into the built-in table of schemes, the
table says what the last insertion under each key says, by upper-case forms, and counts these forms.
The answer to one more insertion is what stood there before it. A scheme that is not listed has what
stands under the empty scheme, and no insertion under another scheme changes that. -/
theorem tables_reflect_insertions (calls : List (String × Country)) :
    (CaselessTable.empty.insertAll calls).Reflects calls ∧
      (builtin.insertAll calls).Reflects calls :=
  ⟨CaselessTable.reflects_empty_insertAll calls, reflects_builtin_insertAll calls⟩

end Table

end EndpointCountry.Scheme
