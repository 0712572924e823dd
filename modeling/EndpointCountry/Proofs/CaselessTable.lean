import EndpointCountry.CaselessTable
import EndpointCountry.Proofs.Unicode.Uppercase

/-!
# What a caseless table holds

A table is filled from a list of entries, and each entry replaces what stands under another
spelling of its key. What a key has in the end can be read off the list.

* `lastUnder?`, `get?_insertAll` — the last entry under a spelling of the key counts.
* `lastUnder?_eq_some_of_mem` — of entries with different keys each one counts.
* `contains_iff` — the keys in use are those with a country.
* `size_empty_insertAll` — a table counts the keys of its entries, all spellings of one key once.
* `Reflects`, `reflects_empty_insertAll` — what a table says, read off its entries.
-/

namespace EndpointCountry

namespace CaselessTable

/-- The country of the last entry under a spelling of a key. -/
def lastUnder? (key : String) (entries : List (String × Country)) : Option Country :=
  ((entries.filter fun e => Text.upper key = Text.upper e.1).getLast?).map (·.2)

theorem lastUnder?_append (key : String) (xs ys : List (String × Country)) :
    lastUnder? key (xs ++ ys) = (lastUnder? key ys).or (lastUnder? key xs) := by
  simp only [lastUnder?, List.filter_append, List.getLast?_append, Option.map_or]

theorem lastUnder?_singleton (key : String) (e : String × Country) :
    lastUnder? key [e] = if Text.upper key = Text.upper e.1 then some e.2 else none := by
  by_cases h : Text.upper key = Text.upper e.1 <;> simp [lastUnder?, h]

/-- Without an entry under a spelling of the key there is no country. -/
theorem lastUnder?_eq_none {key : String} {entries : List (String × Country)}
    (h : ∀ e ∈ entries, Text.upper key ≠ Text.upper e.1) : lastUnder? key entries = none := by
  have hnone : entries.filter (fun e => Text.upper key = Text.upper e.1) = [] := by
    rw [List.filter_eq_nil_iff]
    intro e he heq
    exact h e he (of_decide_eq_true heq)
  rw [lastUnder?, hnone]
  rfl

/-- Where no two keys are spellings of one another, every entry is the last one under its key. -/
theorem lastUnder?_eq_some_of_mem {entries : List (String × Country)}
    (hdistinct : (entries.map fun e => Text.upper e.1).Nodup) {e : String × Country}
    (he : e ∈ entries) {key : String} (hkey : Text.upper key = Text.upper e.1) :
    lastUnder? key entries = some e.2 := by
  obtain ⟨before, after, rfl⟩ := List.append_of_mem he
  rw [List.map_append, List.map_cons, List.nodup_append, List.nodup_cons] at hdistinct
  have hafter : ∀ d ∈ after, Text.upper key ≠ Text.upper d.1 := by
    intro d hd heq
    exact hdistinct.2.1.1 (List.mem_map.2 ⟨d, hd, heq.symm.trans hkey⟩)
  rw [← List.singleton_append, lastUnder?_append, lastUnder?_append, lastUnder?_eq_none hafter,
    lastUnder?_singleton, if_pos hkey]
  rfl

/-- A key has what the last entry under a spelling of it says, and without such an entry what it had
before. -/
theorem get?_insertAll (t : CaselessTable) (entries : List (String × Country)) (key : String) :
    (t.insertAll entries).get? key = (lastUnder? key entries).or (t.get? key) := by
  induction entries generalizing t with
  | nil => rfl
  | cons e rest ih =>
    have hstep : t.insertAll (e :: rest) = (t.insert e.1 e.2).insertAll rest := rfl
    rw [hstep, ih, get?_insert, ← List.singleton_append, lastUnder?_append, lastUnder?_singleton,
      Option.or_assoc]
    congr 1
    split <;> rfl

theorem insertAll_append (t : CaselessTable) (xs ys : List (String × Country)) :
    t.insertAll (xs ++ ys) = (t.insertAll xs).insertAll ys :=
  List.foldl_append

theorem insertAll_singleton (t : CaselessTable) (key : String) (country : Country) :
    t.insertAll [(key, country)] = t.insert key country := rfl

theorem get?_empty_insertAll (entries : List (String × Country)) (key : String) :
    (empty.insertAll entries).get? key = lastUnder? key entries := by
  rw [get?_insertAll]
  exact Option.or_none

/-! ## The keys -/

/-- The keys in use are those with a country. -/
theorem contains_iff {t : CaselessTable} {key : String} :
    t.contains key = true ↔ ∃ country, t.get? key = some country := by
  rw [← Option.isSome_iff_exists, get?, List.lookup_isSome_iff, contains, List.any_eq_true]
  simp only [beq_iff_eq, eq_comm (a := Text.upper key)]

/-- The keys of a table, in upper case. -/
def keys (t : CaselessTable) : List String :=
  t.entries.map (·.1)

/-- A key that is in use stays in its place, and a new one goes last. -/
theorem map_fst_put (key : String) (country : Country) (entries : List (String × Country)) :
    (put key country entries).2.map (·.1) =
      if key ∈ entries.map (·.1) then entries.map (·.1) else entries.map (·.1) ++ [key] := by
  induction entries with
  | nil => simp [put]
  | cons entry rest ih =>
    obtain ⟨k, held⟩ := entry
    by_cases h : k = key
    · subst h
      simp [put]
    · have hmem : key ∈ k :: rest.map (·.1) ↔ key ∈ rest.map (·.1) := by
        rw [List.mem_cons]
        exact or_iff_right (Ne.symm h)
      simp only [put, if_neg h, List.map_cons, ih, hmem]
      split <;> rfl

theorem keys_insert (t : CaselessTable) (key : String) (country : Country) :
    (t.insert key country).keys =
      if Text.upper key ∈ t.keys then t.keys else t.keys ++ [Text.upper key] :=
  map_fst_put ..

theorem nodup_keys_insert {t : CaselessTable} (h : t.keys.Nodup) (key : String)
    (country : Country) : (t.insert key country).keys.Nodup := by
  rw [keys_insert]
  split
  · exact h
  · rename_i hnew
    rw [List.nodup_append]
    refine ⟨h, List.nodup_singleton _, ?_⟩
    rintro k hk _ hkey rfl
    rw [List.mem_singleton.1 hkey] at hk
    exact hnew hk

theorem toFinset_keys_insert (t : CaselessTable) (key : String) (country : Country) :
    (t.insert key country).keys.toFinset = t.keys.toFinset ∪ {Text.upper key} := by
  rw [keys_insert]
  split
  · rename_i hmem
    rw [Finset.union_eq_left.2 (Finset.singleton_subset_iff.2 (List.mem_toFinset.2 hmem))]
  · rw [List.toFinset_append]
    rfl

/-- Filling a table keeps its keys distinct and adds those of the entries. -/
theorem keys_insertAll {t : CaselessTable} (h : t.keys.Nodup) (entries : List (String × Country)) :
    (t.insertAll entries).keys.Nodup ∧
      (t.insertAll entries).keys.toFinset =
        t.keys.toFinset ∪ (entries.map fun e => Text.upper e.1).toFinset := by
  induction entries generalizing t with
  | nil => simp [insertAll, h]
  | cons e rest ih =>
    have hstep : t.insertAll (e :: rest) = (t.insert e.1 e.2).insertAll rest := rfl
    obtain ⟨hnodup, hkeys⟩ := ih (nodup_keys_insert h e.1 e.2)
    refine ⟨hstep ▸ hnodup, ?_⟩
    rw [hstep, hkeys, toFinset_keys_insert, List.map_cons, List.toFinset_cons, Finset.union_assoc]
    rfl

/-- A table that is filled from a list of entries has as many keys as the entries have, all
spellings of a key counted once. -/
theorem size_empty_insertAll (entries : List (String × Country)) :
    (empty.insertAll entries).size = (entries.map fun e => Text.upper e.1).toFinset.card := by
  have hempty : empty.keys.Nodup := List.nodup_nil
  obtain ⟨hnodup, hkeys⟩ := keys_insertAll hempty entries
  have hsize : (empty.insertAll entries).size = (empty.insertAll entries).keys.length :=
    (List.length_map _).symm
  rw [hsize, ← List.toFinset_card_of_nodup hnodup, hkeys]
  simp [keys, empty]

/-! ## All that a table says -/

/-- A table says what the entries say that were put into it, one after another. -/
structure Reflects (t : CaselessTable) (entries : List (String × Country)) : Prop where
  /-- A key has the country of the last entry under a spelling of it, if there is one. -/
  get? : ∀ key, t.get? key = lastUnder? key entries
  contains : ∀ key, t.contains key = true ↔ ∃ country, t.get? key = some country
  /-- The keys are counted by their upper-case forms. -/
  size : t.size = (entries.map fun e => Text.upper e.1).toFinset.card
  /-- The next insertion is answered with what is there before it. -/
  exchange : ∀ key country, (t.exchange key country).1 = t.get? key

theorem reflects_empty_insertAll (entries : List (String × Country)) :
    (empty.insertAll entries).Reflects entries where
  get? := get?_empty_insertAll entries
  contains _ := contains_iff
  size := size_empty_insertAll entries
  exchange := exchange_fst _

-- Three spellings of one key, two of them longer than the third.
example :
    let t := empty.insertAll [("STRASSE", .of 'D' 'E'), ("straße", .of 'A' 'T'),
      ("Straſſe", .of 'C' 'H')]
    t.get? "strasse" = some (.of 'C' 'H') ∧ t.size = 1 := by
  decide +kernel

end CaselessTable

end EndpointCountry
