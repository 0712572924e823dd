import Mathlib

/-!
# Entries under keys

What is found under a key in a list of entries that holds the key at a known place.

* `lookup_append_cons_self`, `lookup_append_cons_of_ne` — that key, and any other.
* `lookup_eq_none_iff` — keys that are not in use.
* `map_lookup_append_cons` — several keys, with another value under one of them.
-/

namespace EndpointCountry

variable {β : Type} {front back entries : List (String × β)} {key k : String} {b : β}

/-- The keys of some entries. -/
abbrev keysOf (entries : List (String × β)) : List String :=
  entries.map Prod.fst

theorem lookup_append_cons_self (h : key ∉ keysOf front) :
    (front ++ (key, b) :: back).lookup key = some b := by
  induction front with
  | nil => simp
  | cons e front ih =>
    rw [keysOf, List.map_cons, List.mem_cons, not_or] at h
    rw [List.cons_append, List.lookup_cons, beq_eq_false_iff_ne.2 h.1]
    exact ih h.2

theorem lookup_append_cons_of_ne (h : k ≠ key) :
    (front ++ (key, b) :: back).lookup k = (front ++ back).lookup k := by
  induction front with
  | nil => rw [List.nil_append, List.lookup_cons, beq_eq_false_iff_ne.2 h, List.nil_append]
  | cons e front ih =>
    rw [List.cons_append, List.cons_append, List.lookup_cons, ih, List.lookup_cons]

theorem lookup_eq_none_iff : entries.lookup key = none ↔ key ∉ keysOf entries := by
  rw [← Option.not_isSome_iff_eq_none, List.lookup_isSome_iff, not_iff_not]
  simp [keysOf]

/-- What is found under several keys, with another value under one of them. -/
theorem map_lookup_append_cons {keys : List String} (hkeys : keys.Nodup) {place : Nat}
    (hplace : keys[place]? = some key) (hfront : key ∉ keysOf front) (b b' : β) :
    (keys.map fun k => (front ++ (key, b') :: back).lookup k) =
      (keys.map fun k => (front ++ (key, b) :: back).lookup k).set place (some b') := by
  refine List.ext_getElem? fun i => ?_
  rw [List.getElem?_map]
  by_cases hi : place = i
  · subst hi
    have hlt := (List.getElem?_eq_some_iff.1 hplace).1
    rw [List.getElem?_set_self (by simpa using hlt), hplace, Option.map_some,
      lookup_append_cons_self hfront]
  · rw [List.getElem?_set_ne hi, List.getElem?_map]
    cases hk : keys[i]? with
    | none => rfl
    | some k =>
      have hne : k ≠ key := by
        rintro rfl
        obtain ⟨_, hself⟩ := List.getElem?_eq_some_iff.1 hplace
        obtain ⟨_, hother⟩ := List.getElem?_eq_some_iff.1 hk
        exact hi (hkeys.getElem_inj_iff.1 (hself.trans hother.symm))
      rw [Option.map_some, Option.map_some, lookup_append_cons_of_ne hne,
        lookup_append_cons_of_ne hne]

end EndpointCountry
