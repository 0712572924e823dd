import EndpointCountry.Proofs.Entries
import EndpointCountry.Toml.Table

/-!
# Tables that differ in one value

What is added to a table does not depend on the values that are there already. So two tables that
hold the same but for one value still do so after the same additions, or refuse them both.

* `Node.Apart` — the same but for the value at an address.
* `Table.alter_apart`, `Table.within_apart` — one change, at a key and behind a path of keys.
* `Table.assignAll_apart`, `Table.addTable_apart`, `Table.addToTables_apart` — additions.
* `Table.assign_apart_self`, `Table.addTable_apart_self` — the addition that tells them apart.
* `Node.Apart.toDatum_cons`, `Node.Apart.toDatum_nil` — the records that they describe.
-/

namespace EndpointCountry.Toml

/-! ## Both or none -/

section Rel

variable {α β γ δ : Type} {R : α → β → Prop} {S : γ → δ → Prop}

theorem rel_bind {x : Option α} {y : Option β} (h : Option.Rel R x y) {f : α → Option γ}
    {g : β → Option δ} (hfg : ∀ a b, R a b → Option.Rel S (f a) (g b)) :
    Option.Rel S (x.bind f) (y.bind g) := by
  cases h with
  | some hab => exact hfg _ _ hab
  | none => exact .none

theorem rel_map {x : Option α} {y : Option β} (h : Option.Rel R x y) {f : α → γ} {g : β → δ}
    (hfg : ∀ a b, R a b → S (f a) (g b)) : Option.Rel S (x.map f) (y.map g) := by
  cases h with
  | some hab => exact .some (hfg _ _ hab)
  | none => exact .none

theorem rel_of_eq {x : Option α} {f : α → γ} {g : α → δ} (hfg : ∀ a, S (f a) (g a)) :
    Option.Rel S (x.map f) (x.map g) := by
  cases x with
  | some a => exact .some (hfg a)
  | none => exact .none

end Rel

/-! ## Entries -/

section Entries

variable {front back : List (String × Node)} {key k : String} {node m : Node}

namespace Table

theorem keysOf_replaceNode (entries : List (String × Node)) :
    keysOf (replaceNode k node entries) = keysOf entries := by
  induction entries with
  | nil => rfl
  | cons e entries ih =>
    rw [replaceNode]
    split
    · rename_i hkey
      simp [hkey]
    · simp [ih]

theorem replaceNode_self (h : key ∉ keysOf front) :
    replaceNode key node (front ++ (key, m) :: back) = front ++ (key, node) :: back := by
  induction front with
  | nil => simp [replaceNode]
  | cons e front ih =>
    rw [keysOf, List.map_cons, List.mem_cons, not_or] at h
    rw [List.cons_append, replaceNode, if_neg (Ne.symm h.1), ih h.2]
    rfl

/-- A node elsewhere is replaced in front of a key or behind it. -/
theorem replaceNode_of_ne (h : k ≠ key) (front back : List (String × Node)) (node : Node) :
    (∀ m, replaceNode k node (front ++ (key, m) :: back) =
      replaceNode k node front ++ (key, m) :: back) ∨
    (∀ m, replaceNode k node (front ++ (key, m) :: back) =
      front ++ (key, m) :: replaceNode k node back) := by
  induction front with
  | nil =>
    right
    intro m
    simp [replaceNode, h.symm]
  | cons e front ih =>
    by_cases hkey : e.1 = k
    · left
      intro m
      rw [List.cons_append, replaceNode, replaceNode, if_pos hkey, if_pos hkey]
      rfl
    · refine ih.imp (fun ih m => ?_) fun ih m => ?_
      · rw [List.cons_append, replaceNode, replaceNode, if_neg hkey, if_neg hkey, ih]
        rfl
      · rw [List.cons_append, replaceNode, if_neg hkey, ih]
        rfl

end Table

end Entries

/-! ## Tables that differ in one value -/

/-- Nodes that are the same but for the values `d₁` and `d₂` at an address. No table on the way has
two entries of one key. -/
inductive Node.Apart (d₁ d₂ : Datum) : List String → Node → Node → Prop
  | value : Apart d₁ d₂ [] (.value d₁) (.value d₂)
  | table {origin : Origin} {key : String} {address : List String}
      {front back : List (String × Node)} {m₁ m₂ : Node} (hfront : key ∉ keysOf front)
      (hback : key ∉ keysOf back) (h : Apart d₁ d₂ address m₁ m₂) :
      Apart d₁ d₂ (key :: address) (.table origin (front ++ (key, m₁) :: back))
        (.table origin (front ++ (key, m₂) :: back))

namespace Table

variable {d₁ d₂ : Datum} {address : List String} {key : String}

/-- Tables that are the same but for the values at an address. -/
def Apart (d₁ d₂ : Datum) (address : List String) (t₁ t₂ : Table) : Prop :=
  Node.Apart d₁ d₂ address t₁.toNode t₂.toNode

theorem rel_toNode {x y : Option Table} (h : Option.Rel (Apart d₁ d₂ address) x y) :
    Option.Rel (Node.Apart d₁ d₂ address) (x.map toNode) (y.map toNode) :=
  rel_map h fun _ _ ht => ht

theorem apart_cons_iff {t₁ t₂ : Table} :
    Apart d₁ d₂ (key :: address) t₁ t₂ ↔
      ∃ origin front back m₁ m₂, (key ∉ keysOf front ∧ key ∉ keysOf back) ∧
        Node.Apart d₁ d₂ address m₁ m₂ ∧ t₁ = ⟨origin, front ++ (key, m₁) :: back⟩ ∧
        t₂ = ⟨origin, front ++ (key, m₂) :: back⟩ := by
  constructor
  · obtain ⟨o₁, e₁⟩ := t₁
    obtain ⟨o₂, e₂⟩ := t₂
    intro h
    cases h with
    | table hfront hback h => exact ⟨_, _, _, _, _, ⟨hfront, hback⟩, h, rfl, rfl⟩
  · rintro ⟨origin, front, back, m₁, m₂, ⟨hfront, hback⟩, h, rfl, rfl⟩
    exact .table hfront hback h

theorem Apart.origin_eq {t₁ t₂ : Table} (h : Apart d₁ d₂ (key :: address) t₁ t₂) :
    t₁.origin = t₂.origin := by
  obtain ⟨origin, front, back, m₁, m₂, -, -, rfl, rfl⟩ := apart_cons_iff.1 h
  rfl

theorem alter_apart {t₁ t₂ : Table} (h : Apart d₁ d₂ (key :: address) t₁ t₂) (k : String)
    {change : Option Node → Option Node}
    (hchange : ∀ m₁ m₂, Node.Apart d₁ d₂ address m₁ m₂ →
      Option.Rel (Node.Apart d₁ d₂ address) (change (some m₁)) (change (some m₂))) :
    Option.Rel (Apart d₁ d₂ (key :: address)) (t₁.alter k change) (t₂.alter k change) := by
  obtain ⟨origin, front, back, m₁, m₂, ⟨hfront, hback⟩, hm, rfl, rfl⟩ := apart_cons_iff.1 h
  unfold alter
  by_cases hk : k = key
  · subst hk
    simp only [lookup_append_cons_self hfront, Option.isSome_some, if_true,
      replaceNode_self hfront]
    exact rel_map (hchange _ _ hm) fun n₁ n₂ hn => Node.Apart.table hfront hback hn
  · simp only [lookup_append_cons_of_ne hk]
    refine rel_of_eq fun node => ?_
    split
    · obtain hreplace | hreplace := replaceNode_of_ne hk front back node
      · rw [hreplace, hreplace]
        exact Node.Apart.table (by rwa [keysOf_replaceNode]) hback hm
      · rw [hreplace, hreplace]
        exact Node.Apart.table hfront (by rwa [keysOf_replaceNode]) hm
    · have hfront' : key ∉ keysOf ((k, node) :: front) := by simp [Ne.symm hk, hfront]
      exact Node.Apart.table hfront' hback hm

/-- A change that keeps tables apart in one value does so behind any path of keys. -/
theorem within_apart {dotted : Bool} {change : Table → Option Table}
    (hchange : ∀ key address t₁ t₂, Apart d₁ d₂ (key :: address) t₁ t₂ →
      Option.Rel (Apart d₁ d₂ (key :: address)) (change t₁) (change t₂))
    (path : List String) {t₁ t₂ : Table} (h : Apart d₁ d₂ (key :: address) t₁ t₂) :
    Option.Rel (Apart d₁ d₂ (key :: address)) (within dotted change path t₁)
      (within dotted change path t₂) := by
  induction path generalizing key address t₁ t₂ with
  | nil => exact hchange _ _ _ _ h
  | cons k path ih =>
    refine alter_apart h k fun m₁ m₂ hm => ?_
    cases hm with
    | value => exact .none
    | @table origin k' address front back m₁ m₂ hfront hback hm =>
      simp only
      split
      · exact .none
      · have hinner : Apart d₁ d₂ (k' :: address) ⟨origin, front ++ (k', m₁) :: back⟩
            ⟨origin, front ++ (k', m₂) :: back⟩ := Node.Apart.table hfront hback hm
        exact rel_toNode (ih hinner)

theorem add_apart {t₁ t₂ : Table} (h : Apart d₁ d₂ (key :: address) t₁ t₂) (k : String)
    (d : Datum) : Option.Rel (Apart d₁ d₂ (key :: address)) (t₁.add k d) (t₂.add k d) :=
  alter_apart h k fun _ _ _ => .none

theorem assign_apart {t₁ t₂ : Table} (h : Apart d₁ d₂ (key :: address) t₁ t₂)
    (path : List String) (d : Datum) :
    Option.Rel (Apart d₁ d₂ (key :: address)) (t₁.assign path d) (t₂.assign path d) := by
  unfold assign
  split
  · exact .none
  · split
    · exact add_apart h _ d
    · refine within_apart (fun key address t₁ t₂ h => ?_) _ h
      rw [h.origin_eq]
      split
      · exact add_apart h _ d
      · exact .none

theorem assignAll_apart {t₁ t₂ : Table} (h : Apart d₁ d₂ (key :: address) t₁ t₂)
    (pairs : List (List String × Datum)) :
    Option.Rel (Apart d₁ d₂ (key :: address)) (t₁.assignAll pairs) (t₂.assignAll pairs) := by
  unfold assignAll
  induction pairs generalizing t₁ t₂ with
  | nil => exact .some h
  | cons pair pairs ih =>
    rw [List.foldlM_cons, List.foldlM_cons]
    exact rel_bind (assign_apart h _ _) fun _ _ => ih

theorem addTable_apart {t₁ t₂ : Table} (h : Apart d₁ d₂ (key :: address) t₁ t₂)
    (path : List String) (pairs : List (List String × Datum)) :
    Option.Rel (Apart d₁ d₂ (key :: address)) (t₁.addTable path pairs)
      (t₂.addTable path pairs) := by
  unfold addTable
  split
  · exact .none
  · refine within_apart (fun key address t₁ t₂ h => alter_apart h _ fun m₁ m₂ hm => ?_) _ h
    cases hm with
    | value => exact .none
    | @table origin k' address front back m₁ m₂ hfront hback hm =>
      cases origin
      case implied =>
        have hinner : Apart d₁ d₂ (k' :: address) ⟨.header, front ++ (k', m₁) :: back⟩
            ⟨.header, front ++ (k', m₂) :: back⟩ := Node.Apart.table hfront hback hm
        exact rel_toNode (assignAll_apart hinner pairs)
      all_goals exact .none

theorem addToTables_apart {t₁ t₂ : Table} (h : Apart d₁ d₂ (key :: address) t₁ t₂)
    (path : List String) (pairs : List (List String × Datum)) :
    Option.Rel (Apart d₁ d₂ (key :: address)) (t₁.addToTables path pairs)
      (t₂.addToTables path pairs) := by
  unfold addToTables
  split
  · exact .none
  · refine within_apart (fun key address t₁ t₂ h => alter_apart h _ fun m₁ m₂ hm => ?_) _ h
    cases hm with
    | value => exact .none
    | table => exact .none

/-! ## Tables with one entry a key -/

/-- No two entries of a table have the same key. -/
def Distinct (t : Table) : Prop :=
  (keysOf t.entries).Nodup

theorem distinct_empty (origin : Origin) : (empty origin).Distinct :=
  List.nodup_nil

theorem alter_distinct {t next : Table} {change : Option Node → Option Node}
    (h : t.alter key change = some next) (ht : t.Distinct) : next.Distinct := by
  obtain ⟨node, -, rfl⟩ := Option.map_eq_some_iff.1 h
  unfold Distinct
  simp only
  split
  · rwa [keysOf_replaceNode]
  · rename_i hnone
    refine List.nodup_cons.2 ⟨fun hmem => hnone ?_, ht⟩
    obtain ⟨e, he, rfl⟩ := List.mem_map.1 hmem
    exact List.lookup_isSome_iff.2 ⟨e, he, by simp⟩

theorem within_distinct {dotted : Bool} {change : Table → Option Table}
    (hchange : ∀ t next, change t = some next → t.Distinct → next.Distinct) {path : List String}
    {t next : Table} (h : within dotted change path t = some next) (ht : t.Distinct) :
    next.Distinct := by
  cases path with
  | nil => exact hchange _ _ h ht
  | cons k path => exact alter_distinct h ht

theorem assign_distinct {t next : Table} {path : List String} {d : Datum}
    (h : t.assign path d = some next) (ht : t.Distinct) : next.Distinct := by
  unfold assign at h
  split at h
  · cases h
  · split at h
    · exact alter_distinct h ht
    · refine within_distinct (fun t next h ht => ?_) h ht
      simp only [Option.ite_none_right_eq_some] at h
      exact alter_distinct h.2 ht

theorem assignAll_distinct {t next : Table} {pairs : List (List String × Datum)}
    (h : t.assignAll pairs = some next) (ht : t.Distinct) : next.Distinct := by
  unfold assignAll at h
  induction pairs generalizing t with
  | nil =>
    cases h
    exact ht
  | cons pair pairs ih =>
    rw [List.foldlM_cons] at h
    obtain ⟨mid, hmid, hrest⟩ := Option.bind_eq_some_iff.1 h
    exact ih hrest (assign_distinct hmid ht)

theorem addTable_distinct {t next : Table} {path : List String}
    {pairs : List (List String × Datum)} (h : t.addTable path pairs = some next)
    (ht : t.Distinct) : next.Distinct := by
  unfold addTable at h
  split at h
  · cases h
  · exact within_distinct (fun _ _ h ht => alter_distinct h ht) h ht

theorem addToTables_distinct {t next : Table} {path : List String}
    {pairs : List (List String × Datum)} (h : t.addToTables path pairs = some next)
    (ht : t.Distinct) : next.Distinct := by
  unfold addToTables at h
  split at h
  · cases h
  · exact within_distinct (fun _ _ h ht => alter_distinct h ht) h ht

/-! ## The addition that tells two tables apart -/

/-- A node under a key that was not in use. -/
theorem apart_cons_of_notMem {origin : Origin} {entries : List (String × Node)} {m₁ m₂ : Node}
    (hkey : key ∉ keysOf entries) (hm : Node.Apart d₁ d₂ address m₁ m₂) :
    Apart d₁ d₂ (key :: address) ⟨origin, (key, m₁) :: entries⟩ ⟨origin, (key, m₂) :: entries⟩ :=
  apart_cons_iff.2 ⟨origin, [], entries, m₁, m₂, ⟨List.not_mem_nil, hkey⟩, hm, rfl, rfl⟩

theorem add_apart_self (t : Table) (key : String) :
    Option.Rel (Apart d₁ d₂ [key]) (t.add key d₁) (t.add key d₂) := by
  unfold add alter
  cases hheld : t.entries.lookup key with
  | some node => exact .none
  | none => exact .some (apart_cons_of_notMem (lookup_eq_none_iff.1 hheld) .value)

/-- Changes that keep what they make of a node apart in one value, at a key of a table where no key
has two entries. -/
theorem alter_apart_self {t : Table} (ht : t.Distinct) (key : String)
    {change₁ change₂ : Option Node → Option Node}
    (hchange : ∀ held, Option.Rel (Node.Apart d₁ d₂ address) (change₁ held) (change₂ held)) :
    Option.Rel (Apart d₁ d₂ (key :: address)) (t.alter key change₁) (t.alter key change₂) := by
  obtain ⟨origin, entries⟩ := t
  by_cases hmem : key ∈ keysOf entries
  · obtain ⟨⟨k, m⟩, he, rfl⟩ := List.mem_map.1 hmem
    obtain ⟨front, back, rfl⟩ := List.append_of_mem he
    have hnodup := ht
    simp only [Distinct, keysOf, List.map_append, List.map_cons] at hnodup
    have hfront : k ∉ keysOf front := fun hk =>
      (List.disjoint_of_nodup_append hnodup) hk List.mem_cons_self
    have hback : k ∉ keysOf back := (List.nodup_cons.1 hnodup.of_append_right).1
    unfold alter
    simp only [lookup_append_cons_self hfront, Option.isSome_some, if_true,
      replaceNode_self hfront]
    exact rel_map (hchange _) fun n₁ n₂ hn => Node.Apart.table hfront hback hn
  · unfold alter
    simp only [lookup_eq_none_iff.2 hmem]
    exact rel_map (hchange _) fun n₁ n₂ hn => apart_cons_of_notMem hmem hn

/-- A value under two keys joined by a point. -/
theorem assign_apart_self {t : Table} (ht : t.Distinct) (a b : String) :
    Option.Rel (Apart d₁ d₂ [a, b]) (t.assign [a, b] d₁) (t.assign [a, b] d₂) := by
  have hadd (t : Table) :
      Option.Rel (Apart d₁ d₂ [b]) (if t.origin = .dotted then t.add b d₁ else none)
        (if t.origin = .dotted then t.add b d₂ else none) := by
    split
    · exact add_apart_self t b
    · exact .none
  have hassign (d : Datum) : t.assign [a, b] d =
      within true (fun t => if t.origin = .dotted then t.add b d else none) [a] t := rfl
  rw [hassign, hassign]
  refine alter_apart_self ht a fun held => ?_
  match held with
  | none => exact rel_toNode (hadd (empty .dotted))
  | some (.value _) => exact .none
  | some (.table origin entries) =>
    simp only
    split
    · exact .none
    · exact rel_toNode (hadd ⟨origin, entries⟩)
  | some (.tables items) =>
    cases items with
    | nil => exact .none
    | cons entries items => exact .none

theorem assignAll_append (t : Table) (pairs more : List (List String × Datum)) :
    t.assignAll (pairs ++ more) = (t.assignAll pairs).bind (·.assignAll more) := by
  unfold assignAll
  rw [List.foldlM_append]
  rfl

/-- A value among those after a header. -/
theorem assignAll_apart_self {t : Table} {pairs : List (List String × Datum)} {path : List String}
    (hself : ∀ next, t.assignAll pairs = some next →
      Option.Rel (Apart d₁ d₂ (key :: address)) (next.assign path d₁) (next.assign path d₂))
    (more : List (List String × Datum)) :
    Option.Rel (Apart d₁ d₂ (key :: address)) (t.assignAll (pairs ++ (path, d₁) :: more))
      (t.assignAll (pairs ++ (path, d₂) :: more)) := by
  rw [assignAll_append, assignAll_append]
  cases hpairs : t.assignAll pairs with
  | none => exact .none
  | some next => exact rel_bind (hself next hpairs) fun _ _ h => assignAll_apart h more

/-- A value after the header of its table. -/
theorem addTable_apart_self {t : Table} (ht : t.Distinct) (a b : String)
    (pairs more : List (List String × Datum)) :
    Option.Rel (Apart d₁ d₂ [a, b]) (t.addTable [a] (pairs ++ ([b], d₁) :: more))
      (t.addTable [a] (pairs ++ ([b], d₂) :: more)) := by
  have hall (t : Table) :
      Option.Rel (Apart d₁ d₂ [b]) (t.assignAll (pairs ++ ([b], d₁) :: more))
        (t.assignAll (pairs ++ ([b], d₂) :: more)) :=
    assignAll_apart_self (fun next _ => add_apart_self next b) more
  unfold addTable
  simp only [List.getLast?_singleton, List.dropLast_singleton, within]
  refine alter_apart_self ht a fun held => ?_
  match held with
  | none => exact rel_toNode (hall _)
  | some (.value _) => exact .none
  | some (.table .implied entries) => exact rel_toNode (hall _)
  | some (.table .header _) => exact .none
  | some (.table .dotted _) => exact .none
  | some (.tables _) => exact .none

end Table

/-! ## Tables as data -/

namespace Node

variable {d₁ d₂ : Datum} {address : List String} {key : String} {n₁ n₂ : Node}

theorem entriesToData_eq_map (entries : List (String × Node)) :
    entriesToData entries = entries.map fun (key, node) => (key, node.toDatum) := by
  induction entries with
  | nil => rfl
  | cons e entries ih => rw [entriesToData, ih, List.map_cons]

theorem Apart.toDatum_nil (h : Apart d₁ d₂ [] n₁ n₂) : n₁.toDatum = d₁ ∧ n₂.toDatum = d₂ := by
  cases h
  exact ⟨rfl, rfl⟩

theorem Apart.toDatum_cons (h : Apart d₁ d₂ (key :: address) n₁ n₂) :
    ∃ front back m₁ m₂, key ∉ keysOf front ∧ Apart d₁ d₂ address m₁ m₂ ∧
      n₁.toDatum = .record (front ++ (key, m₁.toDatum) :: back) ∧
      n₂.toDatum = .record (front ++ (key, m₂.toDatum) :: back) := by
  cases h with
  | @table origin _ _ front back m₁ m₂ hfront hback h =>
    -- The latest entry of a table comes first, the earliest field of a record.
    refine ⟨(entriesToData back).reverse, (entriesToData front).reverse, m₁, m₂, ?_, h, ?_, ?_⟩
    · simpa [entriesToData_eq_map] using hback
    · simp [toDatum, entriesToData_eq_map]
    · simp [toDatum, entriesToData_eq_map]

end Node

end EndpointCountry.Toml
