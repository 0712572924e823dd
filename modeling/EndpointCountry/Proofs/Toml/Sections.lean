import EndpointCountry.Proofs.Toml.Table
import EndpointCountry.Toml.Document

/-!
# Documents that differ in one value

Statements that differ in the value under one key make up tables that differ in that value, or are
refused both.

* `tableInForce` — the table that the next value belongs to.
* `addSectionsBy_apart`, `addSectionsBy_apart_self` — the headers after that value, those before.
* `tableOf?_apart` — the tables of two such documents.
-/

namespace EndpointCountry.Toml

variable {d₁ d₂ : Datum} {address : List String} {key : String}

/-! ## The header in force -/

/-- The path of the table that values after some statements belong to, if it is not one of a list of
tables: the table that the last header names. -/
def tableInForce (ss : List Statement) : Option (List String) :=
  ss.foldl (fun held st =>
    match st with
    | .assign _ _ => held
    | .table path => some path
    | .tables _ => none) (some [])

/-- Statements that give values. -/
def assigns (pairs : List (List String × Datum)) : List Statement :=
  pairs.map fun (path, d) => .assign path d

theorem splitSection_assigns_append (pairs : List (List String × Datum)) (ss : List Statement) :
    splitSection (assigns pairs ++ ss) =
      (pairs ++ (splitSection ss).1, (splitSection ss).2) := by
  induction pairs with
  | nil => rfl
  | cons pair pairs ih =>
    have hstep : splitSection (assigns (pair :: pairs) ++ ss) =
        (pair :: (splitSection (assigns pairs ++ ss)).1, (splitSection (assigns pairs ++ ss)).2) :=
      rfl
    rw [hstep, ih]
    rfl

/-- The values before a header. -/
theorem splitSection_append_table (ss : List Statement) (path : List String)
    (more : List Statement) :
    splitSection (ss ++ .table path :: more) =
      ((splitSection ss).1, (splitSection ss).2 ++ .table path :: more) := by
  induction ss with
  | nil => rfl
  | cons st ss ih =>
    cases st with
    | assign p d =>
      simp only [List.cons_append, splitSection, ih]
    | table p => rfl
    | tables p => rfl

/-- Statements with a table in force only give values, or end in its header and values. -/
theorem tableInForce_eq_some {ss : List Statement} {path : List String}
    (h : tableInForce ss = some path) :
    (path = [] ∧ ∃ pairs, ss = assigns pairs) ∨
      ∃ front pairs, ss = front ++ .table path :: assigns pairs := by
  induction ss using List.reverseRecOn with
  | nil =>
    cases h
    exact .inl ⟨rfl, [], rfl⟩
  | append_singleton ss st ih =>
    unfold tableInForce at h ih
    rw [List.foldl_append] at h
    cases st with
    | assign p d =>
      obtain ⟨rfl, pairs, rfl⟩ | ⟨front, pairs, rfl⟩ := ih h
      · exact .inl ⟨rfl, pairs ++ [(p, d)], by simp [assigns]⟩
      · exact .inr ⟨front, pairs ++ [(p, d)], by simp [assigns]⟩
    | table p =>
      cases h
      exact .inr ⟨ss, [], rfl⟩
    | tables p => cases h

/-! ## Headers -/

theorem addSectionsBy_apart {fuel : Nat} {ss : List Statement} {t₁ t₂ : Table}
    (h : Table.Apart d₁ d₂ (key :: address) t₁ t₂) :
    Option.Rel (Table.Apart d₁ d₂ (key :: address)) (addSectionsBy fuel t₁ ss)
      (addSectionsBy fuel t₂ ss) := by
  induction fuel generalizing ss t₁ t₂ with
  | zero =>
    cases ss with
    | nil => exact .some h
    | cons st ss => cases st <;> exact .none
  | succ fuel ih =>
    cases ss with
    | nil => exact .some h
    | cons st ss =>
      cases st with
      | assign p d => exact .none
      | table p => exact rel_bind (Table.addTable_apart h _ _) fun _ _ => ih
      | tables p => exact rel_bind (Table.addToTables_apart h _ _) fun _ _ => ih

/-- The headers up to the one in force, and those after it. -/
theorem addSectionsBy_apart_self {table path : List String} {pairs : List (List String × Datum)}
    (hself : ∀ (t : Table) more, t.Distinct →
      Option.Rel (Table.Apart d₁ d₂ (key :: address))
        (t.addTable table (pairs ++ (path, d₁) :: more))
        (t.addTable table (pairs ++ (path, d₂) :: more)))
    {fuel : Nat} {front more : List Statement} {t : Table} (ht : t.Distinct) :
    Option.Rel (Table.Apart d₁ d₂ (key :: address))
      (addSectionsBy fuel t
        (front ++ .table table :: (assigns pairs ++ .assign path d₁ :: more)))
      (addSectionsBy fuel t
        (front ++ .table table :: (assigns pairs ++ .assign path d₂ :: more))) := by
  induction fuel generalizing front t with
  | zero =>
    match front with
    | [] => exact .none
    | .assign _ _ :: _ => exact .none
    | .table _ :: _ => exact .none
    | .tables _ :: _ => exact .none
  | succ fuel ih =>
    match front with
    | [] =>
      simp only [List.nil_append, addSectionsBy, splitSection_assigns_append, splitSection]
      exact rel_bind (hself t _ ht) fun _ _ h => addSectionsBy_apart h
    | .assign p d :: front => exact .none
    | .table p :: front =>
      simp only [List.cons_append, addSectionsBy, splitSection_append_table]
      cases hnext : t.addTable p (splitSection front).1 with
      | none => exact .none
      | some next => exact ih (Table.addTable_distinct hnext ht)
    | .tables p :: front =>
      simp only [List.cons_append, addSectionsBy, splitSection_append_table]
      cases hnext : t.addToTables p (splitSection front).1 with
      | none => exact .none
      | some next => exact ih (Table.addToTables_distinct hnext ht)

/-- Documents that differ in the value under one key. -/
theorem tableOf?_apart {ss more : List Statement} {table path : List String} {a b : String}
    (hforce : tableInForce ss = some table) (haddress : table ++ path = [a, b])
    (hpath : path ≠ []) :
    Option.Rel (Table.Apart d₁ d₂ [a, b]) (tableOf? (ss ++ .assign path d₁ :: more))
      (tableOf? (ss ++ .assign path d₂ :: more)) := by
  unfold tableOf?
  have hlen (d : Datum) :
      (ss ++ .assign path d :: more).length = ss.length + (more.length + 1) := by
    simp
  simp only [hlen]
  obtain ⟨rfl, pairs, rfl⟩ | ⟨front, pairs, rfl⟩ := tableInForce_eq_some hforce
  · rw [List.nil_append] at haddress
    subst haddress
    simp only [splitSection_assigns_append, splitSection]
    have hself (next : Table) (hnext : (Table.empty .header).assignAll pairs = some next) :
        Option.Rel (Table.Apart d₁ d₂ [a, b]) (next.assign [a, b] d₁) (next.assign [a, b] d₂) :=
      Table.assign_apart_self (Table.assignAll_distinct hnext (Table.distinct_empty _)) a b
    exact rel_bind (Table.assignAll_apart_self hself _) fun _ _ h => addSectionsBy_apart h
  · have hself (t : Table) (more : List (List String × Datum)) (ht : t.Distinct) :
        Option.Rel (Table.Apart d₁ d₂ [a, b]) (t.addTable table (pairs ++ (path, d₁) :: more))
          (t.addTable table (pairs ++ (path, d₂) :: more)) := by
      match table with
      | [] => exact .none
      | [_] =>
        obtain ⟨rfl, rfl⟩ := List.cons_eq_cons.1 haddress
        exact Table.addTable_apart_self ht _ b pairs more
      | _ :: _ :: rest =>
        obtain ⟨-, hrest⟩ := List.cons_eq_cons.1 haddress
        obtain ⟨-, hnil⟩ := List.cons_eq_cons.1 hrest
        exact absurd (List.append_eq_nil_iff.1 hnil).2 hpath
    simp only [List.append_assoc, List.cons_append, splitSection_append_table]
    cases hnext : (Table.empty .header).assignAll (splitSection front).1 with
    | none => exact .none
    | some next =>
      exact addSectionsBy_apart_self hself
        (Table.assignAll_distinct hnext (Table.distinct_empty _))

end EndpointCountry.Toml
