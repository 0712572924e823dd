import EndpointCountry.Config.Batch
import EndpointCountry.Proofs.Entries

/-!
# Settings that differ in one field

The settings of a batch are read field by field, so a record with another value under one key gives
settings that differ in that field only.

* `Fields.ofDatum?_record` — a record with another value under one key.
* `Input.ofDatum?_path`, `Batch.ofDatum?_input` — another path of the input, and another input.
-/

namespace EndpointCountry.Config

namespace Fields

/-- The same values but for one place. -/
def withValue (f : Fields) (place : Nat) (d : Datum) : Fields :=
  { f with values := f.values.set place (some d) }

variable {α : Type} {f : Fields} {place k : Nat} {d : Datum}

theorem given_withValue_of_ne (h : place ≠ k) : (f.withValue place d).given k = f.given k := by
  rw [given, withValue, List.getElem?_set_ne h, given]

theorem required_withValue_self (h : (f.given place).isSome = true) (read : Datum → Option α) :
    (f.withValue place d).required place read = read d := by
  have hplace : place < f.values.length := by
    by_contra hno
    rw [given, List.getElem?_eq_none (Nat.le_of_not_lt hno)] at h
    cases h
  rw [required, given, withValue, List.getElem?_set_self hplace]
  rfl

theorem required_withValue_of_ne (h : place ≠ k) (read : Datum → Option α) :
    (f.withValue place d).required k read = f.required k read := by
  rw [required, given_withValue_of_ne h, required]

theorem optional_withValue_of_ne (h : place ≠ k) (read : Datum → Option α) :
    (f.withValue place d).optional k read = f.optional k read := by
  rw [optional, given_withValue_of_ne h, optional]
  rfl

theorem withDefault_withValue_of_ne (h : place ≠ k) (value : α) (read : Datum → Option α) :
    (f.withValue place d).withDefault k value read = f.withDefault k value read := by
  rw [withDefault, given_withValue_of_ne h, withDefault]

theorem ofDatum?_record_eq_some_iff {names : List String} {entries : List (String × Datum)} :
    ofDatum? names (.record entries) = some f ↔
      (∀ e ∈ entries, e.1 ∈ names ∨ e.2.fits = true) ∧
        f = ⟨true, names.map fun name => entries.lookup name⟩ := by
  rw [ofDatum?, Option.ite_none_right_eq_some, List.all_eq_true, Option.some.injEq,
    eq_comm (b := f)]
  simp

/-- A record with another value under a key that is read. -/
theorem ofDatum?_record {names : List String} (hnames : names.Nodup) (place : Nat) {key : String}
    (hplace : names[place]? = some key) {front back : List (String × Datum)}
    (hfront : key ∉ keysOf front)
    (h : ofDatum? names (.record (front ++ (key, d) :: back)) = some f) (d' : Datum) :
    f.given place = some d ∧
      ofDatum? names (.record (front ++ (key, d') :: back)) = some (f.withValue place d') := by
  have hkey := List.mem_of_getElem? hplace
  obtain ⟨hfits, rfl⟩ := ofDatum?_record_eq_some_iff.1 h
  constructor
  · simp [given, hplace, lookup_append_cons_self hfront]
  · refine ofDatum?_record_eq_some_iff.2 ⟨?_, ?_⟩
    · rw [List.forall_mem_append, List.forall_mem_cons] at hfits ⊢
      exact ⟨hfits.1, .inl hkey, hfits.2.2⟩
    · rw [withValue, map_lookup_append_cons hnames hplace hfront d d']

end Fields

/-- Another path in the settings of an input. -/
theorem Input.ofDatum?_path {front back : List (String × Datum)} (hfront : "path" ∉ keysOf front)
    {s : String} {i : Input}
    (h : Input.ofDatum? (.record (front ++ ("path", .text s) :: back)) = some i) (s' : String) :
    i.path = s ∧ Input.ofDatum? (.record (front ++ ("path", .text s') :: back)) =
      some { i with path := s' } := by
  unfold Input.ofDatum? at h ⊢
  simp only [Option.bind_eq_bind, Option.bind_eq_some_iff, Option.some.injEq] at h
  obtain ⟨f, hf, path, hpath, delimiter, hdelimiter, endpoint, hendpoint, scheme, hscheme, value,
    hvalue, rfl⟩ := h
  obtain ⟨hgiven, hf'⟩ := Fields.ofDatum?_record (by decide) 0 rfl hfront hf (.text s')
  rw [Fields.required, hgiven] at hpath
  cases hpath
  refine ⟨rfl, ?_⟩
  rw [hf']
  simp only [Option.bind_eq_bind, Option.bind_some]
  rw [Fields.required_withValue_self (by rw [hgiven]; rfl)]
  simp [Fields.optional_withValue_of_ne, Datum.asText?, hdelimiter, hendpoint, hscheme, hvalue]

/-- Another input in the settings of a batch. -/
theorem Batch.ofDatum?_input {front back : List (String × Datum)} (hfront : "input" ∉ keysOf front)
    {d : Datum} {c : Batch}
    (h : Batch.ofDatum? (.record (front ++ ("input", d) :: back)) = some c) :
    Input.ofDatum? d = some c.input ∧ ∀ d' i, Input.ofDatum? d' = some i →
      Batch.ofDatum? (.record (front ++ ("input", d') :: back)) = some { c with input := i } := by
  unfold Batch.ofDatum? at h ⊢
  simp only [Option.bind_eq_bind, Option.bind_eq_some_iff, Option.some.injEq] at h
  obtain ⟨f, hf, info, hinfo, input, hinput, output, houtput, resolver, hresolver, policy, hpolicy,
    rfl⟩ := h
  obtain ⟨hgiven, -⟩ := Fields.ofDatum?_record (by decide) 1 rfl hfront hf d
  rw [Fields.required, hgiven] at hinput
  refine ⟨hinput, fun d' i hd' => ?_⟩
  obtain ⟨-, hf'⟩ := Fields.ofDatum?_record (by decide) 1 rfl hfront hf d'
  rw [hf']
  simp only [Option.bind_eq_bind, Option.bind_some]
  rw [Fields.required_withValue_self (by rw [hgiven]; rfl)]
  simp [Fields.required_withValue_of_ne, Fields.withDefault_withValue_of_ne, hinfo, hd', houtput,
    hresolver, hpolicy]

end EndpointCountry.Config
