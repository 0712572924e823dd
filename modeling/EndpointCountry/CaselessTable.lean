import EndpointCountry.Country
import EndpointCountry.Unicode.Uppercase

/-!
# Caseless tables

Countries under keys whose letter case does not count: two keys are the same when their upper-case
forms agree.
-/

namespace EndpointCountry

/-- Countries under upper-case keys, each key once. -/
structure CaselessTable where
  entries : List (String × Country)

namespace CaselessTable

/-- The table without entries. -/
def empty : CaselessTable := ⟨[]⟩

/-- Puts a country under a key as it stands, and tells which one was there. A new key goes last. -/
def put (key : String) (country : Country) :
    List (String × Country) → Option Country × List (String × Country)
  | [] => (none, [(key, country)])
  | (k, held) :: rest =>
    if k = key then (some held, (key, country) :: rest)
    else
      let (previous, rest) := put key country rest
      (previous, (k, held) :: rest)

/-- What `put` tells is what stood under the key. -/
theorem put_fst (key : String) (country : Country) (entries : List (String × Country)) :
    (put key country entries).1 = entries.lookup key := by
  induction entries with
  | nil => rfl
  | cons entry rest ih =>
    obtain ⟨k, held⟩ := entry
    by_cases h : k = key
    · subst h
      simp [put]
    · have h' : (key == k) = false := by simp [Ne.symm h]
      simp [put, h, List.lookup_cons, h', ih]

/-- Putting a country under a key changes that key alone. -/
theorem lookup_put (key k : String) (country : Country) (entries : List (String × Country)) :
    (put key country entries).2.lookup k = if k = key then some country else entries.lookup k := by
  induction entries with
  | nil =>
    by_cases h : k = key
    · simp [put, h]
    · have h' : (k == key) = false := by simpa using h
      simp [put, List.lookup_cons, h, h']
  | cons entry rest ih =>
    obtain ⟨k', held⟩ := entry
    by_cases h : k' = key
    · subst h
      by_cases hk : k = k'
      · simp [put, hk]
      · have hk' : (k == k') = false := by simpa using hk
        simp [put, List.lookup_cons, hk, hk']
    · by_cases hk : k = k'
      · subst hk
        simp [put, h]
      · have hk' : (k == k') = false := by simpa using hk
        simp [put, h, List.lookup_cons, hk', ih]

/-- The country under a key. -/
def get? (t : CaselessTable) (key : String) : Option Country :=
  t.entries.lookup (Text.upper key)

/-- Whether a key is in use. -/
def contains (t : CaselessTable) (key : String) : Bool :=
  t.entries.any fun e => e.1 == Text.upper key

/-- Puts a country under a key, and tells which one was there. -/
def exchange (t : CaselessTable) (key : String) (country : Country) :
    Option Country × CaselessTable :=
  let (previous, entries) := put (Text.upper key) country t.entries
  (previous, ⟨entries⟩)

/-- Puts a country under a key, in place of the one that was there. -/
def insert (t : CaselessTable) (key : String) (country : Country) : CaselessTable :=
  (t.exchange key country).2

/-- A table tells of a key what it held before. -/
theorem exchange_fst (t : CaselessTable) (key : String) (country : Country) :
    (t.exchange key country).1 = t.get? key :=
  put_fst ..

/-- After an insertion a key has the new country if it is a spelling of the inserted one, and what
it had before if it is not. -/
theorem get?_insert (t : CaselessTable) (key k : String) (country : Country) :
    (t.insert key country).get? k =
      if Text.upper k = Text.upper key then some country else t.get? k :=
  lookup_put ..

/-- Puts countries under keys, one after another: of two equal keys the later one counts. -/
def insertAll (t : CaselessTable) (entries : List (String × Country)) : CaselessTable :=
  entries.foldl (fun t (key, country) => t.insert key country) t

/-- How many keys there are. -/
def size (t : CaselessTable) : Nat :=
  t.entries.length

/-- A table without keys. -/
def isEmpty (t : CaselessTable) : Bool :=
  t.size == 0

end CaselessTable

end EndpointCountry
