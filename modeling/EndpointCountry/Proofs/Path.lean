import Mathlib
import EndpointCountry.Path

/-!
# Names at the end of paths

A path taken from a base ends in the name that it ends in by itself, and a name is its stem unless
it has an extension.

* `splitSlash_append`, `namesL_append` — a path cut at one of its slashes.
* `joinL_cases`, `namesL_joinL` — a path taken from a base.
* `fileNameL?_joinL` — the last name of a path, taken from any base.
* `lastPart`, `lastPart_joinL`, `fileNameL?_of_lastPart` — what stands behind the last slash.
* `stemL_append`, `stemL_isPrefix` — the stem of a name.
-/

namespace EndpointCountry.Path

/-! ## Splitting at one slash -/

theorem splitSlash_cons {c : Char} (hc : c ≠ '/') {rest part : List Char} {parts : List (List Char)}
    (h : splitSlash rest = part :: parts) : splitSlash (c :: rest) = (c :: part) :: parts := by
  rw [splitSlash.eq_3 _ _ hc, h]

theorem splitSlash_append (xs ys : List Char) :
    splitSlash (xs ++ '/' :: ys) = splitSlash xs ++ splitSlash ys := by
  fun_induction splitSlash xs with
  | case1 => rfl
  | case2 rest ih =>
    rw [List.cons_append, splitSlash, ih, List.cons_append]
  | case3 c rest _ h ih => exact absurd h (splitSlash_ne_nil rest)
  | case4 c rest hc part parts h ih =>
    rw [h, List.cons_append] at ih
    rw [List.cons_append, splitSlash_cons hc ih, List.cons_append]

theorem splitSlash_of_notMem {part : List Char} (h : '/' ∉ part) : splitSlash part = [part] := by
  induction part with
  | nil => rfl
  | cons c part ih =>
    obtain ⟨hc, hpart⟩ := not_or.1 (mt List.mem_cons.2 h)
    exact splitSlash_cons (Ne.symm hc) (ih hpart)

theorem namesL_append (xs ys : List Char) :
    namesL (xs ++ '/' :: ys) = namesL xs ++ namesL ys := by
  rw [namesL, splitSlash_append, List.filter_append]
  rfl

/-! ## Joining -/

theorem joinL_of_isAbsoluteL (base : List Char) {path : List Char} (h : isAbsoluteL path = true) :
    joinL base path = path := if_pos h

/-- A path that does not start at the root comes after a slash, and before the slash are the names
of the base, unless the base is empty. -/
theorem joinL_of_relative (base : List Char) {path : List Char} (h : isAbsoluteL path = false) :
    (base = [] ∧ joinL base path = path) ∨
      ∃ front, joinL base path = front ++ '/' :: path ∧ namesL front = namesL base := by
  rw [joinL, if_neg (by simp [h])]
  by_cases hnil : base = []
  · exact .inl ⟨hnil, by rw [if_pos (.inl hnil), hnil, List.nil_append]⟩
  right
  by_cases hlast : base.getLast? = some '/'
  · obtain ⟨front, rfl⟩ := List.getLast?_eq_some_iff.1 hlast
    refine ⟨front, by rw [if_pos (.inr hlast), List.append_assoc, List.singleton_append], ?_⟩
    rw [namesL_append]
    exact (List.append_nil _).symm
  · exact ⟨base, if_neg (not_or.2 ⟨hnil, hlast⟩), rfl⟩

/-- A path taken from a base is the path itself, or the path after a slash. -/
theorem joinL_cases (base path : List Char) :
    joinL base path = path ∨ ∃ front, joinL base path = front ++ '/' :: path := by
  by_cases habsolute : isAbsoluteL path = true
  · exact .inl (joinL_of_isAbsoluteL base habsolute)
  rcases joinL_of_relative base (Bool.eq_false_of_not_eq_true habsolute) with
    ⟨-, hjoin⟩ | ⟨front, hjoin, -⟩
  · exact .inl hjoin
  · exact .inr ⟨front, hjoin⟩

theorem namesL_joinL {base path : List Char} (h : isAbsoluteL path = false) :
    namesL (joinL base path) = namesL base ++ namesL path := by
  rcases joinL_of_relative base h with ⟨rfl, hjoin⟩ | ⟨front, hjoin, hnames⟩
  · rw [hjoin]
    rfl
  · rw [hjoin, namesL_append, hnames]

/-! ## The last name -/

/-- A path that ends in a name ends in it after any slash. -/
theorem fileNameL?_append (xs : List Char) {path name : List Char}
    (h : fileNameL? path = some name) : fileNameL? (xs ++ '/' :: path) = some name := by
  unfold fileNameL? at h ⊢
  rw [namesL_append, List.getLast?_append]
  split at h
  · rename_i last hlast
    rw [hlast, Option.some_or]
    exact h
  · cases h

/-- A path that ends in a name ends in it from every base. -/
theorem fileNameL?_joinL (base : List Char) {path name : List Char}
    (h : fileNameL? path = some name) : fileNameL? (joinL base path) = some name := by
  rcases joinL_cases base path with hjoin | ⟨front, hjoin⟩
  · rw [hjoin, h]
  · rw [hjoin, fileNameL?_append front h]

/-- The last name of a path is no point or two, and no slash is in it. -/
theorem fileNameL?_eq_some {path name : List Char} (h : fileNameL? path = some name) :
    isName name = true ∧ name ≠ ['.', '.'] ∧ '/' ∉ name := by
  unfold fileNameL? at h
  split at h
  · rename_i last hlast
    split at h
    · cases h
    · rename_i hdots
      cases h
      obtain ⟨hmem, hname⟩ := List.mem_filter.1 (List.mem_of_getLast? hlast)
      exact ⟨hname, hdots, slash_notMem_of_mem_splitSlash hmem⟩
  · cases h

/-! ## The last part -/

/-- What stands behind the last slash of a path. -/
def lastPart (path : List Char) : List Char :=
  (splitSlash path).getLast (splitSlash_ne_nil path)

theorem slash_notMem_lastPart (path : List Char) : '/' ∉ lastPart path :=
  slash_notMem_of_mem_splitSlash (List.getLast_mem (splitSlash_ne_nil path))

theorem lastPart_append (xs ys : List Char) : lastPart (xs ++ '/' :: ys) = lastPart ys := by
  simp only [lastPart, splitSlash_append]
  exact List.getLast_append_of_ne_nil _ (splitSlash_ne_nil ys)

theorem lastPart_of_notMem {part : List Char} (h : '/' ∉ part) : lastPart part = part := by
  simp only [lastPart, splitSlash_of_notMem h, List.getLast_singleton]

/-- A path that holds a slash ends in one and its last part. -/
theorem exists_eq_append_lastPart {path : List Char} (h : '/' ∈ path) :
    ∃ front, path = front ++ '/' :: lastPart path := by
  obtain ⟨back, front, hreverse, hback⟩ := List.eq_append_cons_of_mem (List.mem_reverse.2 h)
  have hpath : path = front.reverse ++ '/' :: back.reverse := by
    rw [← List.reverse_reverse path, hreverse]
    simp
  have hlast : lastPart path = back.reverse := by
    rw [hpath, lastPart_append, lastPart_of_notMem (mt List.mem_reverse.1 hback)]
  exact ⟨front.reverse, by rw [hlast, hpath]⟩

theorem eq_nil_or_getLast?_of_lastPart {path : List Char} (h : lastPart path = []) :
    path = [] ∨ path.getLast? = some '/' := by
  by_cases hslash : '/' ∈ path
  · obtain ⟨front, hpath⟩ := exists_eq_append_lastPart hslash
    rw [h] at hpath
    right
    rw [hpath, List.getLast?_concat]
  · left
    rwa [lastPart_of_notMem hslash] at h

theorem lastPart_joinL (base path : List Char) : lastPart (joinL base path) = lastPart path := by
  rcases joinL_cases base path with hjoin | ⟨front, hjoin⟩
  · rw [hjoin]
  · rw [hjoin, lastPart_append]

theorem lastPart_join (base path : String) :
    lastPart (join base path).toList = lastPart path.toList := by
  rw [join, String.toList_ofList, lastPart_joinL]

/-- What holds no slash goes on the last part of a path. -/
theorem lastPart_append_of_notMem (path : List Char) {ending : List Char} (h : '/' ∉ ending) :
    lastPart (path ++ ending) = lastPart path ++ ending := by
  by_cases hslash : '/' ∈ path
  · obtain ⟨front, hpath⟩ := exists_eq_append_lastPart hslash
    have hlast : '/' ∉ lastPart path ++ ending := by
      simp [slash_notMem_lastPart, h]
    conv_lhs => rw [hpath]
    rw [List.append_assoc, List.cons_append, lastPart_append, lastPart_of_notMem hlast]
  · rw [lastPart_of_notMem hslash, lastPart_of_notMem (by simp [hslash, h])]

theorem fileNameL?_of_lastPart {path : List Char} (h : isName (lastPart path) = true)
    (hdots : lastPart path ≠ ['.', '.']) : fileNameL? path = some (lastPart path) := by
  have hnames : (namesL path).getLast? = some (lastPart path) := by
    rw [namesL, ← List.dropLast_append_getLast (splitSlash_ne_nil path), List.filter_append]
    change (_ ++ List.filter isName [lastPart path]).getLast? = _
    rw [List.filter_cons_of_pos h]
    exact List.getLast?_concat
  rw [fileNameL?, hnames]
  exact if_neg hdots

theorem fileNameL?_of_namesL {path : List Char} (h : namesL path = []) : fileNameL? path = none := by
  rw [fileNameL?, h]
  rfl

/-! ## Stems -/

/-- An extension is what follows the last point of a name, unless nothing stands before it. -/
theorem stemL_append {front extension : List Char} (hfront : front ≠ [])
    (hext : '.' ∉ extension) : stemL (front ++ '.' :: extension) = front := by
  have hpass : ∀ c ∈ extension.reverse, decide (c ≠ '.') = true := by
    intro c hc
    rw [decide_eq_true_eq]
    rintro rfl
    exact hext (List.mem_reverse.1 hc)
  have hreverse : (front ++ '.' :: extension).reverse =
      extension.reverse ++ '.' :: front.reverse := by
    rw [List.reverse_append, List.reverse_cons, List.append_assoc, List.singleton_append]
  have hfrontReverse : front.reverse ≠ [] := mt List.reverse_eq_nil_iff.1 hfront
  rw [stemL, hreverse, List.dropWhile_append_of_pos hpass,
    List.dropWhile_cons_of_neg (by decide), List.drop_one, List.tail_cons]
  simp only [if_neg hfrontReverse, List.reverse_reverse]

theorem stemL_isPrefix (name : List Char) : stemL name <+: name := by
  simp only [stemL]
  split
  · exact List.prefix_rfl
  · rw [← List.reverse_suffix, List.reverse_reverse]
    exact (List.drop_suffix _ _).trans (List.dropWhile_suffix _)

end EndpointCountry.Path
