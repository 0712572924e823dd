import Mathlib
import EndpointCountry.Toml.Lexical

/-!
# Blanks and line ends with more behind them

The readers of a line do not look past its end. So they do the same when nothing or a line end comes
after their input.

* `Break` — what ends everything that stands on one line.
* `Ends` — what ends a run of characters of a class.
* `Ends.dropWhile_append`, `Ends.takeWhile_append` — runs before it.
* `skipFillerFrom_append`, `skipBlankLines_append` — what may stand between the parts of a value.
-/

namespace EndpointCountry.Toml

variable {X : List Char}

/-! ## Line ends -/

/-- Nothing, or a line end with anything behind it. -/
def Break (X : List Char) : Prop :=
  X = [] ∨ (newline? X).isSome = true

theorem newline?_eq_some_iff {cs rest : List Char} :
    newline? cs = some rest ↔ cs = '\n' :: rest ∨ cs = '\r' :: '\n' :: rest := by
  unfold newline?
  split <;> simp_all [eq_comm]

theorem Break.cases (hX : Break X) : X = [] ∨ ∃ Y, X = '\n' :: Y ∨ X = '\r' :: '\n' :: Y := by
  rcases hX with rfl | h
  · exact .inl rfl
  · obtain ⟨Y, hY⟩ := Option.isSome_iff_exists.1 h
    exact .inr ⟨Y, newline?_eq_some_iff.1 hY⟩

/-! ## Runs of characters -/

/-- No character of a class comes first. -/
def Ends (p : Char → Bool) (X : List Char) : Prop :=
  ∀ c ∈ X.head?, p c = false

theorem Break.ends (hX : Break X) {p : Char → Bool} (hn : p '\n' = false)
    (hr : p '\r' = false) : Ends p X := by
  intro c hc
  obtain rfl | ⟨Y, rfl | rfl⟩ := hX.cases
  · cases hc
  · cases hc
    exact hn
  · cases hc
    exact hr

namespace Ends

variable {p q : Char → Bool} {cs : List Char} {c : Char}

theorem mono (hX : Ends p X) (h : ∀ c, q c = true → p c = true) : Ends q X := by
  intro c hc
  by_contra hq
  rw [Bool.not_eq_false] at hq
  have hp := hX c hc
  rw [h c hq] at hp
  cases hp

theorem dropWhile_append (hX : Ends p X) (cs : List Char) :
    (cs ++ X).dropWhile p = cs.dropWhile p ++ X := by
  have hfirst : X.dropWhile p = X := by
    cases X with
    | nil => rfl
    | cons c X => exact List.dropWhile_cons_of_neg (by simp [hX c rfl])
  rw [List.dropWhile_append]
  split
  · rename_i hnil
    rw [List.isEmpty_iff.1 hnil, hfirst]
    rfl
  · rfl

theorem takeWhile_append (hX : Ends p X) (cs : List Char) :
    (cs ++ X).takeWhile p = cs.takeWhile p := by
  have hfirst : X.takeWhile p = [] := by
    cases X with
    | nil => rfl
    | cons c X => exact List.takeWhile_cons_of_neg (by simp [hX c rfl])
  rw [List.takeWhile_append]
  split
  · rename_i hlen
    rw [hfirst, List.append_nil, List.takeWhile_prefix p |>.eq_of_length hlen]
  · rfl

theorem ne_cons (hX : Ends p X) (hc : p c = true) (h : ∀ rest, cs ≠ c :: rest)
    (rest : List Char) : cs ++ X ≠ c :: rest := by
  intro heq
  cases cs with
  | nil =>
    rw [List.nil_append] at heq
    subst heq
    rw [hX c rfl] at hc
    cases hc
  | cons d tail => exact h tail (by rw [(List.cons_eq_cons.1 heq).1])

theorem ne_cons_cons (hX : Ends p X) (hc : p c = true) (h : ∀ rest, cs ≠ c :: c :: rest)
    (rest : List Char) : cs ++ X ≠ c :: c :: rest := by
  intro heq
  cases cs with
  | nil => exact hX.ne_cons hc (by simp) _ heq
  | cons d tail =>
    obtain ⟨rfl, htail⟩ := List.cons_eq_cons.1 heq
    exact hX.ne_cons hc (fun rest hrest => h rest (by rw [hrest])) _ htail

end Ends

/-- A character that is no part of a line end comes from before it. -/
theorem Break.ne_cons (hX : Break X) {cs : List Char} {c : Char} (hn : c ≠ '\n') (hr : c ≠ '\r')
    (h : ∀ rest, cs ≠ c :: rest) (rest : List Char) : cs ++ X ≠ c :: rest :=
  (hX.ends (p := (· == c)) (by simpa using hn.symm) (by simpa using hr.symm)).ne_cons (by simp) h
    rest

theorem Break.ne_cons_cons (hX : Break X) {cs : List Char} {c : Char} (hn : c ≠ '\n')
    (hr : c ≠ '\r') (h : ∀ rest, cs ≠ c :: c :: rest) (rest : List Char) :
    cs ++ X ≠ c :: c :: rest :=
  (hX.ends (p := (· == c)) (by simpa using hn.symm) (by simpa using hr.symm)).ne_cons_cons (by simp)
    h rest

theorem skipSpaces_append (hX : Ends isSpace X) (cs : List Char) :
    skipSpaces (cs ++ X) = skipSpaces cs ++ X :=
  hX.dropWhile_append cs

theorem Break.skipSpaces_append (hX : Break X) (cs : List Char) :
    skipSpaces (cs ++ X) = skipSpaces cs ++ X :=
  (hX.ends rfl rfl).dropWhile_append cs

theorem length_skipSpaces_le (cs : List Char) : (skipSpaces cs).length ≤ cs.length :=
  (List.dropWhile_suffix _).length_le

theorem length_lt_of_newline? {cs rest : List Char} (h : newline? cs = some rest) :
    rest.length < cs.length := by
  obtain rfl | rfl := newline?_eq_some_iff.1 h
  · exact Nat.lt_succ_self _
  · simp only [List.length_cons]
    omega

theorem newline?_append {cs rest : List Char} (h : newline? cs = some rest) (X : List Char) :
    newline? (cs ++ X) = some (rest ++ X) := by
  obtain rfl | rfl := newline?_eq_some_iff.1 h
  all_goals rfl

/-- A line end may only appear behind an input that is empty or a lone carriage return. -/
theorem newline?_append_eq_none {c : Char} {cs : List Char} (h : newline? (c :: cs) = none)
    (hc : c ≠ '\r') (X : List Char) : newline? (c :: cs ++ X) = none := by
  have hc' : c ≠ '\n' := by
    rintro rfl
    cases h
  unfold newline?
  split <;> simp_all

/-! ## Blanks, line ends and comments between the parts of a value -/

theorem skipFillerFrom_append {inComment : Bool} {cs rest : List Char} {c : Char}
    (h : skipFillerFrom inComment cs = some (c :: rest)) (hc : c ≠ '\r') (X : List Char) :
    (c :: rest).length ≤ cs.length ∧
      skipFillerFrom inComment (cs ++ X) = some (c :: rest ++ X) := by
  fun_induction skipFillerFrom inComment cs with
  | case1 => cases h
  | case2 b cs ih | case3 b cs ih =>
    obtain ⟨hlen, happ⟩ := ih h
    refine ⟨by grind, ?_⟩
    simpa [skipFillerFrom] using happ
  | case4 d cs hn hr hplain ih =>
    obtain ⟨hlen, happ⟩ := ih h
    have hd : d ≠ '\r' := by
      rintro rfl
      cases hplain
    refine ⟨by grind, ?_⟩
    rw [List.cons_append, skipFillerFrom, if_pos hplain, happ]
    all_goals grind
  | case5 => cases h
  | case6 d cs hn hr hspace ih =>
    obtain ⟨hlen, happ⟩ := ih h
    have hd : d ≠ '\r' := by
      rintro rfl
      cases hspace
    refine ⟨by grind, ?_⟩
    rw [List.cons_append, skipFillerFrom, if_pos hspace, happ]
    all_goals grind
  | case7 cs hn hr hspace ih =>
    obtain ⟨hlen, happ⟩ := ih h
    refine ⟨by grind, ?_⟩
    simpa [skipFillerFrom, isSpace] using happ
  | case8 d cs hn hr hspace hhash =>
    cases h
    refine ⟨le_rfl, ?_⟩
    rw [List.cons_append, skipFillerFrom, if_neg hspace, if_neg hhash]
    all_goals grind

/-- Blank lines at the front of a text are not affected by what follows something else. -/
theorem skipBlankLines_append {cs rest : List Char} {c : Char}
    (h : skipBlankLines cs = c :: rest) (hc : c ≠ '\r') (X : List Char) :
    (c :: rest).length ≤ cs.length ∧ skipBlankLines (cs ++ X) = c :: rest ++ X := by
  fun_induction skipBlankLines cs with
  | case1 cs ih =>
    obtain ⟨hlen, happ⟩ := ih h
    refine ⟨by grind, ?_⟩
    simpa [skipBlankLines] using happ
  | case2 d cs hr hblank ih =>
    obtain ⟨hlen, happ⟩ := ih h
    have hd : d ≠ '\r' := by
      rintro rfl
      cases hblank
    refine ⟨by grind, ?_⟩
    rw [List.cons_append, skipBlankLines, if_pos hblank, happ]
    grind
  | case3 d cs hr hblank =>
    cases h
    refine ⟨le_rfl, ?_⟩
    rw [List.cons_append, skipBlankLines, if_neg hblank]
    grind
  | case4 => cases h

theorem skipBlankLines_ne_newline (cs rest : List Char) :
    skipBlankLines cs ≠ '\r' :: '\n' :: rest := by
  fun_induction skipBlankLines cs with
  | case1 cs ih => exact ih
  | case2 d cs hr hblank ih => exact ih
  | case3 d cs hr hblank =>
    rintro heq
    cases heq
    exact hr _ rfl rfl
  | case4 => simp

end EndpointCountry.Toml
