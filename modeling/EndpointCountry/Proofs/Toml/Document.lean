import EndpointCountry.Proofs.Toml.Value
import EndpointCountry.Toml.Document

/-!
# Documents line by line

Lines say the same whatever lines come after them.

* `lineEnd?_append`, `statement?_append` — the end of a line, and a statement with it.
* `lines?` — the statements of some lines; no bound shows.
* `lines?_append` — the statements of lines and of the lines after them.
-/

namespace EndpointCountry.Toml

variable {X : List Char} {m n : Nat}

/-! ## The end of a line -/

/-- What is left of an input after blanks and a comment. -/
def lineTail? (cs : List Char) : Option (List Char) :=
  match skipSpaces cs with
  | '#' :: rest => comment? rest
  | rest => some rest

theorem lineEnd?_eq_some_iff {cs rest : List Char} :
    lineEnd? cs = some rest ↔
      ∃ tail, lineTail? cs = some tail ∧ (tail = [] ∧ rest = [] ∨ newline? tail = some rest) := by
  have hfinish (tail : List Char) :
      (if tail.isEmpty then some [] else newline? tail) = some rest ↔
        tail = [] ∧ rest = [] ∨ newline? tail = some rest := by
    cases tail with
    | nil => simp [newline?, eq_comm]
    | cons c tail => simp
  have hbind : lineEnd? cs =
      (lineTail? cs).bind fun tail => if tail.isEmpty then some [] else newline? tail := by
    unfold lineEnd? lineTail?
    generalize skipSpaces cs = text
    split <;> simp_all
  simp only [hbind, Option.bind_eq_some_iff, hfinish]

theorem lineTail?_append (hX : Break X) {cs tail : List Char} (h : lineTail? cs = some tail) :
    tail.length ≤ cs.length ∧ lineTail? (cs ++ X) = some (tail ++ X) := by
  have hskip := length_skipSpaces_le cs
  unfold lineTail? at h ⊢
  rw [hX.skipSpaces_append]
  split at h
  · rename_i text hhash
    unfold comment? at h
    simp only [Option.ite_none_right_eq_some, Bool.or_eq_true] at h
    obtain ⟨hend, heq⟩ := h
    cases heq
    have hlen := (List.dropWhile_suffix (l := text) isPlain).length_le
    rw [hhash, List.length_cons] at hskip
    refine ⟨by omega, ?_⟩
    rw [hhash]
    simp only [List.cons_append, comment?, (hX.ends (p := isPlain) rfl rfl).dropWhile_append]
    rw [if_pos]
    rcases hend with hnil | hline
    · rw [List.isEmpty_iff.1 hnil, List.nil_append]
      rcases hX with rfl | hX
      · rfl
      · rw [hX, Bool.or_true]
    · obtain ⟨Y, hY⟩ := Option.isSome_iff_exists.1 hline
      rw [newline?_append hY, Option.isSome_some, Bool.or_true]
  · rename_i hhash
    cases h
    refine ⟨hskip, ?_⟩
    split
    · rename_i text htext
      exact absurd htext (hX.ne_cons (by decide) (by decide) hhash text)
    · rfl

theorem length_lineEnd?_le {cs rest : List Char} (h : lineEnd? cs = some rest) :
    rest.length ≤ cs.length := by
  obtain ⟨tail, htail, ⟨-, rfl⟩ | hline⟩ := lineEnd?_eq_some_iff.1 h
  · exact Nat.zero_le _
  · have hlen := (lineTail?_append (.inl rfl) htail).1
    have hshort := length_lt_of_newline? hline
    omega

theorem length_lineEnd?_lt {c : Char} {cs rest : List Char}
    (h : lineEnd? (c :: cs) = some rest) : rest.length < (c :: cs).length := by
  obtain ⟨tail, htail, ⟨-, rfl⟩ | hline⟩ := lineEnd?_eq_some_iff.1 h
  · simp
  · have hlen := (lineTail?_append (.inl rfl) htail).1
    have hshort := length_lt_of_newline? hline
    omega

/-- Behind the last line of an input, the line end that follows it is taken, too. -/
theorem lineEnd?_append (hX : Break X) {cs rest : List Char} (h : lineEnd? cs = some rest) :
    lineEnd? (cs ++ X) = some (rest ++ X) ∨
      rest = [] ∧ lineEnd? (cs ++ X) = some (dropFirstNewline X) := by
  obtain ⟨tail, htail, ⟨rfl, rfl⟩ | hline⟩ := lineEnd?_eq_some_iff.1 h
  · refine .inr ⟨rfl, lineEnd?_eq_some_iff.2 ⟨X, (lineTail?_append hX htail).2, ?_⟩⟩
    rcases hX with rfl | hX
    · exact .inl ⟨rfl, rfl⟩
    · right
      obtain ⟨Y, hY⟩ := Option.isSome_iff_exists.1 hX
      rw [dropFirstNewline, hY]
      rfl
  · exact .inl (lineEnd?_eq_some_iff.2
      ⟨_, (lineTail?_append hX htail).2, .inr (newline?_append hline X)⟩)

/-! ## Statements -/

/-- A statement, and the input from there to the end of its line and beyond. -/
def statementHead? (size : Nat) : List Char → Option (Statement × List Char)
  | '[' :: '[' :: rest => do
    let (path, rest) ← keyPath? size (skipSpaces rest)
    match rest with
    | ']' :: ']' :: rest => some (.tables path, rest)
    | _ => none
  | '[' :: rest => do
    let (path, rest) ← keyPath? size (skipSpaces rest)
    match rest with
    | ']' :: rest => some (.table path, rest)
    | _ => none
  | cs => do
    let (path, rest) ← keyPath? size cs
    match rest with
    | '=' :: rest =>
      let (d, rest) ← value? size maxDepth (skipSpaces rest)
      some (.assign path d, rest)
    | _ => none

theorem statement?_eq (size : Nat) (cs : List Char) :
    statement? size cs =
      (statementHead? size cs).bind fun p => (lineEnd? p.2).map (p.1, ·) := by
  unfold statement? statementHead?
  split
  all_goals
    simp only [Option.bind_eq_bind, Option.bind_assoc]
    refine Option.bind_congr fun p _ => ?_
    obtain ⟨path, rest⟩ := p
    dsimp only
    split
    · simp [Option.map_eq_bind, Option.bind_assoc]
    · simp

theorem statementHead?_continues (hX : Break X) :
    Continues X m (statementHead? n) (statementHead? m) := by
  intro cs st rest h hm
  unfold statementHead? at h
  split at h
  · rename_i tail
    simp only [Option.bind_eq_bind, Option.bind_eq_some_iff, Prod.exists] at h
    obtain ⟨path, mid, hpath, h⟩ := h
    split at h
    · cases h
      have hskip := length_skipSpaces_le tail
      simp only [List.length_cons] at hm ⊢
      obtain ⟨hmid, hpath'⟩ := keyPath?_continues (hX.ends rfl rfl) (m := m) hpath (by omega)
      simp only [List.length_cons] at hmid
      refine ⟨by omega, ?_⟩
      simp [statementHead?, hX.skipSpaces_append, hpath']
    · cases h
  · rename_i tail hno
    simp only [Option.bind_eq_bind, Option.bind_eq_some_iff, Prod.exists] at h
    obtain ⟨path, mid, hpath, h⟩ := h
    split at h
    · cases h
      have hskip := length_skipSpaces_le tail
      simp only [List.length_cons] at hm ⊢
      obtain ⟨hmid, hpath'⟩ := keyPath?_continues (hX.ends rfl rfl) (m := m) hpath (by omega)
      simp only [List.length_cons] at hmid
      refine ⟨by omega, ?_⟩
      have hno' := hX.ne_cons (by decide) (by decide) hno
      simp [statementHead?, hX.skipSpaces_append, hpath']
    · cases h
  · rename_i hno₁ hno₂
    simp only [Option.bind_eq_bind, Option.bind_eq_some_iff, Prod.exists] at h
    obtain ⟨path, mid, hpath, h⟩ := h
    obtain ⟨hmid, hpath'⟩ := keyPath?_continues (hX.ends rfl rfl) (m := m) hpath (by omega)
    split at h
    · rename_i after
      simp only [Option.bind_eq_some_iff, Prod.exists] at h
      obtain ⟨d, rest, hd, heq⟩ := h
      cases heq
      have hskip := length_skipSpaces_le after
      simp only [List.length_cons] at hmid
      obtain ⟨hrest, hd'⟩ := value?_continues hX maxDepth (m := m) hd (by omega)
      refine ⟨by omega, ?_⟩
      have hno := hX.ne_cons (by decide) (by decide) hno₂
      rw [statementHead?]
      · simp [hX.skipSpaces_append, hpath', hd']
      · exact fun r => hno _
      · exact hno
    · cases h

/-- The statement that an input starts with is the same with more lines behind. -/
theorem statement?_append (hX : Break X) {cs rest : List Char} {st : Statement}
    (h : statement? n cs = some (st, rest)) (hm : cs.length + X.length ≤ m) :
    rest.length < cs.length ∧
      (statement? m (cs ++ X) = some (st, rest ++ X) ∨
        rest = [] ∧ statement? m (cs ++ X) = some (st, dropFirstNewline X)) := by
  rw [statement?_eq] at h
  simp only [Option.bind_eq_some_iff, Option.map_eq_some_iff, Prod.exists] at h
  obtain ⟨st', mid, hhead, rest, hrest, heq⟩ := h
  cases heq
  obtain ⟨hmid, hhead'⟩ := statementHead?_continues hX hhead hm
  have hlen := length_lineEnd?_le hrest
  refine ⟨by omega, ?_⟩
  rw [statement?_eq, hhead']
  obtain hline | ⟨hnil, hline⟩ := lineEnd?_append hX hrest
  · exact .inl (by simp [hline])
  · exact .inr ⟨hnil, by simp [hline]⟩

theorem length_statement?_lt {cs : List Char} {p : Statement × List Char}
    (h : statement? n cs = some p) : p.2.length < cs.length :=
  (statement?_append (X := []) (.inl rfl) h le_rfl).1

theorem statement?_eq_of_le {cs : List Char} (hn : cs.length ≤ n) (hm : cs.length ≤ m) :
    statement? n cs = statement? m cs := by
  have hle {n m : Nat} (hm : cs.length ≤ m) (p : Statement × List Char)
      (h : statement? n cs = some p) : statement? m cs = some p := by
    obtain ⟨st, rest⟩ := p
    have happ := (statement?_append (X := []) (m := m) (.inl rfl) h (by simpa)).2
    obtain happ | ⟨rfl, happ⟩ := happ
    · simpa using happ
    · simpa [dropFirstNewline, newline?] using happ
  exact Option.ext fun p => ⟨hle hm p, hle hn p⟩

/-! ## Documents -/

/-- The statements of lines, none of which is within a text. -/
def lines? (cs : List Char) : Option (List Statement) :=
  statementsBy cs.length cs.length cs

theorem statementsBy_eq_of_le {f g : Nat} {cs : List Char} (hn : cs.length ≤ n)
    (hf : cs.length ≤ f) (hm : cs.length ≤ m) (hg : cs.length ≤ g) :
    statementsBy n f cs = statementsBy m g cs := by
  induction f generalizing g cs with
  | zero =>
    rw [Nat.le_zero, List.length_eq_zero_iff] at hf
    subst hf
    cases g <;> rfl
  | succ f ih =>
    cases g with
    | zero =>
      rw [Nat.le_zero, List.length_eq_zero_iff] at hg
      subst hg
      rfl
    | succ g =>
      have hskip := length_skipSpaces_le cs
      unfold statementsBy
      split
      · rfl
      · rename_i c rest hstart
        rw [hstart, List.length_cons] at hskip
        have hrest {rest' : List Char} (hlen : rest'.length < (c :: rest).length) :
            statementsBy n f rest' = statementsBy m g rest' := by
          rw [List.length_cons] at hlen
          exact ih (by omega) (by omega) (by omega) (by omega)
        split
        · exact Option.bind_congr fun rest' hline => hrest (length_lineEnd?_lt hline)
        · rw [statement?_eq_of_le (m := m) (by rw [List.length_cons]; omega)
            (by rw [List.length_cons]; omega)]
          refine Option.bind_congr fun p hp => ?_
          simp only [hrest (length_statement?_lt hp)]

theorem lines?_eq (cs : List Char) :
    lines? cs =
      match skipSpaces cs with
      | [] => some []
      | c :: rest =>
        if c = '#' ∨ (newline? (c :: rest)).isSome then (lineEnd? (c :: rest)).bind lines?
        else (statement? (c :: rest).length (c :: rest)).bind fun p =>
          (lines? p.2).map (p.1 :: ·) := by
  have hskip := length_skipSpaces_le cs
  have hfuel {rest : List Char} (hlen : rest.length < (skipSpaces cs).length) :
      statementsBy cs.length (cs.length - 1) rest = lines? rest :=
    statementsBy_eq_of_le (by omega) (by omega) le_rfl le_rfl
  cases cs with
  | nil => rfl
  | cons d tail =>
    rw [lines?, List.length_cons, statementsBy]
    rw [List.length_cons] at hskip
    simp only [List.length_cons, Nat.add_sub_cancel] at hfuel
    generalize skipSpaces (d :: tail) = start at *
    cases start with
    | nil => rfl
    | cons c rest =>
      simp only
      split
      · exact Option.bind_congr fun rest' hline => hfuel (length_lineEnd?_lt hline)
      · rw [statement?_eq_of_le hskip le_rfl]
        refine Option.bind_congr fun p hp => ?_
        simp only [hfuel (length_statement?_lt hp)]

theorem skipSpaces_skipSpaces (cs : List Char) : skipSpaces (skipSpaces cs) = skipSpaces cs :=
  List.dropWhile_idempotent isSpace cs

theorem isSpace_of_skipSpaces_eq_cons {c : Char} {cs tail : List Char}
    (h : skipSpaces cs = c :: tail) : isSpace c = false := by
  have hhead := List.head?_dropWhile_not isSpace cs
  unfold skipSpaces at h
  rwa [h] at hhead

theorem lines?_skipSpaces (cs : List Char) : lines? (skipSpaces cs) = lines? cs := by
  rw [lines?_eq, lines?_eq cs, skipSpaces_skipSpaces]

/-- A line that says nothing. -/
theorem lines?_eq_of_blank {c : Char} {cs : List Char} (hc : isSpace c = false)
    (h : c = '#' ∨ (newline? (c :: cs)).isSome) :
    lines? (c :: cs) = (lineEnd? (c :: cs)).bind lines? := by
  have hskip : skipSpaces (c :: cs) = c :: cs := List.dropWhile_cons_of_neg (by simp [hc])
  rw [lines?_eq, hskip]
  simp only
  rw [if_pos h]

/-- A line that says something. -/
theorem lines?_eq_of_statement {c : Char} {cs : List Char} (hc : isSpace c = false)
    (h : ¬(c = '#' ∨ (newline? (c :: cs)).isSome)) (hn : (c :: cs).length ≤ n) :
    lines? (c :: cs) = (statement? n (c :: cs)).bind fun p => (lines? p.2).map (p.1 :: ·) := by
  have hskip : skipSpaces (c :: cs) = c :: cs := List.dropWhile_cons_of_neg (by simp [hc])
  rw [lines?_eq, hskip]
  simp only
  rw [if_neg h, statement?_eq_of_le le_rfl hn]

theorem lines?_dropFirstNewline (hX : Break X) : lines? (dropFirstNewline X) = lines? X := by
  obtain rfl | ⟨Y, rfl | rfl⟩ := hX.cases
  · rfl
  all_goals
    rw [lines?_eq_of_blank rfl (.inr rfl)]
    rfl

/-- The statements of lines and of the lines after them. -/
theorem lines?_append (hX : Break X) {cs : List Char} {ss : List Statement}
    (h : lines? cs = some ss) : lines? (cs ++ X) = (lines? X).map (ss ++ ·) := by
  induction hlen : cs.length using Nat.strong_induction_on generalizing cs ss with
  | _ k ih =>
    have hrest {rest : List Char} {ss : List Statement} (hlt : rest.length < cs.length)
        (h : lines? rest = some ss) : lines? (rest ++ X) = (lines? X).map (ss ++ ·) :=
      ih _ (hlen ▸ hlt) h rfl
    have hskip := length_skipSpaces_le cs
    rw [← lines?_skipSpaces, hX.skipSpaces_append]
    rw [← lines?_skipSpaces] at h
    cases hstart : skipSpaces cs with
    | nil =>
      rw [hstart] at h
      cases h
      simp
    | cons c tail =>
      rw [hstart] at h hskip
      have hc := isSpace_of_skipSpaces_eq_cons hstart
      by_cases hblank : c = '#' ∨ (newline? (c :: tail)).isSome
      · rw [lines?_eq_of_blank hc hblank, Option.bind_eq_some_iff] at h
        obtain ⟨rest, hline, h⟩ := h
        have hlt := length_lineEnd?_lt hline
        have hblank' : c = '#' ∨ (newline? (c :: (tail ++ X))).isSome := by
          refine hblank.imp_right fun hnew => ?_
          obtain ⟨Y, hY⟩ := Option.isSome_iff_exists.1 hnew
          rw [← List.cons_append, newline?_append hY]
          rfl
        rw [List.cons_append, lines?_eq_of_blank hc hblank', ← List.cons_append]
        obtain hend | ⟨rfl, hend⟩ := lineEnd?_append hX hline
        · rw [hend, Option.bind_some, hrest (by omega) h]
        · rw [hend, Option.bind_some, lines?_dropFirstNewline hX]
          cases h
          simp
      · rw [lines?_eq_of_statement hc hblank (Nat.le_add_right _ X.length),
          Option.bind_eq_some_iff] at h
        obtain ⟨⟨st, rest⟩, hst, h⟩ := h
        obtain ⟨more, hmore, rfl⟩ := Option.map_eq_some_iff.1 h
        have hnew : ¬(c = '#' ∨ (newline? (c :: (tail ++ X))).isSome) := by
          rintro (hhash | hnew)
          · exact hblank (.inl hhash)
          · have hcr : c ≠ '\r' := by
              rintro rfl
              cases hst
            rw [← List.cons_append, newline?_append_eq_none _ hcr] at hnew
            · cases hnew
            · simpa using fun h => hblank (.inr h)
        rw [List.cons_append, lines?_eq_of_statement hc hnew le_rfl, ← List.cons_append]
        obtain ⟨hlt, hst' | ⟨rfl, hst'⟩⟩ :=
          statement?_append hX (m := (c :: tail ++ X).length) hst
            (by simp [Nat.add_right_comm])
        · rw [hst', Option.bind_some, hrest (by simp only; omega) hmore, Option.map_map]
          rfl
        · rw [hst', Option.bind_some, lines?_dropFirstNewline hX]
          cases hmore
          rfl

end EndpointCountry.Toml
