import EndpointCountry.Proofs.Toml.Lexical
import EndpointCountry.Toml.Quoted

/-!
# Texts with more behind them

A text ends at its closing mark, and the bound that its reader is given does not matter once the
input is no longer than it.

* `Continues` — one reader reads the same as another with more input behind.
* `basicBy_continues`, `literal?_continues` — texts on one line.
* `longBasic?_continues`, `longLiteral?_continues` — texts over several lines.
-/

namespace EndpointCountry.Toml

variable {α : Type} {X : List Char} {m n : Nat}

/-! ## Texts -/

/-- Whatever `r` reads from an input, of which it takes some part, `r'` reads from that input with
`X` behind it, as long as all that is no longer than `m`. -/
def Continues (X : List Char) (m : Nat) (r r' : List Char → Option (α × List Char)) : Prop :=
  ∀ ⦃cs : List Char⦄ ⦃a : α⦄ ⦃rest : List Char⦄, r cs = some (a, rest) →
    cs.length + X.length ≤ m → rest.length < cs.length ∧ r' (cs ++ X) = some (a, rest ++ X)

theorem escape?_continues : Continues X m escape? escape? := by
  intro cs a rest h _
  unfold escape? at h
  split at h
  case h_12 => cases h
  case h_9 | h_10 | h_11 =>
    obtain ⟨c, hc, heq⟩ := Option.map_eq_some_iff.1 h
    cases heq
    simp only [List.length_cons, List.cons_append, escape?, hc, Option.map_some, and_true]
    omega
  all_goals
    cases h
    exact ⟨Nat.lt_succ_self _, rfl⟩

/-- An escape starts with none of the characters that end a line. -/
theorem newline?_skipSpaces_of_escape? {cs : List Char} (h : (escape? cs).isSome = true) :
    newline? (skipSpaces cs) = none := by
  unfold escape? at h
  split at h
  case h_12 => cases h
  all_goals rfl

theorem basicBy_continues : Continues X m (basicBy n) (basicBy m) := by
  induction n generalizing m with
  | zero => rintro cs text rest ⟨⟩
  | succ n ih =>
    intro cs text rest h hm
    cases cs with
    | nil => cases h
    | cons c tail =>
      rw [List.length_cons] at hm ⊢
      obtain ⟨m, rfl⟩ : ∃ k, m = k + 1 := ⟨m - 1, by omega⟩
      unfold basicBy at h
      split at h
      · contradiction
      · rename_i heq
        cases heq
        cases h
        exact ⟨by omega, rfl⟩
      · rename_i heq
        cases heq
        simp only [Option.bind_eq_bind, Option.bind_eq_some_iff, Prod.exists] at h
        obtain ⟨c, mid, hc, more, rest, hmore, heq⟩ := h
        cases heq
        obtain ⟨hmid, hc'⟩ := escape?_continues hc (by omega : tail.length + X.length ≤ m)
        obtain ⟨hrest, hmore'⟩ := ih hmore (by omega : mid.length + X.length ≤ m)
        refine ⟨by omega, ?_⟩
        simp [basicBy, hc', hmore']
      · rename_i hquote hslash heq
        cases heq
        split at h
        · rename_i hplain
          obtain ⟨⟨more, rest⟩, hmore, heq⟩ := Option.map_eq_some_iff.1 h
          cases heq
          obtain ⟨hrest, hmore'⟩ := ih hmore (by omega : tail.length + X.length ≤ m)
          refine ⟨by omega, ?_⟩
          simp [basicBy, hplain, hmore']
        · cases h

theorem literal?_continues : Continues X m literal? literal? := by
  intro cs text rest h _
  unfold literal? at h ⊢
  simp only at h ⊢
  split at h
  · rename_i tail hinside
    cases h
    have hlen := (List.dropWhile_suffix (l := cs) fun c => isPlain c && c != '\'').length_le
    have hsplit := congrArg List.length
      (List.takeWhile_append_dropWhile (p := fun c => isPlain c && c != '\'') (l := cs))
    rw [hinside, List.length_append, List.length_cons] at hsplit
    rw [hinside] at hlen
    have hshort : (cs.takeWhile fun c => isPlain c && c != '\'').length ≠ cs.length := by omega
    refine ⟨hlen, ?_⟩
    rw [List.dropWhile_append, hinside, List.takeWhile_append, if_neg hshort]
    rfl
  · cases h

/-- A long text does not go on with a carriage return that starts no line end. -/
theorem longBasicBy_cr {cs : List Char} (h : ∀ rest, cs ≠ '\n' :: rest) :
    longBasicBy n ('\r' :: cs) = none := by
  cases n with
  | zero => rfl
  | succ n =>
    rw [longBasicBy]
    · rfl
    all_goals simp_all

theorem longLiteralFrom?_cr {cs : List Char} (h : ∀ rest, cs ≠ '\n' :: rest) :
    longLiteralFrom? ('\r' :: cs) = none := by
  rw [longLiteralFrom?]
  · rfl
  all_goals simp_all

/-- Three to five quotation marks end a long text. -/
theorem longBasicBy_marks (hX : Break X) {cs text rest : List Char}
    (h : longBasicBy (n + 1) ('"' :: '"' :: '"' :: cs) = some (text, rest)) :
    rest.length ≤ cs.length ∧
      longBasicBy (m + 1) ('"' :: '"' :: '"' :: cs ++ X) = some (text, rest ++ X) := by
  unfold longBasicBy at h
  split at h
  · rename_i heq
    cases heq
    cases h
    exact ⟨by simp; omega, rfl⟩
  · rename_i hfive heq
    cases heq
    cases h
    refine ⟨by simp, ?_⟩
    simp only [List.cons_append]
    rw [longBasicBy]
    exact hX.ne_cons (by decide) (by decide) hfive
  · rename_i hfive hfour heq
    cases heq
    cases h
    refine ⟨le_rfl, ?_⟩
    simp only [List.cons_append]
    rw [longBasicBy]
    · exact hX.ne_cons_cons (by decide) (by decide) hfive
    · exact hX.ne_cons (by decide) (by decide) hfour
  · rename_i heq
    cases (List.cons_eq_cons.1 heq).1
  · rename_i heq
    cases (List.cons_eq_cons.1 heq).1
  · rename_i hthree _ _ heq
    cases heq
    exact absurd rfl (hthree _ rfl)
  · contradiction

/-- In a long text, a backslash joins two lines or starts an escape. -/
theorem longBasicBy_backslash (hX : Break X) (hread : Continues X m (longBasicBy n) (longBasicBy m))
    {cs text rest : List Char} (h : longBasicBy (n + 1) ('\\' :: cs) = some (text, rest))
    (hm : cs.length + X.length ≤ m) :
    rest.length < cs.length ∧ longBasicBy (m + 1) ('\\' :: cs ++ X) = some (text, rest ++ X) := by
  rw [longBasicBy] at h
  split at h
  · rename_i mid hmid
    have hlong := length_skipSpaces_le cs
    have hshort := length_lt_of_newline? hmid
    have hline : newline? (skipSpaces (cs ++ X)) = some (mid ++ X) := by
      rw [hX.skipSpaces_append, newline?_append hmid]
    cases hblank : skipBlankLines mid with
    | nil =>
      rw [hblank] at h
      cases n <;> cases h
    | cons c more =>
      rw [hblank] at h
      have hc : c ≠ '\r' := by
        rintro rfl
        rw [longBasicBy_cr fun r hr => skipBlankLines_ne_newline mid r (hr ▸ hblank)] at h
        cases h
      obtain ⟨hlen, happ⟩ := skipBlankLines_append hblank hc X
      obtain ⟨hrest, hmore⟩ := hread h (by omega)
      refine ⟨by omega, ?_⟩
      simp only [List.cons_append, longBasicBy, hline]
      rw [happ, hmore]
  · simp only [Option.bind_eq_bind, Option.bind_eq_some_iff, Prod.exists] at h
    obtain ⟨c, mid, hc, more, rest, hmore, heq⟩ := h
    cases heq
    obtain ⟨hmid, hc'⟩ := escape?_continues hc (by omega : cs.length + X.length ≤ m)
    obtain ⟨hrest, hmore'⟩ := hread hmore (by omega)
    have hline : newline? (skipSpaces (cs ++ X)) = none :=
      newline?_skipSpaces_of_escape? (by rw [hc']; rfl)
    refine ⟨by omega, ?_⟩
    simp [longBasicBy, hline, hc', hmore']

theorem longBasicBy_continues (hX : Break X) :
    Continues X m (longBasicBy n) (longBasicBy m) := by
  induction n generalizing m with
  | zero => rintro cs text rest ⟨⟩
  | succ n ih =>
    intro cs text rest h hm
    cases cs with
    | nil => cases h
    | cons c tail =>
      rw [List.length_cons] at hm ⊢
      obtain ⟨m, rfl⟩ : ∃ k, m = k + 1 := ⟨m - 1, by omega⟩
      by_cases hslash : c = '\\'
      · subst hslash
        obtain ⟨hlen, happ⟩ := longBasicBy_backslash (m := m) hX ih h (by omega)
        exact ⟨by omega, happ⟩
      by_cases hmarks : ∃ more, c :: tail = '"' :: '"' :: '"' :: more
      · obtain ⟨more, heq⟩ := hmarks
        cases heq
        obtain ⟨hlen, happ⟩ := longBasicBy_marks (m := m) hX h
        exact ⟨by simp only [List.length_cons]; omega, happ⟩
      -- Anything else belongs to the text.
      rw [not_exists] at hmarks
      have htwo {r : List Char} (hc : c = '"') : tail ++ X ≠ '"' :: '"' :: r := by
        subst hc
        refine hX.ne_cons_cons (by decide) (by decide) (fun r hr => ?_) r
        exact hmarks r (by rw [hr])
      unfold longBasicBy at h
      rw [List.cons_append]
      split at h
      · exact absurd ‹_› (hmarks _)
      · exact absurd ‹_› (hmarks _)
      · exact absurd ‹_› (hmarks _)
      · rename_i heq
        exact absurd (List.cons_eq_cons.1 heq).1 hslash
      · rename_i heq
        cases heq
        obtain ⟨⟨more, rest⟩, hmore, heq⟩ := Option.map_eq_some_iff.1 h
        cases heq
        rw [List.length_cons] at hm ⊢
        obtain ⟨hrest, hmore'⟩ := ih (m := m) hmore (by omega)
        refine ⟨by omega, ?_⟩
        simp [longBasicBy, hmore']
      · rename_i heq
        cases heq
        split at h
        · rename_i hplain
          obtain ⟨⟨more, rest⟩, hmore, heq⟩ := Option.map_eq_some_iff.1 h
          cases heq
          obtain ⟨hrest, hmore'⟩ := ih (m := m) hmore (by omega)
          refine ⟨by omega, ?_⟩
          rw [longBasicBy, if_pos hplain, hmore']
          · rfl
          · exact fun r => htwo
          · exact fun r => htwo
          · exact fun r => htwo
          · exact hslash
          · rintro r rfl
            cases hplain
        · cases h
      · contradiction

/-- The line end that a long text may start with is seen whatever comes behind the text. -/
theorem dropFirstNewline_append {c : Char} {cs : List Char}
    (h : c = '\r' → (newline? (c :: cs)).isSome) (X : List Char) :
    dropFirstNewline (c :: cs ++ X) = dropFirstNewline (c :: cs) ++ X := by
  unfold dropFirstNewline
  cases hline : newline? (c :: cs) with
  | some rest =>
    rw [newline?_append hline]
    rfl
  | none =>
    rw [newline?_append_eq_none hline]
    · rfl
    · rintro rfl
      rw [hline] at h
      cases h rfl

theorem length_dropFirstNewline_le (cs : List Char) :
    (dropFirstNewline cs).length ≤ cs.length := by
  unfold dropFirstNewline
  cases hline : newline? cs with
  | some rest => exact (length_lt_of_newline? hline).le
  | none => rfl

/-- A reader that skips a line end at first, where it reads neither nothing nor a carriage return
that starts no line end. -/
theorem Continues.dropFirstNewline {r r' : List Char → Option (α × List Char)}
    (hr : Continues X m r r') (hnil : r [] = none)
    (hcr : ∀ cs, (∀ rest, cs ≠ '\n' :: rest) → r ('\r' :: cs) = none) :
    Continues X m (fun cs => r (dropFirstNewline cs)) fun cs => r' (dropFirstNewline cs) := by
  intro cs a rest h hm
  simp only at h ⊢
  cases cs with
  | nil =>
    rw [show Toml.dropFirstNewline [] = [] from rfl, hnil] at h
    cases h
  | cons c cs =>
    have hline : c = '\r' → (newline? (c :: cs)).isSome := by
      rintro rfl
      by_contra hno
      rw [Bool.not_eq_true, Option.isSome_eq_false_iff, Option.isNone_iff_eq_none] at hno
      rw [Toml.dropFirstNewline, hno, Option.getD_none, hcr] at h
      · cases h
      · rintro rest rfl
        cases hno
    have hlen := length_dropFirstNewline_le (c :: cs)
    obtain ⟨hrest, happ⟩ := hr h (by omega)
    rw [dropFirstNewline_append hline]
    exact ⟨by omega, happ⟩

theorem longBasic?_continues (hX : Break X) : Continues X m (longBasic? n) (longBasic? m) :=
  (longBasicBy_continues hX).dropFirstNewline (by cases n <;> rfl) fun _ => longBasicBy_cr

theorem longLiteralFrom?_continues (hX : Break X) :
    Continues X m longLiteralFrom? longLiteralFrom? := by
  intro cs text rest h hm
  fun_induction longLiteralFrom? cs generalizing text rest with
  | case1 tail =>
    cases h
    exact ⟨by simp; omega, rfl⟩
  | case2 tail hfive =>
    cases h
    refine ⟨by simp; omega, ?_⟩
    simp only [List.cons_append]
    rw [longLiteralFrom?]
    exact hX.ne_cons (by decide) (by decide) hfive
  | case3 tail hfive hfour =>
    cases h
    refine ⟨by simp; omega, ?_⟩
    simp only [List.cons_append]
    rw [longLiteralFrom?]
    · exact hX.ne_cons_cons (by decide) (by decide) hfive
    · exact hX.ne_cons (by decide) (by decide) hfour
  | case4 tail ih =>
    obtain ⟨⟨more, rest⟩, hmore, heq⟩ := Option.map_eq_some_iff.1 h
    cases heq
    simp only [List.length_cons] at hm ⊢
    obtain ⟨hrest, hmore'⟩ := ih hmore (by omega)
    refine ⟨by omega, ?_⟩
    simp [longLiteralFrom?, hmore']
  | case5 c tail hfive hfour hthree hline hplain ih =>
    obtain ⟨⟨more, rest⟩, hmore, heq⟩ := Option.map_eq_some_iff.1 h
    cases heq
    simp only [List.length_cons] at hm ⊢
    obtain ⟨hrest, hmore'⟩ := ih hmore (by omega)
    refine ⟨by omega, ?_⟩
    have hquotes {r : List Char} (hc : c = '\'') : tail ++ X ≠ '\'' :: '\'' :: r :=
      hX.ne_cons_cons (by decide) (by decide) (fun rest => hthree rest hc) r
    rw [List.cons_append, longLiteralFrom?, if_pos hplain, hmore']
    · rfl
    · exact fun r => hquotes
    · exact fun r => hquotes
    · exact fun r => hquotes
    · rintro r rfl
      cases hplain
  | case6 => cases h
  | case7 => cases h

theorem longLiteral?_continues (hX : Break X) : Continues X m longLiteral? longLiteral? :=
  (longLiteralFrom?_continues hX).dropFirstNewline rfl fun _ => longLiteralFrom?_cr

end EndpointCountry.Toml
