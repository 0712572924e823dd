import EndpointCountry.Proofs.Toml.Line

/-!
# Texts that open as texts over several lines

A text put between quotation marks that starts with one mark too many opens a text over several
lines. What is read then is never the text that was put there: the closing mark of the line is read
as part of it, and so are the characters behind that mark.

* `LongText` — how a text over several lines is read, one constructor for each step.
* `LongText.markRead` — a mark in the input is read no later than where it stands.
* `LongText.exists_of_shift` — a text that is read as itself with more in front.
* `not_longText_self` — no text is read as itself.
-/

namespace EndpointCountry.Toml

variable {n : Nat} {cs text more : List Char}

/-! ## Reading a text over several lines -/

/-- Read as a text over several lines, behind its three marks, an input gives a text and leaves what
comes behind the closing marks. -/
inductive LongText : List Char → List Char → List Char → Prop
  /-- Three marks close the text; up to two in front of them belong to it. -/
  | close {marks more : List Char} (h : marks = [] ∨ marks = ['"'] ∨ marks = ['"', '"']) :
    LongText ('"' :: '"' :: '"' :: (marks ++ more)) marks more
  /-- A backslash at the end of a line takes away all blanks and line ends behind it. -/
  | join {tail rest text more : List Char} (hline : newline? (skipSpaces tail) = some rest)
      (hread : LongText (skipBlankLines rest) text more) : LongText ('\\' :: tail) text more
  /-- An escape stands for a character. -/
  | escape {tail rest text more : List Char} {c : Char} (hc : escape? tail = some (c, rest))
      (hread : LongText rest text more) : LongText ('\\' :: tail) (c :: text) more
  /-- Any other character stands for itself. -/
  | char {c : Char} {tail text more : List Char} (hslash : c ≠ '\\')
      (hmarks : ∀ rest, c :: tail ≠ '"' :: '"' :: '"' :: rest) (hread : LongText tail text more) :
    LongText (c :: tail) (c :: text) more

theorem longText_of_longBasicBy (h : longBasicBy n cs = some (text, more)) :
    LongText cs text more := by
  induction n generalizing cs text with
  | zero => cases h
  | succ n ih =>
    unfold longBasicBy at h
    split at h
    · cases h
      exact .close (.inr (.inr rfl))
    · cases h
      exact .close (.inr (.inl rfl))
    · cases h
      exact .close (.inl rfl)
    · split at h
      · rename_i hline
        exact .join hline (ih h)
      · simp only [Option.bind_eq_bind, Option.bind_eq_some_iff, Prod.exists] at h
        obtain ⟨c, rest, hc, text, more, hmore, heq⟩ := h
        cases heq
        exact .escape hc (ih hmore)
    · obtain ⟨⟨text, more⟩, hmore, heq⟩ := Option.map_eq_some_iff.1 h
      cases heq
      -- The line feed behind the carriage return is a character like any other.
      exact .char (by decide) (by simp) (.char (by decide) (by simp) (ih hmore))
    · rename_i hfive hfour hthree hslash hline
      split at h
      · obtain ⟨⟨text, more⟩, hmore, heq⟩ := Option.map_eq_some_iff.1 h
        cases heq
        refine .char hslash (fun rest heq => ?_) (ih hmore)
        obtain ⟨hc, htail⟩ := List.cons_eq_cons.1 heq
        exact hthree rest hc htail
      · cases h
    · cases h

/-! ## Characters without a meaning of their own -/

/-- No character has a meaning of its own within a text over several lines. -/
def Ordinary (text : List Char) : Prop :=
  ∀ c ∈ text, c ≠ '"' ∧ c ≠ '\\'

namespace LongText

theorem not_nil : ¬LongText [] text more := by
  rintro ⟨⟩

/-- Neither a backslash nor the first of three marks: such a character is read as it is. -/
theorem output_of_char {c : Char} {tail : List Char} (hslash : c ≠ '\\')
    (hmarks : ∀ rest, c :: tail ≠ '"' :: '"' :: '"' :: rest) (h : LongText (c :: tail) text more) :
    ∃ rest, text = c :: rest ∧ LongText tail rest more := by
  cases h with
  | close => exact absurd rfl (hmarks _)
  | join | escape => exact absurd rfl hslash
  | char _ _ hread => exact ⟨_, rfl, hread⟩

theorem output_of_ordinary {d : List Char} (hd : Ordinary d) (h : LongText (d ++ cs) text more) :
    ∃ rest, text = d ++ rest ∧ LongText cs rest more := by
  induction d generalizing text with
  | nil => exact ⟨text, rfl, h⟩
  | cons c d ih =>
    obtain ⟨⟨hquote, hslash⟩, hd⟩ := List.forall_mem_cons.1 hd
    obtain ⟨text, rfl, htail⟩ := output_of_char hslash (by simp [hquote]) h
    obtain ⟨rest, rfl, hread⟩ := ih hd htail
    exact ⟨rest, rfl, hread⟩

end LongText

/-! ## Marks -/

/-- No mark goes away with blanks and line ends. -/
theorem exists_eq_append_skipBlankLines (cs : List Char) :
    ∃ taken, cs = taken ++ skipBlankLines cs ∧ '"' ∉ taken := by
  fun_induction skipBlankLines cs with
  | case1 rest ih =>
    obtain ⟨taken, hsplit, hquote⟩ := ih
    exact ⟨'\r' :: '\n' :: taken, by simpa using hsplit, by simpa using hquote⟩
  | case2 c rest _ hblank ih =>
    obtain ⟨taken, hsplit, hquote⟩ := ih
    refine ⟨c :: taken, by simpa using hsplit, List.not_mem_cons_of_ne_of_not_mem ?_ hquote⟩
    rintro rfl
    cases hblank
  | case3 c rest => exact ⟨[], rfl, List.not_mem_nil⟩
  | case4 => exact ⟨[], rfl, List.not_mem_nil⟩

theorem exists_lineEnd_of_newline? (h : newline? cs = some more) :
    ∃ lineEnd, cs = lineEnd ++ more ∧ (lineEnd = ['\n'] ∨ lineEnd = ['\r', '\n']) := by
  obtain rfl | rfl := newline?_eq_some_iff.1 h
  · exact ⟨['\n'], rfl, .inl rfl⟩
  · exact ⟨['\r', '\n'], rfl, .inr rfl⟩

theorem quote_notMem_lineEnd {lineEnd : List Char}
    (h : lineEnd = ['\n'] ∨ lineEnd = ['\r', '\n']) : '"' ∉ lineEnd := by
  obtain rfl | rfl := h
  all_goals decide

/-- No mark goes away with the line end that a backslash stands in front of. -/
theorem exists_eq_append_of_join {tail rest : List Char}
    (h : newline? (skipSpaces tail) = some rest) :
    ∃ taken, tail = taken ++ skipBlankLines rest ∧ '"' ∉ taken := by
  obtain ⟨lineEnd, hline, hend⟩ := exists_lineEnd_of_newline? h
  obtain ⟨blanks, hblanks, hquote⟩ := exists_eq_append_skipBlankLines rest
  have hspaces : '"' ∉ tail.takeWhile isSpace := fun hmem => by
    cases List.mem_takeWhile_imp hmem
  refine ⟨tail.takeWhile isSpace ++ (lineEnd ++ blanks), ?_,
    by simp [hspaces, quote_notMem_lineEnd hend, hquote]⟩
  rw [List.append_assoc, List.append_assoc, ← hblanks, ← hline, skipSpaces,
    List.takeWhile_append_dropWhile]

/-- What becomes of a mark that stands behind `k` characters, with `rest` behind it: it closes the
text, or it belongs to it, behind no more than `k` characters. -/
def MarkRead (k : Nat) (rest text more : List Char) : Prop :=
  text.length + 2 ≤ k ∨
    ∃ pre tail, text = pre ++ '"' :: tail ∧ pre.length ≤ k ∧ LongText rest tail more

theorem MarkRead.mono {k k' : Nat} {rest : List Char} (h : MarkRead k rest text more)
    (hk : k ≤ k') : MarkRead k' rest text more := by
  obtain hshort | ⟨pre, tail, htext, hlen, hread⟩ := h
  · exact .inl (hshort.trans hk)
  · exact .inr ⟨pre, tail, htext, hlen.trans hk, hread⟩

theorem MarkRead.cons {k : Nat} {rest : List Char} (h : MarkRead k rest text more) (c : Char) :
    MarkRead (k + 1) rest (c :: text) more := by
  obtain hshort | ⟨pre, tail, rfl, hlen, hread⟩ := h
  · exact .inl (Nat.succ_le_succ hshort)
  · exact .inr ⟨c :: pre, tail, rfl, Nat.succ_le_succ hlen, hread⟩

/-- The mark at the end of the closing marks is behind more characters than the text has. -/
theorem length_le_of_close {marks front rest : List Char}
    (hmarks : marks = [] ∨ marks = ['"'] ∨ marks = ['"', '"']) (hrest : ∀ tail, rest ≠ '"' :: tail)
    (h : front ++ '"' :: rest = '"' :: '"' :: '"' :: (marks ++ more)) :
    marks.length + 2 ≤ front.length := by
  by_contra hlen
  -- Otherwise the next character is one of the closing marks, too.
  have hnext : rest[0]? = some '"' := by
    have hat : (front ++ '"' :: rest)[front.length + 1]? = rest[0]? := by
      simp [List.getElem?_append_right]
    rw [← hat, h]
    obtain rfl | rfl | rfl := hmarks
    all_goals
      simp only [List.length_cons, List.length_nil] at hlen
      interval_cases front.length <;> rfl
  cases rest with
  | nil => cases hnext
  | cons c rest =>
    cases hnext
    exact hrest rest rfl

/-- What becomes of a mark with no other mark right behind it. -/
theorem LongText.markRead {front rest : List Char} (hrest : ∀ tail, rest ≠ '"' :: tail)
    (h : LongText (front ++ '"' :: rest) text more) : MarkRead front.length rest text more := by
  generalize hcs : front ++ '"' :: rest = cs at h
  induction h generalizing front with
  | close hmarks => exact .inl (length_le_of_close hmarks hrest hcs)
  | @join tail mid text more hline hread ih =>
    cases front with
    | nil => cases hcs
    | cons d front =>
      obtain ⟨rfl, rfl⟩ := List.cons_eq_cons.1 hcs
      obtain ⟨taken, hsplit, hquote⟩ := exists_eq_append_of_join hline
      obtain ⟨front, rfl, hmid⟩ := exists_eq_append_of_quote_notMem hsplit hquote
      exact (ih hmid.symm).mono (by grind)
  | @escape tail mid text more c hc hread ih =>
    cases front with
    | nil => cases hcs
    | cons d front =>
      obtain ⟨rfl, rfl⟩ := List.cons_eq_cons.1 hcs
      obtain ⟨taken, hsplit, hne, ⟨rfl, rfl⟩ | hquote⟩ := escape?_taken hc
      · -- The mark that is escaped may be the one in question.
        cases front with
        | nil =>
          obtain ⟨-, rfl⟩ := List.cons_eq_cons.1 hsplit
          exact .inr ⟨[], text, rfl, Nat.zero_le _, hread⟩
        | cons d front => exact ((ih (List.cons_eq_cons.1 hsplit).2).cons _).mono (by simp)
      · obtain ⟨front, rfl, hmid⟩ := exists_eq_append_of_quote_notMem hsplit hquote
        exact ((ih hmid.symm).cons c).mono (by grind)
  | @char c tail text more hslash hmarks hread ih =>
    cases front with
    | nil =>
      obtain ⟨rfl, rfl⟩ := List.cons_eq_cons.1 hcs
      exact .inr ⟨[], text, rfl, le_rfl, hread⟩
    | cons d front =>
      obtain ⟨rfl, htail⟩ := List.cons_eq_cons.1 hcs
      exact (ih htail).cons d

/-! ## Texts read as themselves -/

theorem exists_eq_append_of_length_le {a b c d : List Char} (h : a ++ b = c ++ d)
    (hlen : a.length ≤ c.length) : ∃ rest, c = a ++ rest ∧ b = rest ++ d := by
  obtain ⟨rest, rfl⟩ :=
    List.prefix_of_prefix_length_le (List.prefix_append a b) ⟨d, h.symm⟩ hlen
  rw [List.append_assoc, List.append_cancel_left_eq] at h
  exact ⟨rest, rfl, h⟩

namespace LongText

/-- A text that is read with `z` in front of itself: what follows the mark behind it, or any mark
within it, follows a mark early in what is read. Read again and again, the mark moves to the front
by the length of `z` each time. -/
theorem exists_of_shift {u z after d front : List Char}
    (h : LongText (u ++ '"' :: after) (z ++ u) more) (hz : z ≠ []) (hd : Ordinary d)
    (hne : d ≠ []) (hlen : front.length ≤ u.length)
    (hfront : front ++ '"' :: d <+: u ++ '"' :: after) :
    ∃ pre, pre.length < z.length ∧ pre ++ '"' :: d <+: z ++ u := by
  induction hk : front.length using Nat.strong_induction_on generalizing front with
  | _ k ih =>
    obtain ⟨rest, hrest⟩ := hfront
    have hlone : ∀ tail, d ++ rest ≠ '"' :: tail := by
      intro tail heq
      obtain ⟨c, d, rfl⟩ := List.exists_cons_of_ne_nil hne
      exact (hd c List.mem_cons_self).1 (List.cons_eq_cons.1 heq).1
    have hmark := h
    rw [← hrest, List.append_assoc, List.cons_append] at hmark
    obtain hshort | ⟨pre, tail, htext, hpre, hread⟩ := hmark.markRead hlone
    · rw [List.length_append] at hshort
      omega
    obtain ⟨tail, rfl, -⟩ := hread.output_of_ordinary hd
    by_cases hfirst : pre.length < z.length
    · exact ⟨pre, hfirst, tail, by simp [htext]⟩
    · -- The mark is in `u` again, closer to its start.
      obtain ⟨pre, rfl, rfl⟩ := exists_eq_append_of_length_le htext (not_lt.1 hfirst)
      have hmove : pre.length < k := by
        have hlong := List.length_pos_iff.2 hz
        rw [List.length_append] at hpre
        omega
      exact ih _ hmove (by simp) ⟨tail ++ '"' :: after, by simp⟩ rfl

/-- What follows a mark of the input follows the first two marks of what is read, if that is those
marks, a line end that was skipped and the text. -/
theorem prefix_of_quote {lineEnd u after d : List Char}
    (h : LongText (u ++ '"' :: after) ('"' :: '"' :: (lineEnd ++ u)) more) (hline : '"' ∉ lineEnd)
    (hd : Ordinary d) (hne : d ≠ []) (front : List Char) (hlen : front.length ≤ u.length)
    (hfront : front ++ '"' :: d <+: u ++ '"' :: after) : d <+: lineEnd ++ u := by
  obtain ⟨c, d, rfl⟩ := List.exists_cons_of_ne_nil hne
  have hc := (hd c List.mem_cons_self).1
  obtain ⟨pre, hpre, rest, hrest⟩ :=
    exists_of_shift (z := '"' :: '"' :: lineEnd) h (List.cons_ne_nil _ _) hd hne hlen hfront
  rcases pre with _ | ⟨a, _ | ⟨b, pre⟩⟩
  all_goals
    simp only [List.nil_append, List.cons_append, List.append_assoc, List.cons.injEq] at hrest
  · exact absurd hrest.2.1 hc
  · exact ⟨rest, hrest.2.2⟩
  · -- The mark would be part of the line end.
    have hmem : (lineEnd ++ u)[pre.length]? = some '"' := by
      rw [← hrest.2.2]
      simp
    rw [List.getElem?_append_left (by simpa using hpre)] at hmem
    exact absurd (List.mem_of_getElem? hmem) hline

/-- Where a mark is read first, no character without a meaning of its own comes first. -/
theorem not_prefix_of_quote {u : List Char} {c : Char} (hc : Ordinary [c])
    (h : LongText (u ++ cs) ('"' :: text) more) : ¬[c] <+: u := by
  rintro ⟨rest, rfl⟩
  rw [List.append_assoc] at h
  obtain ⟨tail, heq, -⟩ := h.output_of_ordinary hc
  exact (hc c List.mem_cons_self).1 (List.cons_eq_cons.1 heq).1.symm

/-- A text on one line is read the same within a text over several lines, with its closing mark. -/
theorem output_of_basicBy {key rest : List Char} {d : Char} (hd : d ≠ '"')
    (hkey : basicBy n cs = some (key, d :: rest)) (h : LongText cs text more) :
    ∃ tail, text = key ++ '"' :: tail ∧ LongText (d :: rest) tail more := by
  induction n generalizing cs key text with
  | zero => cases hkey
  | succ n ih =>
    unfold basicBy at hkey
    split at hkey
    · cases hkey
    · cases hkey
      exact output_of_char (by decide) (by simp [hd]) h
    · simp only [Option.bind_eq_bind, Option.bind_eq_some_iff, Prod.exists] at hkey
      obtain ⟨c, mid, hc, key, _, hkey, heq⟩ := hkey
      cases heq
      cases h with
      | join hline =>
        rw [newline?_skipSpaces_of_escape? (by rw [hc]; rfl)] at hline
        cases hline
      | escape hc' hread =>
        obtain ⟨rfl, rfl⟩ := Prod.mk.inj (Option.some.inj (hc.symm.trans hc'))
        obtain ⟨tail, rfl, hrest⟩ := ih hkey hread
        exact ⟨tail, rfl, hrest⟩
      | char hslash => exact absurd rfl hslash
    · rename_i hquote hslash
      split at hkey
      · obtain ⟨⟨key, _⟩, hkey, heq⟩ := Option.map_eq_some_iff.1 hkey
        cases heq
        obtain ⟨text, rfl, hread⟩ := output_of_char hslash (fun _ heq => hquote (by simp_all)) h
        obtain ⟨tail, rfl, hrest⟩ := ih hkey hread
        exact ⟨tail, rfl, hrest⟩
      · cases hkey

end LongText

/-! ## The lines behind the text -/

/-- What may stand behind a closing mark: the end of the line, or a character that is no part of
it. -/
theorem lineEnd?_cons {c : Char} {rest : List Char} (h : lineEnd? (c :: cs) = some rest) :
    Ordinary [c] ∧ (newline? (c :: cs) = some rest ∨ c ≠ '\n' ∧ c ≠ '\r') := by
  by_cases hc : c ∈ [' ', '\t', '#']
  · simp only [List.mem_cons, List.not_mem_nil, or_false] at hc
    obtain rfl | rfl | rfl := hc
    all_goals simp [Ordinary]
  · simp only [List.mem_cons, List.not_mem_nil, or_false, not_or] at hc
    have hskip : skipSpaces (c :: cs) = c :: cs :=
      List.dropWhile_cons_of_neg (by simp [isSpace, hc])
    have htail : lineTail? (c :: cs) = some (c :: cs) := by
      unfold lineTail?
      rw [hskip]
      split
      · rename_i heq
        exact absurd (List.cons_eq_cons.1 heq).1 hc.2.2
      · rfl
    obtain ⟨tail, htail', hend⟩ := lineEnd?_eq_some_iff.1 h
    obtain rfl := Option.some.inj (htail.symm.trans htail')
    obtain ⟨hnil, -⟩ | hline := hend
    · cases hnil
    · refine ⟨?_, .inl hline⟩
      obtain heq | heq := newline?_eq_some_iff.1 hline
      all_goals
        cases heq
        simp [Ordinary]

theorem exists_keyPath?_of_lines? {c : Char} {ss : List Statement} (h : lines? (c :: cs) = some ss)
    (hspace : isSpace c = false) (hc : c ∉ ['#', '\n', '\r', '[']) :
    ∃ n path rest, keyPath? n (c :: cs) = some (path, '=' :: rest) := by
  simp only [List.mem_cons, List.not_mem_nil, or_false, not_or] at hc
  have hblank : ¬(c = '#' ∨ (newline? (c :: cs)).isSome = true) := by
    rintro (hhash | hline)
    · exact hc.1 hhash
    · obtain ⟨rest, hline⟩ := Option.isSome_iff_exists.1 hline
      obtain heq | heq := newline?_eq_some_iff.1 hline
      · exact hc.2.1 (List.cons_eq_cons.1 heq).1
      · exact hc.2.2.1 (List.cons_eq_cons.1 heq).1
  rw [lines?_eq_of_statement hspace hblank le_rfl, Option.bind_eq_some_iff] at h
  obtain ⟨p, hp, -⟩ := h
  rw [statement?_eq, Option.bind_eq_some_iff] at hp
  obtain ⟨q, hq, -⟩ := hp
  unfold statementHead? at hq
  split at hq
  · rename_i heq
    exact absurd (List.cons_eq_cons.1 heq).1 hc.2.2.2
  · rename_i heq
    exact absurd (List.cons_eq_cons.1 heq).1 hc.2.2.2
  · simp only [Option.bind_eq_bind, Option.bind_eq_some_iff, Prod.exists] at hq
    obtain ⟨path, rest, hpath, hq⟩ := hq
    split at hq
    · exact ⟨_, path, _, hpath⟩
    · cases hq

theorem lines?_backslash (cs : List Char) : lines? ('\\' :: cs) = none := by
  rw [Option.eq_none_iff_forall_ne_some]
  intro ss h
  obtain ⟨n, path, rest, hpath⟩ := exists_keyPath?_of_lines? h rfl (by decide)
  exact absurd (isBareKeyChar_or_isQuote_of_keyPath? hpath) (by decide)

/-- A line that starts with a mark starts with a quoted key, and goes on behind that. -/
theorem exists_basicBy_of_lines? {ss : List Statement} (h : lines? ('"' :: cs) = some ss) :
    ∃ n key d rest, basicBy n cs = some (key, d :: rest) ∧ Ordinary [d] ∧ d ∉ ['\n', '\r'] := by
  obtain ⟨n, path, rest, hpath⟩ := exists_keyPath?_of_lines? h rfl (by decide)
  unfold keyPath? maxDepth keyPathBy at hpath
  simp only [Option.bind_eq_bind, Option.bind_eq_some_iff, Prod.exists] at hpath
  obtain ⟨key, behind, hkey, hpath⟩ := hpath
  -- A point or the equals sign comes behind the key, after blanks.
  obtain ⟨d, more, hskip, hd⟩ : ∃ d more, skipSpaces behind = d :: more ∧ (d = '.' ∨ d = '=') := by
    split at hpath
    · rename_i hpoint
      exact ⟨_, _, hpoint, .inl rfl⟩
    · exact ⟨'=', rest, (Prod.mk.inj (Option.some.inj hpath)).2, .inr rfl⟩
  cases behind with
  | nil => cases hskip
  | cons e tail =>
    refine ⟨n, key, e, tail, hkey, ?_⟩
    cases hspace : isSpace e with
    | true =>
      have he : e = ' ' ∨ e = '\t' := by simpa [isSpace] using hspace
      obtain rfl | rfl := he
      all_goals simp [Ordinary]
    | false =>
      have hstop : skipSpaces (e :: tail) = e :: tail :=
        List.dropWhile_cons_of_neg (by simp [hspace])
      obtain ⟨rfl, -⟩ := List.cons_eq_cons.1 (hstop.symm.trans hskip)
      obtain rfl | rfl := hd
      all_goals simp [Ordinary]

/-- Lines start with a character that is read as it is, or with a quoted key, which is read as it is,
too. -/
theorem LongText.output_of_lines? {ss : List Statement} (h : LongText cs text more)
    (hlines : lines? cs = some ss) :
    (∃ c tail, cs = c :: tail ∧ Ordinary [c]) ∨
      ∃ key d tail, text = '"' :: (key ++ '"' :: d :: tail) ∧ Ordinary [d] ∧ d ∉ ['\n', '\r'] := by
  cases cs with
  | nil => exact absurd h not_nil
  | cons c cs =>
    by_cases hslash : c = '\\'
    · subst hslash
      rw [lines?_backslash] at hlines
      cases hlines
    by_cases hquote : c = '"'
    · subst hquote
      right
      obtain ⟨n, key, d, rest, hkey, hd, hend⟩ := exists_basicBy_of_lines? hlines
      have hmarks (rest' : List Char) : '"' :: cs ≠ '"' :: '"' :: '"' :: rest' := by
        intro heq
        cases heq
        cases n with
        | zero => cases hkey
        | succ n =>
          cases hkey
          exact (hd _ List.mem_cons_self).1 rfl
      obtain ⟨text₁, rfl, hread₁⟩ := h.output_of_char hslash hmarks
      obtain ⟨text₂, rfl, hread₂⟩ := hread₁.output_of_basicBy (hd d List.mem_cons_self).1 hkey
      obtain ⟨tail, rfl, -⟩ := LongText.output_of_ordinary (d := [d]) hd hread₂
      exact ⟨key, d, tail, rfl, hd, hend⟩
    · exact .inl ⟨c, cs, rfl, by simp [Ordinary, hslash, hquote]⟩

/-! ## No text is read as itself -/

section

variable {after rest lineEnd u : List Char} {ss : List Statement}

/-- The mark behind a text that is read with more in front belongs to what is read, and so does what
comes behind that mark. -/
theorem LongText.exists_output_after (hafter : ∀ tail, after ≠ '"' :: tail)
    {z : List Char} (h : LongText (u ++ '"' :: after) (z ++ u) more) :
    ∃ pre tail, z ++ u = pre ++ '"' :: tail ∧ LongText after tail more := by
  obtain hshort | ⟨pre, tail, htext, -, hread⟩ := h.markRead hafter
  · rw [List.length_append] at hshort
    omega
  · exact ⟨pre, tail, htext, hread⟩

/-- A single mark: what is read starts with what is behind the closing mark. -/
theorem not_longText_mark (hafter : lineEnd? after = some rest) (hrest : lines? rest = some ss) :
    ¬LongText (dropFirstNewline after) ['"'] more := by
  intro h
  cases after with
  | nil => exact h.not_nil
  | cons c after =>
    obtain ⟨hc, hline | hline⟩ := lineEnd?_cons hafter
    · rw [dropFirstNewline, hline, Option.getD_some] at h
      obtain ⟨d, tail, rfl, hd⟩ | ⟨key, d, tail, htext, -⟩ := h.output_of_lines? hrest
      · exact LongText.not_prefix_of_quote (u := [d]) hd h List.prefix_rfl
      · simp at htext
    · have hnone : newline? (c :: after) = none := by
        unfold newline?
        split <;> simp_all
      rw [dropFirstNewline, hnone, Option.getD_none] at h
      exact LongText.not_prefix_of_quote (u := [c]) hc h List.prefix_rfl

/-- Where no line end is skipped, the first character behind the closing mark would be the first of
the text. -/
theorem not_longText_of_kept (hafter : lineEnd? after = some rest) :
    ¬LongText (u ++ '"' :: after) ('"' :: '"' :: u) more := by
  intro h
  cases after with
  | nil =>
    obtain ⟨pre, tail, -, hread⟩ := LongText.exists_output_after (z := ['"', '"']) (by simp) h
    exact hread.not_nil
  | cons c after =>
    obtain ⟨hc, -⟩ := lineEnd?_cons hafter
    have hfirst : [c] <+: [] ++ u :=
      LongText.prefix_of_quote h List.not_mem_nil hc (by simp) u le_rfl ⟨after, by simp⟩
    exact h.not_prefix_of_quote hc hfirst

/-- Behind the closing mark, the line ends as the text starts. -/
theorem eq_append_of_prefix {c : Char} (hnew : lineEnd = ['\n'] ∨ lineEnd = ['\r', '\n'])
    (hline : newline? (c :: cs) = some rest ∨ c ≠ '\n' ∧ c ≠ '\r') (h : [c] <+: lineEnd ++ u) :
    c :: cs = lineEnd ++ rest := by
  obtain ⟨tail, htail⟩ := h
  obtain rfl | rfl := hnew
  all_goals
    obtain ⟨rfl, -⟩ := List.cons_eq_cons.1 htail
    obtain hline | ⟨hn, hr⟩ := hline
    · obtain heq | heq := newline?_eq_some_iff.1 hline
      all_goals cases heq; try rfl
    · simp at hn hr

/-- Where a line end is skipped, the closing mark is in front of the same line end, and the first
character of the next line would be the first of the text. -/
theorem not_longText_of_skipped (hnew : lineEnd = ['\n'] ∨ lineEnd = ['\r', '\n'])
    (hafter : lineEnd? after = some rest) (hrest : lines? rest = some ss) :
    ¬LongText (u ++ '"' :: after) ('"' :: '"' :: (lineEnd ++ u)) more := by
  intro h
  have hord : Ordinary lineEnd := by
    obtain rfl | rfl := hnew <;> simp [Ordinary]
  have hquote := quote_notMem_lineEnd hnew
  have hlone : ∀ tail, after ≠ '"' :: tail := by
    rintro tail rfl
    exact ((lineEnd?_cons hafter).1 _ List.mem_cons_self).1 rfl
  have hfirst {d : List Char} (hd : Ordinary d) (hne : d ≠ []) :=
    h.prefix_of_quote hquote hd hne
  obtain ⟨pre, text, htext, hread⟩ :=
    LongText.exists_output_after (z := '"' :: '"' :: lineEnd) hlone h
  have hsame : after = lineEnd ++ rest := by
    cases after with
    | nil => exact absurd hread LongText.not_nil
    | cons c after =>
      obtain ⟨hc, hline⟩ := lineEnd?_cons hafter
      have hstart := hfirst hc (by simp) u le_rfl ⟨after, by simp⟩
      exact eq_append_of_prefix hnew hline hstart
  subst hsame
  obtain ⟨text', rfl, hread'⟩ := hread.output_of_ordinary hord
  obtain ⟨c, tail, rfl, hc⟩ | ⟨key, d, tail, rfl, hd, hend⟩ := hread'.output_of_lines? hrest
  · have hboth : Ordinary (lineEnd ++ [c]) := List.forall_mem_append.2 ⟨hord, hc⟩
    have hstart := hfirst hboth (by simp) u le_rfl ⟨tail, by simp⟩
    exact h.not_prefix_of_quote hc ((List.prefix_append_right_inj _).1 hstart)
  · -- The mark that closes the key is within the text, so what is behind it comes first.
    obtain ⟨front, -, rfl⟩ := exists_eq_append_of_length_le (a := '"' :: '"' :: lineEnd) (b := u)
      (c := pre ++ '"' :: (lineEnd ++ '"' :: key)) (d := '"' :: d :: tail)
      (by simpa using htext) (by simp; omega)
    have hstart := hfirst hd (by simp) front (by simp)
      ⟨tail ++ '"' :: (lineEnd ++ rest), by simp⟩
    refine hend ?_
    obtain rfl | rfl := hnew
    all_goals simp_all

/-- A text that opens a text over several lines is not read as itself. -/
theorem not_longText_self (hafter : lineEnd? after = some rest) (hrest : lines? rest = some ss)
    (hopen : text ++ '"' :: after = '"' :: '"' :: cs) : ¬LongText (dropFirstNewline cs) text more := by
  match text, hopen with
  | [], hopen =>
    obtain ⟨hc, -⟩ := lineEnd?_cons ((List.cons_eq_cons.1 hopen).2 ▸ hafter)
    exact absurd rfl (hc _ List.mem_cons_self).1
  | [c], hopen =>
    cases hopen
    exact not_longText_mark hafter hrest
  | c :: d :: u, hopen =>
    cases hopen
    change ¬LongText (dropFirstNewline (u ++ '"' :: after)) _ more
    cases hline : newline? (u ++ '"' :: after) with
    | none =>
      rw [dropFirstNewline, hline, Option.getD_none]
      exact not_longText_of_kept hafter
    | some start =>
      rw [dropFirstNewline, hline, Option.getD_some]
      obtain ⟨lineEnd, hsplit, hnew⟩ := exists_lineEnd_of_newline? hline
      obtain ⟨u, rfl, rfl⟩ :=
        exists_eq_append_of_quote_notMem hsplit (quote_notMem_lineEnd hnew)
      exact not_longText_of_skipped hnew hafter hrest

end

end EndpointCountry.Toml
