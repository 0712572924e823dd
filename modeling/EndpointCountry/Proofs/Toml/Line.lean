import EndpointCountry.Proofs.Toml.Document

/-!
# A line with a text between quotation marks

What a document says when one of its lines gives a text between quotation marks, for any text put
there.

* `basicBy_verbatim`, `verbatim_of_basicBy` — the texts that are read as they are written.
* `QuotedLine` — a line with such a text, and the document around it.
* `QuotedLine.statements?_document` — the statements of that document.
-/

namespace EndpointCountry.Toml

variable {n : Nat}

/-! ## Texts that are read as they are written -/

/-- Every character stands for itself between quotation marks. -/
def Verbatim (text : List Char) : Prop :=
  ∀ c ∈ text, isPlain c = true ∧ c ≠ '"' ∧ c ≠ '\\'

instance (text : List Char) : Decidable (Verbatim text) :=
  List.decidableBAll (fun c => isPlain c = true ∧ c ≠ '"' ∧ c ≠ '\\') text

theorem basicBy_verbatim {text : List Char} (h : Verbatim text) (hn : text.length < n)
    (rest : List Char) : basicBy n (text ++ '"' :: rest) = some (text, rest) := by
  induction text generalizing n with
  | nil =>
    obtain ⟨n, rfl⟩ : ∃ k, n = k + 1 := ⟨n - 1, by simp at hn; omega⟩
    rfl
  | cons c text ih =>
    rw [List.length_cons] at hn
    obtain ⟨n, rfl⟩ : ∃ k, n = k + 1 := ⟨n - 1, by omega⟩
    obtain ⟨⟨hplain, hquote, hslash⟩, htext⟩ := List.forall_mem_cons.1 h
    rw [List.cons_append, basicBy, if_pos hplain, ih htext (by omega)]
    · rfl
    · exact hquote
    · exact hslash

theorem quote_notMem_of_codePoint? {digits : List Char} {c : Char}
    (h : codePoint? digits = some c) : '"' ∉ digits := by
  intro hmem
  have hnone : digits.mapM Text.hexValue? = none := by
    clear h
    induction digits with
    | nil => cases hmem
    | cons d digits ih =>
      rw [List.mapM_cons]
      rcases List.mem_cons.1 hmem with rfl | htail
      · rfl
      · cases hd : Text.hexValue? d with
        | none => rfl
        | some a =>
          rw [ih htail]
          rfl
  rw [codePoint?, Text.hexNumber?, hnone] at h
  cases h

/-- An escape takes one quotation mark or none. -/
theorem escape?_taken {cs rest : List Char} {c : Char} (h : escape? cs = some (c, rest)) :
    ∃ taken, cs = taken ++ rest ∧ taken ≠ [] ∧ (taken = ['"'] ∧ c = '"' ∨ '"' ∉ taken) := by
  unfold escape? at h
  split at h
  case h_12 => cases h
  case h_9 | h_10 | h_11 =>
    obtain ⟨c, hc, heq⟩ := Option.map_eq_some_iff.1 h
    cases heq
    exact ⟨_ :: _, rfl, List.cons_ne_nil _ _,
      .inr (List.not_mem_cons_of_ne_of_not_mem (by decide) (quote_notMem_of_codePoint? hc))⟩
  all_goals
    cases h
    exact ⟨[_], rfl, List.cons_ne_nil _ _, by decide⟩

/-- What holds no quotation mark ends before the first one. -/
theorem exists_eq_append_of_quote_notMem {front rest taken mid : List Char}
    (h : front ++ '"' :: rest = taken ++ mid) (htaken : '"' ∉ taken) :
    ∃ more, front = taken ++ more ∧ mid = more ++ '"' :: rest := by
  obtain ⟨tail, rfl, hmid⟩ | ⟨tail, rfl, hmid⟩ := List.append_eq_append_iff.1 h
  · cases tail with
    | nil => exact ⟨[], by simp, by simpa using hmid.symm⟩
    | cons a tail =>
      cases hmid
      simp at htaken
  · exact ⟨tail, rfl, hmid⟩

/-- What is read from an input is no longer than the part before the first quotation mark, and as
long as it only where that part is read as it is written, unless an escape gives a quotation mark
early. -/
theorem length_le_of_basicBy {front rest text more : List Char} (hfront : '"' ∉ front)
    (h : basicBy n (front ++ '"' :: rest) = some (text, more))
    (htext : '"' ∉ text.take front.length) :
    text.length ≤ front.length ∧ (text.length = front.length → text = front ∧ Verbatim front) := by
  induction n generalizing front text with
  | zero => cases h
  | succ n ih =>
    cases front with
    | nil =>
      cases h
      exact ⟨le_rfl, fun _ => ⟨rfl, List.forall_mem_nil _⟩⟩
    | cons c front =>
      rw [List.mem_cons, not_or] at hfront
      rw [List.cons_append] at h
      unfold basicBy at h
      split at h
      · contradiction
      · rename_i heq
        cases (List.cons_eq_cons.1 heq).1
        exact absurd rfl hfront.1
      · rename_i heq
        cases heq
        simp only [Option.bind_eq_bind, Option.bind_eq_some_iff, Prod.exists] at h
        obtain ⟨d, mid, hd, text, more, hmore, heq⟩ := h
        cases heq
        obtain ⟨taken, hsplit, hne, ⟨rfl, rfl⟩ | hquote⟩ := escape?_taken hd
        · simp at htext
        · obtain ⟨front, rfl, rfl⟩ := exists_eq_append_of_quote_notMem hsplit hquote
          -- An escape has at least one character besides its backslash.
          have hlen := List.length_pos_iff.2 hne
          have htake : '"' ∉ text.take front.length := by
            intro hmem
            rw [List.length_cons, List.take_succ_cons] at htext
            refine htext (List.mem_cons_of_mem _ (List.take_subset_take_left _ ?_ hmem))
            simp
          obtain ⟨hle, -⟩ := ih (fun hmem => hfront.2 (List.mem_append_right _ hmem)) hmore htake
          simp only [List.length_cons, List.length_append]
          exact ⟨by omega, fun heq => by omega⟩
      · rename_i hquote hslash heq
        cases heq
        split at h
        · rename_i hplain
          obtain ⟨⟨text, more⟩, hmore, heq⟩ := Option.map_eq_some_iff.1 h
          cases heq
          rw [List.length_cons, List.take_succ_cons, List.mem_cons, not_or] at htext
          obtain ⟨hle, heq⟩ := ih hfront.2 hmore htext.2
          rw [List.length_cons, List.length_cons]
          refine ⟨by omega, fun hlen => ?_⟩
          obtain ⟨rfl, hverbatim⟩ := heq (by omega)
          exact ⟨rfl, List.forall_mem_cons.2 ⟨⟨hplain, hquote, hslash⟩, hverbatim⟩⟩
        · cases h

/-- A text that is read as it is written. -/
theorem verbatim_of_basicBy {text rest more : List Char}
    (h : basicBy n (text ++ '"' :: rest) = some (text, more)) : Verbatim text := by
  obtain ⟨front, tail, hquote, hsplit, htail⟩ : ∃ front tail, '"' ∉ front ∧
      text ++ '"' :: rest = front ++ '"' :: tail ∧ front <+: text := by
    by_cases hmem : '"' ∈ text
    · obtain ⟨front, back, rfl, hnot⟩ := List.eq_append_cons_of_mem hmem
      exact ⟨front, back ++ '"' :: rest, hnot, by simp, List.prefix_append _ _⟩
    · exact ⟨text, rest, hmem, rfl, List.prefix_rfl⟩
  rw [hsplit] at h
  obtain ⟨back, rfl⟩ := htail
  obtain ⟨hle, heq⟩ := length_le_of_basicBy hquote h (by simpa)
  rw [List.length_append] at hle heq
  obtain ⟨htext, hverbatim⟩ := heq (by omega)
  rwa [htext]

/-- How a text is read behind its opening mark: over several lines, if two more marks follow. -/
def quoted? (size : Nat) : List Char → Option (List Char × List Char)
  | '"' :: '"' :: rest => longBasic? size rest
  | cs => basicBy size cs

theorem quoted?_of_ne {cs : List Char} (h : ∀ rest, cs ≠ '"' :: '"' :: rest) :
    quoted? n cs = basicBy n cs := by
  unfold quoted?
  split
  · exact absurd rfl (h _)
  · rfl

theorem value?_quote (n : Nat) (cs : List Char) :
    value? n maxDepth ('"' :: cs) =
      (quoted? n cs).map fun p => (.text (String.ofList p.1), p.2) := by
  change scalar? n ('"' :: cs) = _
  unfold quoted?
  split
  · rfl
  · rename_i hmarks
    rw [scalar?]
    · rfl
    · exact hmarks

/-! ## A line with a key -/

/-- A key does not start with a character that has a meaning of its own in front of it. -/
theorem ne_of_keyPath? {c d : Char} {cs rest : List Char} {path : List String}
    (h : keyPath? n (c :: cs) = some (path, rest)) (hbare : isBareKeyChar d = false)
    (hquote : isQuote d = false) : c ≠ d := by
  rintro rfl
  obtain h | h := isBareKeyChar_or_isQuote_of_keyPath? h
  · rw [hbare] at h
    cases h
  · rw [hquote] at h
    cases h

/-- A key with all that stands before the equals sign, and what follows that sign. -/
theorem statementHead?_key {m : Nat} {cs rest : List Char} {path : List String}
    (h : keyPath? m cs = some (path, [])) (hn : (cs ++ '=' :: rest).length ≤ n) :
    statementHead? n (cs ++ '=' :: rest) =
      (value? n maxDepth (skipSpaces rest)).map fun p => (.assign path p.1, p.2) := by
  have hequals : Ends isKeyChar ('=' :: rest) := by
    intro c hc
    cases hc
    rfl
  obtain ⟨-, hpath⟩ := keyPath?_continues hequals (m := n) h (by simpa using hn)
  cases cs with
  | nil => cases h
  | cons c cs =>
    have hbracket : ∀ more, c :: cs ++ '=' :: rest ≠ '[' :: more := fun more heq =>
      ne_of_keyPath? h rfl rfl (List.cons_eq_cons.1 heq).1
    rw [statementHead?]
    · rw [hpath]
      simp [Option.map_eq_bind]
    · exact fun more => hbracket _
    · exact hbracket

/-- A line with a key, and the lines after it. -/
theorem lines?_key {m : Nat} {cs rest : List Char} {path : List String}
    (h : keyPath? m cs = some (path, [])) (hn : (cs ++ '=' :: rest).length ≤ n) :
    lines? (cs ++ '=' :: rest) =
      (value? n maxDepth (skipSpaces rest)).bind fun p =>
        (lineEnd? p.2).bind fun more => (lines? more).map (.assign path p.1 :: ·) := by
  cases cs with
  | nil => cases h
  | cons c cs =>
    have hspace : isSpace c = false := by
      simp [isSpace, ne_of_keyPath? (d := ' ') h rfl rfl, ne_of_keyPath? (d := '\t') h rfl rfl]
    have hblank : ¬(c = '#' ∨ (newline? (c :: (cs ++ '=' :: rest))).isSome) := by
      rintro (rfl | hnew)
      · exact ne_of_keyPath? h rfl rfl rfl
      · obtain ⟨Y, hY⟩ := Option.isSome_iff_exists.1 hnew
        obtain hY | hY := newline?_eq_some_iff.1 hY
        all_goals exact ne_of_keyPath? h rfl rfl (List.cons_eq_cons.1 hY).1
    rw [List.cons_append, lines?_eq_of_statement hspace hblank hn, statement?_eq,
      ← List.cons_append, statementHead?_key h hn]
    simp [Option.bind_assoc, Option.map_eq_bind]

/-! ## A line of a document -/

/-- Some whole lines at the start of a document, and the statements on them. -/
inductive WholeLines : List Char → List Statement → Prop
  | none : WholeLines [] []
  | mark : WholeLines ['\ufeff'] []
  | lines {cs lineEnd : List Char} {ss : List Statement} (h : statements? cs = some ss)
      (hend : lineEnd = ['\n'] ∨ lineEnd = ['\r', '\n']) : WholeLines (cs ++ lineEnd) ss

theorem statements?_of_ne_mark {c : Char} {cs : List Char} (hc : c ≠ '\ufeff') :
    statements? (c :: cs) = lines? (c :: cs) := by
  unfold statements?
  split
  · rename_i heq
    exact absurd (List.cons_eq_cons.1 heq).1 hc
  · rfl

/-- What a document says on some whole lines and on the lines after them. -/
theorem WholeLines.statements?_append {before : List Char} {ss : List Statement}
    (h : WholeLines before ss) {c : Char} (hc : c ≠ '\ufeff') (cs : List Char) :
    statements? (before ++ c :: cs) = (lines? (c :: cs)).map (ss ++ ·) := by
  cases h with
  | none =>
    rw [List.nil_append, statements?_of_ne_mark hc]
    simp
  | mark =>
    have hmark : statements? (['\ufeff'] ++ c :: cs) = lines? (c :: cs) := rfl
    rw [hmark]
    simp
  | @lines front lineEnd _ h hend =>
    have hX : Break (lineEnd ++ c :: cs) := by
      obtain rfl | rfl := hend
      all_goals exact .inr rfl
    have hrest : lines? (lineEnd ++ c :: cs) = lines? (c :: cs) := by
      rw [← lines?_dropFirstNewline hX]
      obtain rfl | rfl := hend
      all_goals rfl
    rw [List.append_assoc, ← hrest]
    cases front with
    | nil =>
      cases h
      obtain rfl | rfl := hend
      all_goals exact (statements?_of_ne_mark (by decide)).trans (by simp)
    | cons d front =>
      by_cases hd : d = '\ufeff'
      · subst hd
        exact lines?_append hX h
      · rw [statements?_of_ne_mark hd] at h
        rw [List.cons_append, statements?_of_ne_mark hd]
        exact lines?_append hX h

/-- A line that gives a text between quotation marks, and the document around it. -/
structure QuotedLine where
  /-- The lines in front of it. -/
  before : List Char
  /-- Its key, and the blanks around that. -/
  key : List Char
  /-- The blanks behind the equals sign. -/
  gap : List Char
  /-- What follows the closing mark. -/
  after : List Char

namespace QuotedLine

/-- The document up to the opening mark. -/
def front (l : QuotedLine) : List Char :=
  l.before ++ (l.key ++ '=' :: (l.gap ++ ['"']))

/-- The document from the closing mark on. -/
def back (l : QuotedLine) : List Char :=
  '"' :: l.after

/-- The document with a text between the marks. -/
def document (l : QuotedLine) (text : List Char) : List Char :=
  l.front ++ (text ++ l.back)

/-- A line behind the statements `ss`, for a path of keys. -/
structure Reads (l : QuotedLine) (ss : List Statement) (path : List String) : Prop where
  before : WholeLines l.before ss
  key : keyPath? l.key.length (skipSpaces l.key) = some (path, [])
  gap : l.gap.all isSpace = true

variable {l : QuotedLine} {ss : List Statement} {path : List String}

/-- What a document with the line says, in terms of that line and the ones after it. -/
theorem statements?_before (hl : l.Reads ss path) (rest : List Char) :
    statements? (l.before ++ (l.key ++ rest)) = (lines? (l.key ++ rest)).map (ss ++ ·) := by
  have hread := hl.key
  cases hkey : l.key with
  | nil =>
    rw [hkey] at hread
    cases hread
  | cons c cs =>
    rw [hkey] at hread
    have hmark : c ≠ '\ufeff' := by
      rintro rfl
      exact ne_of_keyPath? hread rfl rfl rfl
    rw [List.cons_append]
    exact hl.before.statements?_append hmark _

/-- What the line and the lines after it say. -/
theorem lines?_line (hl : l.Reads ss path) {rest : List Char}
    (hn : (l.key ++ '=' :: (l.gap ++ '"' :: rest)).length ≤ n) :
    lines? (l.key ++ '=' :: (l.gap ++ '"' :: rest)) =
      (value? n maxDepth ('"' :: rest)).bind fun p =>
        (lineEnd? p.2).bind fun more => (lines? more).map (.assign path p.1 :: ·) := by
  have hgap : skipSpaces (l.gap ++ '"' :: rest) = '"' :: rest := by
    have hall := hl.gap
    rw [List.all_eq_true] at hall
    unfold skipSpaces
    rw [List.dropWhile_append_of_pos hall]
    rfl
  have hequals : Ends isSpace ('=' :: (l.gap ++ '"' :: rest)) := by
    intro c hc
    cases hc
    rfl
  have hskip := length_skipSpaces_le l.key
  rw [List.length_append] at hn
  rw [← lines?_skipSpaces, skipSpaces_append hequals, lines?_key hl.key, hgap]
  rw [List.length_append]
  omega

/-- What a document with a text between quotation marks says. -/
theorem statements?_document (hl : l.Reads ss path) (text : List Char) :
    statements? (l.document text) =
      (quoted? (l.document text).length (text ++ l.back)).bind fun p =>
        (lineEnd? p.2).bind fun more =>
          (lines? more).map (ss ++ .assign path (.text (String.ofList p.1)) :: ·) := by
  have hline : l.document text =
      l.before ++ (l.key ++ '=' :: (l.gap ++ '"' :: (text ++ l.back))) := by
    simp [document, front]
  have hn : (l.key ++ '=' :: (l.gap ++ '"' :: (text ++ l.back))).length ≤
      (l.document text).length := by
    rw [hline]
    exact (List.suffix_append _ _).length_le
  rw [hline, statements?_before hl, ← hline, lines?_line hl hn, value?_quote]
  simp [Option.bind_map, Option.map_bind, Function.comp_def]

/-- What a document with a text that is read as it is written says. -/
theorem statements?_document_of_verbatim (hl : l.Reads ss path) {text : List Char}
    (htext : Verbatim text) (hopen : ∀ rest, text ++ l.back ≠ '"' :: '"' :: rest) :
    statements? (l.document text) =
      (lineEnd? l.after).bind fun more =>
        (lines? more).map (ss ++ .assign path (.text (String.ofList text)) :: ·) := by
  have hlen : text.length < (l.document text).length := by
    simp only [document, back, List.length_append, List.length_cons]
    omega
  rw [statements?_document hl, quoted?_of_ne hopen, back, basicBy_verbatim htext hlen]
  rfl

end QuotedLine

end EndpointCountry.Toml
