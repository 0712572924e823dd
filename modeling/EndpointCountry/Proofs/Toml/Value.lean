import EndpointCountry.Proofs.Toml.Quoted
import EndpointCountry.Toml.Value

/-!
# Keys and values with more behind them

* `keyPath?_continues` — keys joined by points.
* `scalar?_continues`, `arrayItemsBy_continues`, `inlineEntriesBy_continues` — the kinds of values.
* `value?_continues` — values, by induction on how deep they may be nested.
-/

namespace EndpointCountry.Toml

variable {α : Type} {X : List Char} {m n : Nat}

/-! ## Keys -/

/-- A character that a key, or what may follow it before the next key, can start with. -/
def isKeyChar (c : Char) : Bool :=
  isBareKeyChar c || isSpace c || isQuote c || c == '.'

theorem simpleKey?_continues (hX : Ends isKeyChar X) :
    Continues X m (simpleKey? n) (simpleKey? m) := by
  intro cs key rest h hm
  unfold simpleKey? at h
  split at h
  · rw [List.length_cons] at hm ⊢
    obtain ⟨hrest, happ⟩ := basicBy_continues (X := X) (m := m) h (by omega)
    exact ⟨by omega, happ⟩
  · rw [List.length_cons] at hm ⊢
    obtain ⟨hrest, happ⟩ := literal?_continues (X := X) (m := m) h (by omega)
    exact ⟨by omega, happ⟩
  · rename_i hbasic hliteral
    simp only at h
    split at h
    · cases h
    · rename_i hkey
      cases h
      have hbare : Ends isBareKeyChar X := hX.mono fun c hc => by simp [isKeyChar, hc]
      have hlen :=
        congrArg List.length (List.takeWhile_append_dropWhile (p := isBareKeyChar) (l := cs))
      rw [List.length_append] at hlen
      rw [List.isEmpty_iff_length_eq_zero] at hkey
      refine ⟨by omega, ?_⟩
      rw [simpleKey?]
      · simp only [hbare.dropWhile_append, hbare.takeWhile_append]
        rw [if_neg]
        rwa [List.isEmpty_iff_length_eq_zero]
      · exact hX.ne_cons rfl hbasic
      · exact hX.ne_cons rfl hliteral

theorem keyPathBy_continues (hX : Ends isKeyChar X) {fuel : Nat} :
    Continues X m (keyPathBy n fuel) (keyPathBy m fuel) := by
  have hspace : Ends isSpace X := hX.mono fun c hc => by simp [isKeyChar, hc]
  induction fuel with
  | zero => rintro cs path rest ⟨⟩
  | succ fuel ih =>
    intro cs path rest h hm
    unfold keyPathBy at h ⊢
    simp only [Option.bind_eq_bind, Option.bind_eq_some_iff, Prod.exists] at h ⊢
    obtain ⟨key, mid, hkey, h⟩ := h
    obtain ⟨hmid, hkey'⟩ := simpleKey?_continues hX hkey hm
    have hskip := length_skipSpaces_le mid
    split at h
    · rename_i tail hpoint
      simp only [Option.bind_eq_some_iff, Prod.exists] at h
      obtain ⟨more, rest, hmore, heq⟩ := h
      cases heq
      have hskip' := length_skipSpaces_le tail
      rw [hpoint, List.length_cons] at hskip
      obtain ⟨hrest, hmore'⟩ := ih hmore (by omega)
      refine ⟨by omega, key, mid ++ X, hkey', ?_⟩
      rw [skipSpaces_append hspace, hpoint]
      simp [skipSpaces_append hspace, hmore']
    · rename_i hpoint
      cases h
      refine ⟨by omega, key, mid ++ X, hkey', ?_⟩
      rw [skipSpaces_append hspace]
      split
      · rename_i tail htail
        exact absurd htail (hX.ne_cons rfl hpoint tail)
      · rfl

theorem keyPath?_continues (hX : Ends isKeyChar X) :
    Continues X m (keyPath? n) (keyPath? m) :=
  keyPathBy_continues hX

/-- A path of keys starts with a character of a key without quotes or with a quote. -/
theorem isBareKeyChar_or_isQuote_of_keyPath? {c : Char} {cs rest : List Char}
    {path : List String} (h : keyPath? n (c :: cs) = some (path, rest)) :
    isBareKeyChar c = true ∨ isQuote c = true := by
  unfold keyPath? maxDepth keyPathBy at h
  simp only [Option.bind_eq_bind, Option.bind_eq_some_iff, Prod.exists] at h
  obtain ⟨key, mid, hkey, -⟩ := h
  unfold simpleKey? at hkey
  split at hkey
  · rename_i heq
    cases heq
    exact .inr rfl
  · rename_i heq
    cases heq
    exact .inr rfl
  · by_contra hno
    rw [not_or] at hno
    simp [List.takeWhile_cons_of_neg hno.1] at hkey

theorem ne_nil_of_keyPath? {cs rest : List Char} {path : List String}
    (h : keyPath? n cs = some (path, rest)) : path ≠ [] := by
  rw [keyPath?, maxDepth, keyPathBy] at h
  simp only [Option.bind_eq_bind, Option.bind_eq_some_iff, Prod.exists] at h
  obtain ⟨key, mid, -, h⟩ := h
  split at h
  · simp only [Option.bind_eq_some_iff, Prod.exists, Option.some.injEq] at h
    obtain ⟨_, _, _, heq⟩ := h
    cases heq
    exact List.cons_ne_nil _ _
  · cases h
    exact List.cons_ne_nil _ _

theorem keyPath?_cr (cs : List Char) : keyPath? n ('\r' :: cs) = none :=
  rfl

/-! ## Values -/

theorem unquotedFrom_append (hX : Break X) (taken cs : List Char) :
    unquotedFrom taken (cs ++ X) =
      ((unquotedFrom taken cs).1, (unquotedFrom taken cs).2 ++ X) := by
  induction cs generalizing taken with
  | nil =>
    obtain rfl | ⟨Y, rfl | rfl⟩ := hX.cases
    all_goals simp [unquotedFrom, isUnquotedChar]
  | cons c cs ih =>
    simp only [List.cons_append, unquotedFrom]
    split
    · exact ih _
    · rfl

theorem length_unquotedFrom (taken cs : List Char) :
    (unquotedFrom taken cs).1.length + (unquotedFrom taken cs).2.length =
      taken.length + cs.length := by
  induction cs generalizing taken with
  | nil => rfl
  | cons c cs ih =>
    simp only [unquotedFrom]
    split
    · rw [ih, List.length_cons, List.length_cons]
      omega
    · rfl

theorem unquoted_append (hX : Break X) (cs : List Char) :
    unquoted (cs ++ X) = ((unquoted cs).1, (unquoted cs).2 ++ X) := by
  simp only [unquoted, unquotedFrom_append hX]

theorem length_unquoted_lt {cs : List Char} (h : (unquoted cs).1 ≠ []) :
    (unquoted cs).2.length < cs.length := by
  have hlen := length_unquotedFrom [] cs
  have htaken : (unquotedFrom [] cs).1.length ≠ 0 := by
    rintro hnil
    rw [List.length_eq_zero_iff] at hnil
    apply h
    simp only [unquoted, hnil]
    rfl
  simp only [unquoted]
  rw [List.length_nil] at hlen
  omega

theorem scalar?_continues (hX : Break X) : Continues X m (scalar? n) (scalar? m) := by
  intro cs d rest h hm
  unfold scalar? at h
  simp only at h
  split at h
  · obtain ⟨⟨text, rest⟩, htext, heq⟩ := Option.map_eq_some_iff.1 h
    cases heq
    simp only [List.length_cons] at hm ⊢
    obtain ⟨hrest, happ⟩ := longBasic?_continues hX (m := m) htext (by omega)
    refine ⟨by omega, ?_⟩
    simp [scalar?, happ]
  · rename_i tail hlong
    obtain ⟨⟨text, rest⟩, htext, heq⟩ := Option.map_eq_some_iff.1 h
    cases heq
    simp only [List.length_cons] at hm ⊢
    obtain ⟨hrest, happ⟩ := basicBy_continues (X := X) (m := m) htext (by omega)
    refine ⟨by omega, ?_⟩
    rw [List.cons_append, scalar?]
    · simp only [basic?, happ, Option.map_some]
    · exact hX.ne_cons_cons (by decide) (by decide) hlong
  · obtain ⟨⟨text, rest⟩, htext, heq⟩ := Option.map_eq_some_iff.1 h
    cases heq
    simp only [List.length_cons] at hm ⊢
    obtain ⟨hrest, happ⟩ := longLiteral?_continues hX (m := m) htext (by omega)
    refine ⟨by omega, ?_⟩
    simp [scalar?, happ]
  · rename_i tail hlong
    obtain ⟨⟨text, rest⟩, htext, heq⟩ := Option.map_eq_some_iff.1 h
    cases heq
    simp only [List.length_cons] at hm ⊢
    obtain ⟨hrest, happ⟩ := literal?_continues (X := X) (m := m) htext (by omega)
    refine ⟨by omega, ?_⟩
    rw [List.cons_append, scalar?]
    · simp only [happ, Option.map_some]
    · exact hX.ne_cons_cons (by decide) (by decide) hlong
  · rename_i h₁ hbasic h₂ hliteral
    obtain ⟨d, htoken, heq⟩ := Option.map_eq_some_iff.1 h
    cases heq
    have hwritten : (unquoted cs).1 ≠ [] := by
      intro hnil
      rw [hnil] at htoken
      cases htoken
    refine ⟨length_unquoted_lt hwritten, ?_⟩
    have hbasic' := hX.ne_cons (by decide) (by decide) hbasic
    have hliteral' := hX.ne_cons (by decide) (by decide) hliteral
    rw [scalar?]
    · simp only [unquoted_append hX, htoken, Option.map_some]
    · exact fun r => hbasic' _
    · exact hbasic'
    · exact fun r => hliteral' _
    · exact hliteral'

/-- The next part of a value, after blanks, line ends and comments. -/
theorem skipFiller_append {cs rest : List Char} {c : Char} (h : skipFiller cs = some (c :: rest))
    (hc : c ≠ '\r') (X : List Char) :
    rest.length < cs.length ∧ skipFiller (cs ++ X) = some (c :: (rest ++ X)) :=
  skipFillerFrom_append h hc X

variable {read read' : ValueReader}

/-- A value, after blanks, line ends and comments. -/
theorem Continues.skipFiller {r r' : List Char → Option (α × List Char)} (hr : Continues X m r r')
    (hcr : ∀ cs, r ('\r' :: cs) = none) {cs start rest : List Char} {a : α}
    (hstart : Toml.skipFiller cs = some start) (h : r start = some (a, rest))
    (hm : cs.length + X.length ≤ m) :
    rest.length < cs.length ∧ Toml.skipFiller (cs ++ X) = some (start ++ X) ∧
      r' (start ++ X) = some (a, rest ++ X) := by
  cases start with
  | nil =>
    have hX : ([] : List Char).length + X.length ≤ m := by
      rw [List.length_nil]
      omega
    cases (hr h hX).1
  | cons c tail =>
    have hc : c ≠ '\r' := by
      rintro rfl
      rw [hcr] at h
      cases h
    obtain ⟨hlen, hstart'⟩ := skipFiller_append hstart hc X
    obtain ⟨hrest, h'⟩ := hr h (by rw [List.length_cons]; omega)
    rw [List.length_cons] at hrest
    exact ⟨by omega, hstart', h'⟩

variable {read read' : ValueReader}

theorem arrayItemsBy_continues (hX : Break X) (hread : Continues X m read read')
    (hcr : ∀ cs, read ('\r' :: cs) = none) {fuel : Nat} (hfuel : fuel ≤ m) :
    Continues X fuel (arrayItemsBy read n) (arrayItemsBy read' fuel) := by
  induction n generalizing fuel with
  | zero => rintro cs ds rest ⟨⟩
  | succ n ih =>
    intro cs ds rest h hm
    unfold arrayItemsBy at h
    simp only [Option.bind_eq_bind, Option.bind_eq_some_iff] at h
    obtain ⟨start, hstart, h⟩ := h
    split at h
    · cases h
      obtain ⟨hlen, hstart'⟩ := skipFiller_append hstart (by decide) X
      obtain ⟨fuel, rfl⟩ : ∃ k, fuel = k + 1 := ⟨fuel - 1, by omega⟩
      refine ⟨hlen, ?_⟩
      simp [arrayItemsBy, hstart']
    · rename_i hclose
      simp only [Option.bind_eq_some_iff, Prod.exists] at h
      obtain ⟨d, mid, hd, next, hnext, h⟩ := h
      obtain ⟨hmid, hstart', hd'⟩ := hread.skipFiller hcr hstart hd (by omega)
      obtain ⟨fuel, rfl⟩ : ∃ k, fuel = k + 1 := ⟨fuel - 1, by omega⟩
      have hopen := hX.ne_cons (by decide) (by decide) hclose
      split at h
      · cases h
        obtain ⟨hlen, hnext'⟩ := skipFiller_append hnext (by decide) X
        refine ⟨by omega, ?_⟩
        simp [arrayItemsBy, hstart', hd', hnext']
      · simp only [Option.bind_eq_some_iff, Prod.exists] at h
        obtain ⟨more, rest, hmore, heq⟩ := h
        cases heq
        obtain ⟨hlen, hnext'⟩ := skipFiller_append hnext (by decide) X
        obtain ⟨hrest, hmore'⟩ := ih (by omega : fuel ≤ m) hmore (by omega)
        refine ⟨by omega, ?_⟩
        simp [arrayItemsBy, hstart', hd', hnext', hmore']
      · cases h

theorem inlineEntriesBy_continues (hX : Break X) (hread : Continues X m read read')
    (hcr : ∀ cs, read ('\r' :: cs) = none) {size fuel : Nat} (hfuel : fuel ≤ m) :
    Continues X fuel (inlineEntriesBy size read n) (inlineEntriesBy m read' fuel) := by
  induction n generalizing fuel with
  | zero => rintro cs ds rest ⟨⟩
  | succ n ih =>
    intro cs entries rest h hm
    unfold inlineEntriesBy at h
    simp only [Option.bind_eq_bind, Option.bind_eq_some_iff] at h
    obtain ⟨start, hstart, h⟩ := h
    split at h
    · cases h
      obtain ⟨hlen, hstart'⟩ := skipFiller_append hstart (by decide) X
      obtain ⟨fuel, rfl⟩ : ∃ k, fuel = k + 1 := ⟨fuel - 1, by omega⟩
      refine ⟨hlen, ?_⟩
      simp [inlineEntriesBy, hstart']
    · rename_i hclose
      simp only [Option.bind_eq_some_iff, Prod.exists] at h
      obtain ⟨path, mid, hpath, equals, hequals, h⟩ := h
      split at h
      · simp only [Option.bind_eq_some_iff, Prod.exists] at h
        obtain ⟨value, hvalue, d, after, hd, next, hnext, h⟩ := h
        have hkeys : Continues X m (keyPath? size) (keyPath? m) :=
          keyPath?_continues (hX.ends rfl rfl)
        obtain ⟨hmid, hstart', hpath'⟩ := hkeys.skipFiller keyPath?_cr hstart hpath (by omega)
        obtain ⟨hequals', hequals''⟩ := skipFiller_append hequals (by decide) X
        obtain ⟨hafter, hvalue', hd'⟩ := hread.skipFiller hcr hvalue hd (by omega)
        obtain ⟨fuel, rfl⟩ : ∃ k, fuel = k + 1 := ⟨fuel - 1, by omega⟩
        have hopen := hX.ne_cons (by decide) (by decide) hclose
        split at h
        · cases h
          obtain ⟨hlen, hnext'⟩ := skipFiller_append hnext (by decide) X
          refine ⟨by omega, ?_⟩
          simp [inlineEntriesBy, hstart', hpath', hequals'', hvalue', hd', hnext']
        · simp only [Option.bind_eq_some_iff, Prod.exists] at h
          obtain ⟨more, rest, hmore, heq⟩ := h
          cases heq
          obtain ⟨hlen, hnext'⟩ := skipFiller_append hnext (by decide) X
          obtain ⟨hrest, hmore'⟩ := ih (by omega : fuel ≤ m) hmore (by omega)
          refine ⟨by omega, ?_⟩
          simp [inlineEntriesBy, hstart', hpath', hequals'', hvalue', hd', hnext', hmore']
        · cases h
      · cases h

theorem value?_cr (depth : Nat) (cs : List Char) : value? n depth ('\r' :: cs) = none := by
  cases depth <;> rfl

theorem value?_continues (hX : Break X) (depth : Nat) :
    Continues X m (value? n depth) (value? m depth) := by
  have hplain {d : Nat} {cs : List Char} (hlist : ∀ r, cs = '[' :: r → False)
      (htable : ∀ r, cs = '\x7b' :: r → False) :
      value? m d (cs ++ X) = scalar? m (cs ++ X) := by
    have hlist' := hX.ne_cons (by decide) (by decide) hlist
    have htable' := hX.ne_cons (by decide) (by decide) htable
    cases d <;> simp [value?]
  induction depth with
  | zero =>
    intro cs d rest h hm
    unfold value? at h
    split at h
    · cases h
    · cases h
    · rename_i hlist htable
      obtain ⟨hrest, happ⟩ := scalar?_continues hX h hm
      exact ⟨hrest, by rw [hplain hlist htable, happ]⟩
  | succ depth ih =>
    intro cs d rest h hm
    unfold value? at h
    split at h
    · obtain ⟨⟨ds, rest⟩, hds, heq⟩ := Option.map_eq_some_iff.1 h
      cases heq
      rw [List.length_cons] at hm ⊢
      obtain ⟨hrest, hds'⟩ := arrayItemsBy_continues hX ih (value?_cr depth) le_rfl hds (by omega)
      refine ⟨by omega, ?_⟩
      simp [value?, hds']
    · simp only [Option.bind_eq_bind, Option.bind_eq_some_iff, Prod.exists] at h
      obtain ⟨entries, rest, hentries, table, htable, heq⟩ := h
      cases heq
      rw [List.length_cons] at hm ⊢
      obtain ⟨hrest, hentries'⟩ :=
        inlineEntriesBy_continues hX ih (value?_cr depth) le_rfl hentries (by omega)
      refine ⟨by omega, ?_⟩
      simp [value?, hentries', htable]
    · rename_i hlist htable
      obtain ⟨hrest, happ⟩ := scalar?_continues hX h hm
      exact ⟨hrest, by rw [hplain hlist htable, happ]⟩

end EndpointCountry.Toml
