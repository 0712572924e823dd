import Mathlib
import EndpointCountry.Config.Load

/-!
# What a substitution does to a text

References are found from the left to the right and cannot overlap, so a text may be cut at a
reference, and what is put in its place is not looked at again.

* `referenceName?_eq_some_iff` — the references that a text starts with.
* `substituteFrom_append_reference` — a text cut at a reference.
* `substituteFrom_congr` — only the names in a text count.
* `substituteFrom_of_noReference` — a text without a reference stays.
* `substitute_reference` — a text with one reference.
* `mention`, `substitute_single_pass` — all of this about texts as they are written.
-/

namespace EndpointCountry.Environment

/-! ## Finding a reference -/

/-- What may not stand in a name ends it. -/
theorem takeWhile_isNameChar_append {name : List Char} (h : name.all isNameChar = true) {c : Char}
    (hc : isNameChar c = false) (rest : List Char) :
    (name ++ c :: rest).takeWhile isNameChar = name := by
  rw [List.takeWhile_append_of_pos (by simpa using h), List.takeWhile_cons_of_neg (by simp [hc]),
    List.append_nil]

theorem dropWhile_isNameChar_append {name : List Char} (h : name.all isNameChar = true) {c : Char}
    (hc : isNameChar c = false) (rest : List Char) :
    (name ++ c :: rest).dropWhile isNameChar = c :: rest := by
  rw [List.dropWhile_append_of_pos (by simpa using h), List.dropWhile_cons_of_neg (by simp [hc])]

theorem referenceName?_eq_some_iff {text name : List Char} :
    referenceName? text = some name ↔ IsName name ∧ ∃ rest, text = reference name ++ rest := by
  constructor
  · intro h
    unfold referenceName? at h
    split at h
    · rename_i c rest
      simp only at h
      split at h
      · rename_i more hclose
        rw [Option.ite_none_right_eq_some] at h
        obtain ⟨hstart, hname⟩ := h
        cases hname
        have hsplit := List.takeWhile_append_dropWhile (p := isNameChar) (l := c :: rest)
        rw [hclose] at hsplit
        have hc : isNameChar c = true := by simp [isNameChar, hstart]
        refine ⟨⟨⟨c, ?_, hstart⟩, ?_⟩, more, ?_⟩
        · rw [List.takeWhile_cons_of_pos hc]
          rfl
        · rw [List.all_takeWhile]
        · rw [reference]
          simp [hsplit]
      · cases h
    · cases h
  · rintro ⟨⟨⟨c, hhead, hstart⟩, hall⟩, rest, rfl⟩
    cases name with
    | nil => cases hhead
    | cons d name =>
      cases hhead
      have htext : reference (c :: name) ++ rest =
          '$' :: '\x7b' :: c :: (name ++ '\x7d' :: rest) := by
        simp [reference]
      have hclose : isNameChar '\x7d' = false := by decide
      have htake := takeWhile_isNameChar_append hall hclose rest
      have hdrop := dropWhile_isNameChar_append hall hclose rest
      rw [List.cons_append] at htake hdrop
      rw [htext, referenceName?]
      simp only [htake, hdrop, hstart, if_true]

theorem length_reference (name : List Char) : (reference name).length = name.length + 3 := by
  simp [reference]

/-- A reference that has begun in a text does not reach into one that begins behind the text. -/
theorem referenceName?_append {text : List Char} (htext : text ≠ []) (rest : List Char) :
    referenceName? (text ++ '$' :: rest) = referenceName? text := by
  refine Option.ext fun name => ?_
  rw [referenceName?_eq_some_iff, referenceName?_eq_some_iff]
  refine and_congr_right fun hname => ⟨?_, ?_⟩
  · rintro ⟨more, heq⟩
    obtain ⟨tail, hreference, hmore⟩ | ⟨tail, hreference, -⟩ := List.append_eq_append_iff.1 heq
    · cases tail with
      | nil => exact ⟨[], by simpa using hreference.symm⟩
      | cons c tail =>
        -- The second dollar sign would have to be a brace or part of the name.
        obtain ⟨rfl, -⟩ := List.cons_eq_cons.1 hmore
        obtain ⟨a, front, rfl⟩ := List.exists_cons_of_ne_nil htext
        have hinside : '$' ∈ '\x7b' :: name ++ ['\x7d'] := by
          have htail : '\x7b' :: name ++ ['\x7d'] = front ++ '$' :: tail :=
            (List.cons_eq_cons.1 hreference).2
          rw [htail]
          simp
        have hall := hname.2
        rw [List.all_eq_true] at hall
        have hmem : '$' ∈ name := by simpa using hinside
        cases hall _ hmem
    · exact ⟨tail, hreference⟩
  · rintro ⟨more, rfl⟩
    exact ⟨more ++ '$' :: rest, by simp⟩

/-! ## Cutting a text -/

theorem substituteFrom_skip (env : Environment) (front rest : List Char) :
    substituteFrom env front.length (front ++ rest) = substituteFrom env 0 rest := by
  induction front with
  | nil => rfl
  | cons c front ih => exact ih

/-- A text may be cut at a reference, wherever the text before it ends and also while some of that
text is skipped. -/
theorem substituteFrom_append_reference (env : Environment) {name : List Char}
    (hname : IsName name) {skip : Nat} {text : List Char} (hskip : skip ≤ text.length)
    (rest : List Char) :
    substituteFrom env skip (text ++ (reference name ++ rest)) =
      substituteFrom env skip text ++ (env.valueOf name ++ substituteFrom env 0 rest) := by
  induction text generalizing skip with
  | nil =>
    obtain rfl := Nat.le_zero.1 hskip
    have hfound := referenceName?_eq_some_iff.2 ⟨hname, rest, rfl⟩
    have hrest := substituteFrom_skip env ('\x7b' :: name ++ ['\x7d']) rest
    rw [show ('\x7b' :: name ++ ['\x7d']).length = name.length + 2 by simp] at hrest
    have htext : reference name ++ rest = '$' :: ('\x7b' :: name ++ ['\x7d'] ++ rest) := rfl
    rw [htext] at hfound ⊢
    rw [List.nil_append, substituteFrom, List.nil_append, substituteFrom, hfound]
    simp only [hrest]
  | cons c text ih =>
    cases skip with
    | succ skip => exact ih (Nat.le_of_succ_le_succ hskip)
    | zero =>
      have hfound : referenceName? (c :: (text ++ (reference name ++ rest))) =
          referenceName? (c :: text) :=
        referenceName?_append (List.cons_ne_nil c text) _
      rw [List.cons_append, substituteFrom, substituteFrom, hfound]
      cases hfirst : referenceName? (c :: text) with
      | none =>
        simp only [List.cons_append]
        rw [ih (Nat.zero_le _)]
      | some first =>
        obtain ⟨-, more, heq⟩ := referenceName?_eq_some_iff.1 hfirst
        have hlen := congrArg List.length heq
        rw [List.length_append, length_reference, List.length_cons] at hlen
        simp only [List.append_assoc]
        rw [ih (by omega)]

/-! ## What a substitution depends on -/

/-- Environments with the same values for the names in a text replace its references alike. What
they hold for other names, such as those in the values, does not count. -/
theorem substituteFrom_congr {env env' : Environment} {skip : Nat} {text : List Char}
    (h : ∀ name, IsName name → reference name <:+: text →
      env (String.ofList name) = env' (String.ofList name)) :
    substituteFrom env skip text = substituteFrom env' skip text := by
  induction text generalizing skip with
  | nil => rfl
  | cons c text ih =>
    have hrest : ∀ name, IsName name → reference name <:+: text →
        env (String.ofList name) = env' (String.ofList name) :=
      fun name hname hpart => h name hname (hpart.trans (List.suffix_cons c text).isInfix)
    cases skip with
    | succ skip => exact ih hrest
    | zero =>
      rw [substituteFrom, substituteFrom]
      cases hfirst : referenceName? (c :: text) with
      | none => simp only [ih hrest]
      | some first =>
        obtain ⟨hname, more, heq⟩ := referenceName?_eq_some_iff.1 hfirst
        have hpart : reference first <:+: c :: text := heq ▸ (List.prefix_append _ more).isInfix
        have hvalue : env.valueOf first = env'.valueOf first := by
          rw [valueOf, valueOf, h first hname hpart]
        simp only [hvalue, ih hrest]

/-- Where nothing is set, every reference stands for itself. -/
theorem substituteFrom_none (skip : Nat) (text : List Char) :
    substituteFrom (fun _ => none) skip text = text.drop skip := by
  induction text generalizing skip with
  | nil => rw [substituteFrom, List.drop_nil]
  | cons c text ih =>
    cases skip with
    | succ skip => exact ih skip
    | zero =>
      rw [substituteFrom, List.drop_zero]
      cases hfirst : referenceName? (c :: text) with
      | none => simp only [ih, List.drop_zero]
      | some first =>
        obtain ⟨-, more, heq⟩ := referenceName?_eq_some_iff.1 hfirst
        have hmore : text.drop (first.length + 2) = more := by
          have hdrop : (c :: text).drop (first.length + 3) = more := by
            rw [heq]
            exact List.drop_left' (length_reference first)
          exact hdrop
        simp only [ih, hmore]
        exact heq.symm

/-- A text that holds no reference. -/
def NoReference (text : List Char) : Prop :=
  ∀ name, IsName name → ¬ reference name <:+: text

theorem substituteFrom_of_noReference (env : Environment) {text : List Char}
    (h : NoReference text) : substituteFrom env 0 text = text :=
  (substituteFrom_congr fun name hname hpart => absurd hpart (h name hname)).trans
    (substituteFrom_none 0 text)

theorem noReference_of_notMem {text : List Char} (h : '$' ∉ text) : NoReference text :=
  fun _ _ hpart => h (hpart.subset List.mem_cons_self)

/-- A text with one reference in it. -/
theorem substitute_reference (env : Environment) {name front back : List Char}
    (hname : IsName name) (hfront : NoReference front) (hback : NoReference back) :
    env.substitute (String.ofList (front ++ (reference name ++ back))) =
      String.ofList (front ++ (env.valueOf name ++ back)) := by
  rw [substitute, String.toList_ofList,
    substituteFrom_append_reference env hname (Nat.zero_le _),
    substituteFrom_of_noReference env hfront, substituteFrom_of_noReference env hback]

/-! ## A single pass -/

/-- A reference as it is written. -/
def mention (name : String) : String :=
  "$\x7b" ++ name ++ "\x7d"

/-- A text refers to a variable. -/
def Mentions (t name : String) : Prop :=
  IsName name.toList ∧ (mention name).toList <:+: t.toList

theorem toList_mention (name : String) : (mention name).toList = reference name.toList := by
  simp [mention, reference]

theorem ofList_valueOf (env : Environment) (name : String) :
    String.ofList (env.valueOf name.toList) = (env name).getD (mention name) := by
  rw [valueOf, String.ofList_toList]
  cases env name with
  | none => rw [← toList_mention, String.ofList_toList, Option.getD_none]
  | some value => rw [String.ofList_toList, Option.getD_some]

theorem substitute_congr {env env' : Environment} {t : String}
    (h : ∀ name, Mentions t name → env name = env' name) : env.substitute t = env'.substitute t := by
  rw [substitute, substitute, substituteFrom_congr]
  intro name hname hpart
  refine h _ ⟨?_, ?_⟩
  · rwa [String.toList_ofList]
  · rwa [toList_mention, String.toList_ofList]

theorem substitute_none (t : String) : substitute (fun _ => none) t = t := by
  rw [substitute, substituteFrom_none, List.drop_zero, String.ofList_toList]

/-- References are replaced in one pass from the left to the right. A text may be cut at a
reference, whatever stands on either side: the reference gives the value of its variable as it is,
or itself where that is not set, and the sides are replaced by themselves. A text without a
reference stays, and so does one that refers to no variable that is set. Only the variables that
the text itself refers to count, not those that a value refers to by itself or together with what
stands around it. -/
theorem substitute_single_pass :
    (∀ (env : Environment) (name a b : String), IsName name.toList →
      env.substitute (a ++ mention name ++ b) =
        env.substitute a ++ (env name).getD (mention name) ++ env.substitute b) ∧
    (∀ (env : Environment) (t : String), (∀ name, ¬ Mentions t name) → env.substitute t = t) ∧
    (∀ (env : Environment) (t : String), (∀ name, Mentions t name → env name = none) →
      env.substitute t = t) ∧
    (∀ (env env' : Environment) (t : String), (∀ name, Mentions t name → env name = env' name) →
      env.substitute t = env'.substitute t) := by
  have hunset : ∀ (env : Environment) (t : String), (∀ name, Mentions t name → env name = none) →
      env.substitute t = t := by
    intro env t h
    exact (substitute_congr h).trans (substitute_none t)
  refine ⟨?_, ?_, hunset, fun env env' t => substitute_congr⟩
  · intro env name a b hname
    rw [← ofList_valueOf, substitute, substitute, substitute, ← String.ofList_append,
      ← String.ofList_append, String.toList_append, String.toList_append, toList_mention,
      List.append_assoc, substituteFrom_append_reference env hname (Nat.zero_le _),
      List.append_assoc]
  · intro env t h
    exact hunset env t fun name hmentions => absurd hmentions (h name)

/-- The value of `N` makes a reference to `M` together with what stands around it, and this is not
looked at again: a change of `M` makes no difference. A reference to a variable that is not set
stays, and so does one without a name. -/
theorem substitute_of_completing_value :
    let env : Environment := fun name =>
      if name = "N" then some "\x7bM" else if name = "M" then some "x" else none
    let changed : Environment := fun name => if name = "M" then some "y" else env name
    IsName "N".toList ∧
    env.substitute ("$" ++ mention "N" ++ "\x7d") = mention "M" ∧
    changed.substitute ("$" ++ mention "N" ++ "\x7d") = mention "M" ∧
    env.substitute (mention "U") = mention "U" ∧
    env.substitute (mention "") = mention "" := by
  intro env changed
  obtain ⟨hcut, hplain, hunset, hcongr⟩ := substitute_single_pass
  have hname : IsName "N".toList := ⟨⟨'N', rfl, by decide⟩, by decide⟩
  have hvalue : env.substitute ("$" ++ mention "N" ++ "\x7d") = mention "M" := by
    rw [hcut env "N" "$" "\x7d" hname]
    decide
  refine ⟨hname, hvalue, ?_, ?_, ?_⟩
  · rw [← hvalue]
    refine hcongr changed env _ fun name hmentions => ?_
    by_cases hM : name = "M"
    · subst hM
      exact absurd hmentions.2 (by decide)
    · exact if_neg hM
  · refine hunset env _ fun name hmentions => ?_
    by_cases hN : name = "N"
    · subst hN
      exact absurd hmentions.2 (by decide)
    by_cases hM : name = "M"
    · subst hM
      exact absurd hmentions.2 (by decide)
    · exact (if_neg hN).trans (if_neg hM)
  · refine hplain env _ fun name hmentions => ?_
    obtain ⟨⟨⟨c, hhead, -⟩, -⟩, hpart⟩ := hmentions
    have hlength := hpart.length_le
    rw [toList_mention, toList_mention, length_reference, length_reference] at hlength
    have hnil : name.toList = [] := List.eq_nil_of_length_eq_zero (by simpa using hlength)
    rw [hnil] at hhead
    cases hhead

end EndpointCountry.Environment
