import EndpointCountry.Proofs.Resolver.Sources
import EndpointCountry.Proofs.Resolver.Stability
import EndpointCountry.Proofs.Scheme.Table
import EndpointCountry.Proofs.Unicode.Lowercase

/-!
# The letter case of schemes and values

A resolver compares schemes and overridden values by their upper-case forms, so texts with one
upper-case form should fare alike. Schemes do. Location numbers do as far as they are long enough:
the length is that of the value as it is written, and two spellings may differ in it. And the
lower-case form of a scheme need not have the upper-case form of the scheme: a Kelvin sign has
become a letter k.

* `explain_eq_of_upper_eq`, `explain_upper` — schemes with one upper-case form, and the keys that
  are reported of them.
* `placeByPrefix_eq_of_upper_eq`, `explainGln_eq_of_upper_eq` — location numbers.
* `explain_of_spellings` — spellings of a value, whatever their lengths.
* `resolve_builtin_of_mem_upper` — the built-in tables know only schemes in ASCII capitals and
  digits.
* `resolve_lower_eq_iff` — which schemes may be put into lower case.
-/

namespace EndpointCountry.Resolver

open Scheme (lastUnder?_registered toNat_lt_of_mem_registered upper_of_mem_registered)
open Text (upper lower upperChars lowerChars strays)

/-! ## Values -/

section Values

variable {v w : String}

/-- The prefixes of a value are those of its upper-case form. -/
theorem placeByPrefix_eq_of_upper_eq (h : upper v = upper w) (tables : List Gln.Table) :
    placeByPrefix v.toList tables = placeByPrefix w.toList tables := by
  have hflat : v.toList.flatMap upperChars = w.toList.flatMap upperChars := by
    rw [← Text.toList_upper, h, Text.toList_upper]
  induction tables with
  | nil => rfl
  | cons table rest ih =>
    have hread : Text.readDigits? (v.toList.take table.digits) =
        Text.readDigits? (w.toList.take table.digits) := by
      rw [← Text.readDigits?_take_flatMap_upperChars, hflat,
        Text.readDigits?_take_flatMap_upperChars]
    simp only [placeByPrefix, hread, ih]

/-- Spellings of a value fare alike if both are long enough to be placed, or neither is. -/
theorem explainGln_eq_of_upper_eq (r : Resolver) (h : upper v = upper w)
    (hlength : v.length < 5 ↔ w.length < 5) : r.explainGln v = r.explainGln w := by
  unfold explainGln
  simp only [String.length_toList, shortestValue, hlength, placeByPrefix_eq_of_upper_eq h,
    CaselessTable.get?, h]

/-- Two spellings of a value have one resolution, unless one of them is too short to be placed and
the other is not. Then the short one has no country. -/
theorem explain_of_spellings (r : Resolver) {marker : String} (hmarker : isMarker marker = true)
    (h : upper v = upper w) :
    r.explain marker v = r.explain marker w ∨
      (v.length < 5 ∧ 5 ≤ w.length ∧ r.explain marker v = ⟨.unknown, .glnUnresolved⟩) ∨
      (w.length < 5 ∧ 5 ≤ v.length ∧ r.explain marker w = ⟨.unknown, .glnUnresolved⟩) := by
  have hshort (u : String) (hu : u.length < 5) :
      r.explain marker u = ⟨.unknown, .glnUnresolved⟩ := by
    rw [explain, if_pos hmarker, explainGln, String.length_toList, shortestValue, if_pos hu]
  have hsame (hlength : v.length < 5 ↔ w.length < 5) :
      r.explain marker v = r.explain marker w := by
    rw [explain, explain, if_pos hmarker, if_pos hmarker, explainGln_eq_of_upper_eq r h hlength]
  by_cases hv : v.length < 5
  · by_cases hw : w.length < 5
    · exact .inl (hsame (iff_of_true hv hw))
    · exact .inr (.inl ⟨hv, Nat.le_of_not_lt hw, hshort v hv⟩)
  · by_cases hw : w.length < 5
    · exact .inr (.inr ⟨hw, Nat.le_of_not_lt hv, hshort w hw⟩)
    · exact .inl (hsame (iff_of_false hv hw))

/-- A sharp s and two letters are spellings of one value, and here both are long enough. -/
theorem explain_of_long_spellings :
    isMarker "gln" = true ∧ upper "579straße" = upper "579STRASSE" ∧
      (builtin.explain "gln" "579straße" = builtin.explain "gln" "579STRASSE" ∨
        ("579straße".length < 5 ∧ 5 ≤ "579STRASSE".length ∧
          builtin.explain "gln" "579straße" = ⟨.unknown, .glnUnresolved⟩) ∨
        ("579STRASSE".length < 5 ∧ 5 ≤ "579straße".length ∧
          builtin.explain "gln" "579STRASSE" = ⟨.unknown, .glnUnresolved⟩)) := by
  have hmarker : isMarker "gln" = true := by decide
  have hspelling : upper "579straße" = upper "579STRASSE" := by decide +kernel
  exact ⟨hmarker, hspelling, explain_of_spellings builtin hmarker hspelling⟩

/-- The letter case of a value may count: a sharp s leaves a value of four characters, and its
capital form has five. -/
theorem not_forall_explain_of_spellings :
    ¬ ∀ (b : Builder) (r : Resolver), b.build = .ok r →
      ∀ marker v w, isMarker marker = true → upper v = upper w →
        r.explain marker v = r.explain marker w := by
  intro h
  have hbuild : Builder.empty.build = .ok builtin := rfl
  have hshort : builtin.explain "gln" "579ß" = ⟨.unknown, .glnUnresolved⟩ := by decide +kernel
  have hlong : builtin.explain "gln" "579ss" = ⟨.of 'D' 'K', .glnPrefix 3 579⟩ := by
    decide +kernel
  have hsame := h .empty builtin hbuild "gln" "579ß" "579ss" (by decide)
    (by decide +kernel)
  rw [hshort, hlong] at hsame
  cases hsame

end Values

/-! ## Schemes -/

/-- Schemes with one upper-case form have one resolution for every value. -/
theorem explain_eq_of_upper_eq (r : Resolver) {s t : String} (h : upper s = upper t)
    (value : String) : r.explain s value = r.explain t value := by
  have hmarker : isMarker s = isMarker t := by rw [isMarker, isMarker, h]
  have hlisted : r.schemes.get? s = r.schemes.get? t := by
    rw [Scheme.Table.get?, Scheme.Table.get?, CaselessTable.get?, CaselessTable.get?, h]
  rw [explain, explain, hmarker, hlisted, h]

/-- The key of a listed scheme is its upper-case form, and the value does not matter. -/
theorem explain_of_source_scheme {r : Resolver} {scheme value key : String}
    (h : (r.explain scheme value).source = .scheme key) :
    key = upper scheme ∧ ∀ other, r.explain scheme other = r.explain scheme value := by
  by_cases hmarker : isMarker scheme = true
  · rw [explain, if_pos hmarker] at h
    exact absurd h (source_explainGln_ne_scheme r value key)
  · cases hlisted : r.schemes.get? scheme with
    | some country =>
      have hanswer (v : String) : r.explain scheme v = ⟨country, .scheme (upper scheme)⟩ := by
        rw [explain, if_neg hmarker, hlisted]
      rw [hanswer] at h
      cases h
      exact ⟨rfl, fun other => (hanswer other).trans (hanswer value).symm⟩
    | none =>
      rw [explain, if_neg hmarker, hlisted] at h
      cases h

/-- A scheme stands for its upper-case form and for every other spelling of it. The key that is
reported of a listed scheme is such a form and has no other: looked up as a scheme, it gives the
same country and the same key, whatever the value. -/
theorem explain_upper (r : Resolver) (scheme value : String) :
    r.explain (upper scheme) value = r.explain scheme value ∧
    (∀ key, (r.explain scheme value).source = .scheme key →
      upper key = key ∧ ∀ other, r.explain key other = r.explain scheme value) ∧
    ∀ spelling, upper spelling = upper scheme →
      r.explain spelling value = r.explain scheme value := by
  refine ⟨?_, ?_, ?_⟩
  · exact explain_eq_of_upper_eq r (Text.upper_upper scheme) value
  · intro key hkey
    obtain ⟨rfl, hvalue⟩ := explain_of_source_scheme hkey
    refine ⟨Text.upper_upper scheme, fun other => ?_⟩
    calc r.explain (upper scheme) other
        = r.explain scheme other := explain_eq_of_upper_eq r (Text.upper_upper scheme) other
      _ = r.explain scheme value := hvalue other
  · intro spelling hspelling
    exact explain_eq_of_upper_eq r hspelling value

/-- The built-in tables have no country for a scheme with a character that none of their keys
has. -/
theorem resolve_builtin_of_mem_upper {scheme : String} {c : Char} (hc : c ∈ (upper scheme).toList)
    (hbeyond : 0x61 ≤ c.toNat) (value : String) : builtin.resolve scheme value = .unknown := by
  have hmarker : upper scheme ∉ ["EAN", "GLN", "0088"] := by
    intro hmem
    have hall : (["EAN", "GLN", "0088"].all fun key => key.toList.all fun c =>
        Nat.blt c.toNat 0x61) = true := by decide
    have hlt : c.toNat < 0x61 :=
      Nat.le_of_ble_eq_true (List.all_eq_true.1 (List.all_eq_true.1 hall _ hmem) c hc)
    omega
  have hkeys : ∀ e ∈ Scheme.registered ++ ("", .unknown) :: Builder.empty.schemes,
      upper scheme ≠ upper e.1 := by
    intro e he heq
    rcases List.mem_append.1 he with he | he
    · rw [heq, upper_of_mem_registered he] at hc
      have hlt := toNat_lt_of_mem_registered he hc
      omega
    · rw [heq, List.mem_singleton.1 he] at hc
      cases hc
  rw [resolve, ← Builder.layered_empty, Builder.explain_layered Builder.admissible_empty,
    Builder.reference, if_neg hmarker, CaselessTable.lastUnder?_eq_none hkeys]
  rfl

/-! ## Schemes in lower case -/

/-- A stray stays in the upper-case form of a scheme, and no built-in key has one. -/
theorem resolve_upper_of_stray {scheme : String} {c : Char} (hmem : c ∈ scheme.toList)
    (hc : c ∈ strays) (value : String) : builtin.resolve (upper scheme) value = .unknown := by
  have hall : (strays.all fun c => upperChars c == [c] && Nat.ble 0x61 c.toNat) = true := by
    decide
  have hstray := List.all_eq_true.1 hall c hc
  rw [Bool.and_eq_true, beq_iff_eq] at hstray
  refine resolve_builtin_of_mem_upper (c := c) ?_ (Nat.le_of_ble_eq_true hstray.2) value
  rw [Text.upper_upper, Text.toList_upper]
  exact List.mem_flatMap.2 ⟨c, hmem, by rw [hstray.1]; exact List.mem_singleton_self c⟩

/-- The small form of a stray other than the Kelvin sign and the sharp s is no part of a built-in
key either. -/
theorem resolve_lower_of_stray {scheme : String} {c : Char} (hmem : c ∈ scheme.toList)
    (hc : c ∈ strays) (hkelvin : c ≠ '\u212A') (hsharp : c ≠ '\u1E9E') (value : String) :
    builtin.resolve (lower scheme) value = .unknown := by
  have hall : (strays.all fun c => c == '\u212A' || c == '\u1E9E' ||
      ((lowerChars c).flatMap upperChars).any fun d => Nat.ble 0x61 d.toNat) = true := by
    decide
  have hstray := List.all_eq_true.1 hall c hc
  simp only [Bool.or_eq_true, beq_iff_eq, hkelvin, hsharp, false_or, List.any_eq_true] at hstray
  obtain ⟨d, hd, hbeyond⟩ := hstray
  refine resolve_builtin_of_mem_upper (c := d) ?_ (Nat.le_of_ble_eq_true hbeyond) value
  rw [Text.toList_upper_lower]
  exact List.mem_flatMap.2 ⟨c, hmem, hd⟩

/-- The built-in tables give the lower-case form of a scheme the country of its upper-case form
exactly if the scheme has no Kelvin sign and no capital sharp s, or is not known in lower case
either. In upper case a scheme with one of these is never known. -/
theorem resolve_lower_eq_iff (scheme value : String) :
    builtin.resolve (lower scheme) value = builtin.resolve (upper scheme) value ↔
      ('\u212A' ∉ scheme.toList ∧ '\u1E9E' ∉ scheme.toList) ∨
        builtin.resolve (lower scheme) value = .unknown := by
  by_cases hstray : ∃ c ∈ scheme.toList, c ∈ strays
  · obtain ⟨c, hmem, hc⟩ := hstray
    rw [resolve_upper_of_stray hmem hc]
    refine ⟨.inr, ?_⟩
    rintro (⟨hkelvin, hsharp⟩ | hunknown)
    · exact resolve_lower_of_stray hmem hc (fun h => hkelvin (h ▸ hmem))
        (fun h => hsharp (h ▸ hmem)) value
    · exact hunknown
  · have hnone : ∀ c ∈ scheme.toList, c ∉ strays := fun c hmem hc => hstray ⟨c, hmem, hc⟩
    have hform : upper (lower scheme) = upper (upper scheme) := by
      rw [Text.upper_lower hnone, Text.upper_upper]
    refine iff_of_true ?_ (.inl ⟨fun h => hnone _ h ?_, fun h => hnone _ h ?_⟩)
    · rw [resolve, resolve, explain_eq_of_upper_eq builtin hform]
    · simp [strays]
    · simp [strays]

/-- The letter case of a scheme may count: a Kelvin sign becomes a letter k in lower case and stays
in upper case. -/
theorem not_forall_resolve_lower :
    ¬ ∀ scheme value,
      builtin.resolve (lower scheme) value = builtin.resolve (upper scheme) value := by
  intro h
  have hspelling : upper (lower "D\u212A:CVR") = upper "DK:CVR" := by decide +kernel
  have hlisted : CaselessTable.lastUnder? "DK:CVR" Scheme.registered = some (.of 'D' 'K') := by
    have hself : upper "DK:CVR" = "DK:CVR" := by decide +kernel
    rw [lastUnder?_registered, hself]
    decide +kernel
  have hlower : builtin.resolve (lower "D\u212A:CVR") "1" = .of 'D' 'K' := by
    rw [resolve, explain_eq_of_upper_eq builtin hspelling, ← Builder.layered_empty,
      Builder.explain_layered Builder.admissible_empty, Builder.reference,
      if_neg (by decide +kernel), CaselessTable.lastUnder?_append, hlisted]
    decide +kernel
  have hupper : builtin.resolve (upper "D\u212A:CVR") "1" = .unknown :=
    resolve_upper_of_stray (c := '\u212A') (by decide) (by decide) "1"
  have hsame := h "D\u212A:CVR" "1"
  rw [hlower, hupper] at hsame
  cases hsame

end EndpointCountry.Resolver
