import Mathlib
import EndpointCountry.Endpoint

/-!
# Joining and parsing endpoints

Parsing takes apart what joining has put together. A text parses when there is something on either
side of its first colon; the endpoint has that text as its joined form and no other text parses as
it. An endpoint comes back from its joined form when both its parts are there and its scheme holds
no colon; colons in the value do no harm.

* `Separable`, `parse_eq_ok_iff` — the endpoints that texts parse as, each from its joined form.
* `Divided`, `exists_parse_eq_ok_iff`, `parse_eq_error_iff` — the texts that parse.
* `Mapper.resolveEndpoint_ofResolve_eq_ok_iff`, `Mapper.resolveEndpoint_ofResolve_eq_error_iff` — the
  country of an endpoint in its joined form.
* `parse_inverts_text` — all of this about parsing.
-/

namespace EndpointCountry

namespace Endpoint

/-- An endpoint that can be told from its joined form: both parts are there, and the scheme holds
no colon. -/
structure Separable (e : Endpoint) : Prop where
  scheme_ne : e.scheme ≠ ""
  colon_notMem : ':' ∉ e.scheme.toList
  value_ne : e.value ≠ ""

/-- A text with something on either side of its first colon. -/
def Divided (t : String) : Prop :=
  ∃ before after, t.toList = before ++ ':' :: after ∧ ':' ∉ before ∧ before ≠ [] ∧ after ≠ []

theorem toList_text (e : Endpoint) : e.text.toList = e.scheme.toList ++ ':' :: e.value.toList := by
  simp [text]

/-! ## The texts that parse -/

theorem parse_eq_ok_iff {t : String} {e : Endpoint} :
    parse t = .ok e ↔ e.Separable ∧ e.text = t := by
  constructor
  · intro h
    unfold parse at h
    split at h
    · cases h
    split at h
    · rename_i before after hsplit
      split at h
      · rename_i hparts
        cases h
        obtain ⟨htext, hcolon⟩ := splitColon?_eq_some_iff.1 hsplit
        refine ⟨⟨by simpa using hparts.1, by simpa using hcolon, by simpa using hparts.2⟩, ?_⟩
        rw [← String.toList_inj, toList_text, String.toList_ofList, String.toList_ofList, htext]
      · cases h
    · cases h
  · rintro ⟨hsep, rfl⟩
    have hne : e.text ≠ "" := by
      rw [ne_eq, ← String.toList_inj, toList_text]
      simp
    have hsplit : splitColon? e.text.toList = some (e.scheme.toList, e.value.toList) :=
      splitColon?_eq_some_iff.2 ⟨toList_text e, hsep.colon_notMem⟩
    have hscheme : e.scheme.toList ≠ [] := by simpa using hsep.scheme_ne
    have hvalue : e.value.toList ≠ [] := by simpa using hsep.value_ne
    rw [parse, if_neg hne, hsplit]
    simp only [if_pos (And.intro hscheme hvalue), String.ofList_toList]

theorem exists_parse_eq_ok_iff {t : String} : (∃ e, parse t = .ok e) ↔ Divided t := by
  constructor
  · rintro ⟨e, h⟩
    obtain ⟨hsep, rfl⟩ := parse_eq_ok_iff.1 h
    exact ⟨e.scheme.toList, e.value.toList, toList_text e, hsep.colon_notMem,
      by simpa using hsep.scheme_ne, by simpa using hsep.value_ne⟩
  · rintro ⟨before, after, htext, hcolon, hbefore, hafter⟩
    refine ⟨⟨String.ofList before, String.ofList after⟩, parse_eq_ok_iff.2 ⟨⟨?_, ?_, ?_⟩, ?_⟩⟩
    · simpa using hbefore
    · simpa using hcolon
    · simpa using hafter
    · rw [← String.toList_inj, toList_text, String.toList_ofList, String.toList_ofList, htext]

/-- A text that does not parse is empty, or malformed as it stands. -/
theorem parse_eq_error_iff {t : String} {flaw : Flaw} :
    parse t = .error flaw ↔ ¬ Divided t ∧ flaw = if t = "" then .empty else .malformed t := by
  rw [← exists_parse_eq_ok_iff]
  unfold parse
  split
  · simp [eq_comm]
  · split
    · split <;> simp [eq_comm]
    · simp [eq_comm]

end Endpoint

/-! ## Countries of joined endpoints -/

namespace Mapper

variable {resolve : String → String → Country} {text : String}

theorem resolveEndpoint_ofResolve_eq_ok_iff {country : Country} :
    (ofResolve resolve).resolveEndpoint text = .ok country ↔
      ∃ e, Endpoint.parse text = .ok e ∧ resolve e.scheme e.value = country := by
  cases hparse : Endpoint.parse text with
  | ok endpoint => simp [ofResolve, hparse]
  | error flaw => simp [ofResolve, hparse]

theorem resolveEndpoint_ofResolve_eq_error_iff {fault : Fault} :
    (ofResolve resolve).resolveEndpoint text = .error fault ↔
      ∃ flaw, Endpoint.parse text = .error flaw ∧ flaw.toFault = fault := by
  cases hparse : Endpoint.parse text with
  | ok endpoint => simp [ofResolve, hparse]
  | error flaw => simp [ofResolve, hparse]

end Mapper

namespace Endpoint

/-- Parsing is the inverse of joining: a text parses exactly when there is something on either side
of its first colon, and then as an endpoint whose joined form it is; any other text is a fault of
the argument. An endpoint with two parts and no colon in its scheme comes back from its joined form,
so that its country is the one of its parts, and no two texts parse as the same endpoint. -/
theorem parse_inverts_text :
    (∀ t, (∃ e, parse t = .ok e) ↔ Divided t) ∧
    (∀ t e, parse t = .ok e → ':' ∉ e.scheme.toList ∧ e.text = t) ∧
    (∀ t, ¬ Divided t → ∃ flaw, parse t = .error flaw ∧
      flaw.toFault = .argument (if t = "" then "endpoint must not be empty"
        else s!"invalid endpoint format '{t}', expected 'type:value'")) ∧
    (∀ scheme value, scheme ≠ "" → ':' ∉ scheme.toList → value ≠ "" →
      parse (text ⟨scheme, value⟩) = .ok ⟨scheme, value⟩ ∧
      ∀ resolve, (Mapper.ofResolve resolve).resolveEndpoint (scheme ++ ":" ++ value) =
        .ok (resolve scheme value)) ∧
    (∀ t t' e, parse t = .ok e → parse t' = .ok e → t = t') := by
  refine ⟨fun t => exists_parse_eq_ok_iff, ?_, ?_, ?_, ?_⟩
  · intro t e h
    obtain ⟨hsep, htext⟩ := parse_eq_ok_iff.1 h
    exact ⟨hsep.colon_notMem, htext⟩
  · intro t hundivided
    refine ⟨_, parse_eq_error_iff.2 ⟨hundivided, rfl⟩, ?_⟩
    split <;> rfl
  · intro scheme value hscheme hcolon hvalue
    have hparse : parse (text ⟨scheme, value⟩) = .ok ⟨scheme, value⟩ :=
      parse_eq_ok_iff.2 ⟨⟨hscheme, hcolon, hvalue⟩, rfl⟩
    exact ⟨hparse, fun _ => Mapper.resolveEndpoint_ofResolve_eq_ok_iff.2 ⟨_, hparse, rfl⟩⟩
  · intro t t' e h h'
    exact (parse_eq_ok_iff.1 h).2.symm.trans (parse_eq_ok_iff.1 h').2

/-- A value may hold colons, also as its first and its last character; a text of colons alone has
nothing before the first one. -/
theorem parse_of_many_colons :
    (¬ Divided "::" ∧ ∃ flaw, parse "::" = .error flaw ∧
      flaw.toFault = .argument "invalid endpoint format '::', expected 'type:value'") ∧
    parse "a::b:" = .ok ⟨"a", ":b:"⟩ ∧ text ⟨"a", ":b:"⟩ = "a::b:" ∧
    (∀ resolve, (Mapper.ofResolve resolve).resolveEndpoint "a::b:" = .ok (resolve "a" ":b:")) ∧
    ∀ t, parse t = .ok ⟨"a", ":b:"⟩ → t = "a::b:" := by
  obtain ⟨hok, hback, hflaw, hforth, hunique⟩ := parse_inverts_text
  have hundivided : ¬ Divided "::" := by
    rw [← hok]
    rintro ⟨e, he⟩
    cases he
  have hjoined : text ⟨"a", ":b:"⟩ = "a::b:" := by decide
  obtain ⟨hparse, hresolve⟩ := hforth "a" ":b:" (by decide) (by decide) (by decide)
  rw [hjoined] at hparse
  exact ⟨⟨hundivided, hflaw "::" hundivided⟩, hparse, (hback _ _ hparse).2, hresolve,
    fun t ht => hunique t _ _ ht hparse⟩

end Endpoint

end EndpointCountry
