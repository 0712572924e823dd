import EndpointCountry.Country

/-!
# Endpoints

A participant is addressed by a scheme and a value, joined by a colon: `0088:5790000000001`. A
mapper gives a country to every scheme and value, and to endpoints in their joined form.
-/

namespace EndpointCountry

/-- The address of a participant. -/
structure Endpoint where
  scheme : String
  value : String
  deriving DecidableEq

namespace Endpoint

/-- What is wrong with a text that is no endpoint. -/
inductive Flaw where
  /-- There is no text at all. -/
  | absent
  /-- The text is empty. -/
  | empty
  /-- The text has no colon, or nothing before or after its first one. -/
  | malformed (text : String)
  deriving DecidableEq

/-- The wording of a flaw. -/
def Flaw.message : Flaw → String
  | .absent => "endpoint must not be null"
  | .empty => "endpoint must not be empty"
  | .malformed text => s!"invalid endpoint format '{text}', expected 'type:value'"

/-- A flaw as a fault. -/
def Flaw.toFault (flaw : Flaw) : Fault :=
  .argument flaw.message

/-- The joined form of an endpoint. -/
def text (e : Endpoint) : String :=
  e.scheme ++ ":" ++ e.value

/-- The parts of a text before and after its first colon. -/
def splitColon? : List Char → Option (List Char × List Char)
  | [] => none
  | c :: cs =>
    if c = ':' then some ([], cs) else (splitColon? cs).map fun (before, after) => (c :: before, after)

/-- A text splits at its first colon: what comes before holds none. -/
theorem splitColon?_eq_some_iff {cs scheme value : List Char} :
    splitColon? cs = some (scheme, value) ↔ cs = scheme ++ ':' :: value ∧ ':' ∉ scheme := by
  induction cs generalizing scheme with
  | nil => simp [splitColon?]
  | cons c cs ih =>
    by_cases hc : c = ':'
    · subst hc
      cases scheme with
      | nil => simp [splitColon?]
      | cons a as => simp +contextual [splitColon?, eq_comm]
    · cases scheme with
      | nil => simp [splitColon?, hc]
      | cons a as =>
        simp only [splitColon?, hc, if_false, Option.map_eq_some_iff, Prod.exists, Prod.mk.injEq,
          List.cons.injEq, List.cons_append, List.mem_cons, not_or]
        constructor
        · rintro ⟨b, v, h, ⟨rfl, rfl⟩, rfl⟩
          obtain ⟨rfl, hb⟩ := ih.1 h
          exact ⟨⟨rfl, rfl⟩, fun h => hc h.symm, hb⟩
        · rintro ⟨⟨rfl, rfl⟩, -, ha⟩
          exact ⟨as, value, ih.2 ⟨rfl, ha⟩, ⟨rfl, rfl⟩, rfl⟩

/-- The endpoint that a text joins: its first colon parts scheme and value, and neither is empty. -/
def parse (s : String) : Except Flaw Endpoint :=
  if s = "" then .error .empty
  else
    match splitColon? s.toList with
    | some (scheme, value) =>
      if scheme ≠ [] ∧ value ≠ [] then .ok ⟨String.ofList scheme, String.ofList value⟩
      else .error (.malformed s)
    | none => .error (.malformed s)

end Endpoint

/-! ## Mappers -/

/-- Gives a country to every scheme and value, and so to endpoints in their joined form. A mapper may
have ways of its own for the latter. -/
structure Mapper where
  resolve : String → String → Country
  /-- The country of an endpoint in its joined form; only a malformed one has none. -/
  resolveEndpoint : String → Except Fault Country := fun text =>
    match Endpoint.parse text with
    | .ok endpoint => .ok (resolve endpoint.scheme endpoint.value)
    | .error flaw => .error flaw.toFault
  /-- The country of an endpoint that may be absent. -/
  resolveOptional : Option String → Except Fault Country := fun
    | some text => resolveEndpoint text
    | none => .error Endpoint.Flaw.absent.toFault

/-- The mapper without ways of its own. -/
def Mapper.ofResolve (resolve : String → String → Country) : Mapper :=
  { resolve }

end EndpointCountry
