import EndpointCountry.Config.Load
import EndpointCountry.Proofs.Config.Checks

/-!
# Faults of settings

Whatever is wrong with settings that were read as a text is a fault of the configuration: the text
is not in the notation, a value does not pass its check, or the tables refuse an entry. All of these
are equally severe.

* `exitStatus_ne_zero`, `exitStatus_of_category` — the statuses that faults lead to.
* `OfSettings`, `OfSettings.bind`, `OfSettings.forM` — steps that stop only with such faults.
* `Batch.ofSettings_check` — the check of all settings is one.
* `loadBytes_eq_error_iff` — how reading settings fails.
-/

namespace EndpointCountry

namespace Fault

/-- No fault looks like success. -/
theorem exitStatus_ne_zero (fault : Fault) : fault.exitStatus ≠ 0 := by
  show fault.category.severity.exitStatus ≠ 0
  cases fault.category with
  | input => decide
  | configuration => decide
  | io => decide
  | processing => decide

theorem exitStatus_of_category {fault : Fault} {category : Category}
    (h : fault.category = category) : fault.exitStatus = category.severity.exitStatus := by
  rw [exitStatus, severity, h]

end Fault

namespace Config

/-! ## Steps that blame the settings -/

variable {α β : Type}

/-- A step that stops, if it does, with a fault of the configuration. -/
def OfSettings (x : Except Fault α) : Prop :=
  ∀ fault, x = .error fault → fault.category = .configuration

namespace OfSettings

theorem ok (a : α) : OfSettings (.ok a) := by
  intro fault h
  cases h

theorem error {fault : Fault} (h : fault.category = .configuration) :
    OfSettings (.error fault : Except Fault α) := by
  rintro _ ⟨⟩
  exact h

theorem bind {x : Except Fault α} (hx : OfSettings x) {f : α → Except Fault β}
    (hf : ∀ a, OfSettings (f a)) : OfSettings (x >>= f) := by
  intro fault h
  rcases bind_eq_error_iff.1 h with h | ⟨a, -, h⟩
  · exact hx fault h
  · exact hf a fault h

theorem forM {f : α → Except Fault Unit} (hf : ∀ a, OfSettings (f a)) (entries : List α) :
    OfSettings (entries.forM f) := by
  intro fault h
  obtain ⟨a, -, ha⟩ := exists_of_forM_eq_error h
  exact hf a fault ha

theorem ite {p : Prop} [Decidable p] {x y : Except Fault α} (hx : OfSettings x)
    (hy : OfSettings y) : OfSettings (if p then x else y) := by
  by_cases h : p
  · rwa [if_pos h]
  · rwa [if_neg h]

end OfSettings

/-! ## Checks -/

theorem Check.ofSettings_path (field value : String) : OfSettings (path field value) := by
  unfold path
  exact .ite (.error rfl) (.ite (.error rfl) (.ok ()))

theorem Check.ofSettings_notBlank (field value : String) : OfSettings (notBlank field value) := by
  unfold notBlank
  exact .ite (.error rfl) (.ok ())

theorem Check.ofSettings_between (field : String) (value low high : Int) :
    OfSettings (between field value low high) := by
  unfold between
  exact .ite (.error rfl) (.ok ())

namespace Resolver

theorem ofSettings_checkCountry (field value : String) : OfSettings (checkCountry field value) := by
  unfold checkCountry
  cases Country.parse? value with
  | some country => exact .ok ()
  | none => exact .error rfl

theorem ofSettings_check (c : Resolver) : OfSettings c.check := by
  have hoverride : ∀ e, OfSettings (checkOverride e) := fun e =>
    (Check.ofSettings_notBlank _ e.value).bind fun _ => ofSettings_checkCountry _ e.country
  have hscheme : ∀ e, OfSettings (checkScheme e) := fun e =>
    (Check.ofSettings_notBlank _ e.key).bind fun _ => ofSettings_checkCountry _ e.country
  have hrange : ∀ e, OfSettings (checkRange e) := by
    intro e
    refine (Check.ofSettings_between _ _ _ _).bind fun _ => ?_
    exact .ite (.error rfl) (ofSettings_checkCountry _ e.country)
  exact (OfSettings.forM hoverride _).bind fun _ =>
    (OfSettings.forM hscheme _).bind fun _ => OfSettings.forM hrange _

end Resolver

namespace Input

theorem ofSettings_endpointColumns (i : Input) : OfSettings i.endpointColumns := by
  unfold endpointColumns
  split
  · exact .ok _
  · exact .ok _
  · exact .error rfl
  · exact .error rfl

theorem ofSettings_delimiterByte (i : Input) : OfSettings i.delimiterByte := by
  unfold delimiterByte
  split
  · exact .ok _
  · refine .ite (.ok _) ?_
    split
    · exact .ok _
    · exact .error rfl

end Input

namespace Batch

theorem ofSettings_check (c : Batch) : OfSettings c.check := by
  unfold check
  refine (Check.ofSettings_notBlank _ _).bind fun _ => ?_
  refine (Check.ofSettings_path _ _).bind fun _ => ?_
  refine (Check.ofSettings_path _ _).bind fun _ => ?_
  refine (Check.ofSettings_path _ _).bind fun _ => ?_
  refine (Check.ofSettings_notBlank _ _).bind fun _ => ?_
  refine c.input.ofSettings_delimiterByte.bind fun _ => ?_
  exact c.input.ofSettings_endpointColumns.bind fun _ => c.resolver.ofSettings_check

theorem resolver_check_of_check {c : Batch} (h : c.check = .ok ()) : c.resolver.check = .ok () := by
  simp only [check, bind_eq_ok_iff] at h
  obtain ⟨_, -, _, -, _, -, _, -, _, -, _, -, _, -, hresolver⟩ := h
  exact hresolver

/-- Settings that pass their check and make no resolver are at fault themselves. -/
theorem category_of_toResolver_eq_error {c : Batch} (h : c.check = .ok ()) {fault : Fault}
    (hfault : c.resolver.toResolver = .error fault) : fault.category = .configuration := by
  have hchecked := Resolver.check_eq_ok_iff.1 (resolver_check_of_check h)
  obtain ⟨field, message, rfl⟩ := Resolver.toResolver_eq_error_setting hchecked hfault
  rfl

end Batch

/-! ## Reading settings -/

theorem ofSettings_load (read : Datum → Option α) (env : Environment) (text : String) :
    OfSettings (load read env text) := by
  unfold load
  split
  · exact .ok _
  · exact .error rfl

/-- The content of a file gives no settings because it is no text, or because the text gives
none. -/
theorem loadBytes_eq_error_iff {read : Datum → Option α} {env : Environment} {content : ByteArray}
    {fault : Fault} :
    loadBytes read env content = .error fault ↔
      (String.fromUTF8? content = none ∧ fault = .storage .notText) ∨
        ∃ text, String.fromUTF8? content = some text ∧ load read env text = .error fault := by
  unfold loadBytes
  cases String.fromUTF8? content with
  | none => simp [eq_comm]
  | some text => simp

end Config

end EndpointCountry
