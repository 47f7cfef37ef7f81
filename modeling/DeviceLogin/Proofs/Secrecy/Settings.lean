import DeviceLogin.Settings

set_option autoImplicit false

namespace DeviceLogin

def Settings.withCode (settings : Settings) (code : String) : Settings := { settings with accessCode := .text code }

namespace Shape

def faults? {α : Type} : Checked α → Option (List Issue)
  | .ok _ => none
  | .error issues => some issues

theorem both_faults {α β : Type} (first other : Checked α) (second another : Checked β)
    (one : faults? first = faults? other) (two : faults? second = faults? another) :
    faults? (both first second) = faults? (both other another) := by
  cases first <;> cases other <;> cases second <;> cases another <;> simp_all [faults?, both]

theorem mapped_faults {α β : Type} (f : α → β) (checked : Checked α) : faults? (mapChecked f checked) = faults? checked := by
  cases checked <;> rfl

theorem step_faults {α : Type} (step : Step) (first other : Checked α) (same : faults? first = faults? other) :
    faults? (atStep step first) = faults? (atStep step other) := by
  cases first <;> cases other <;> simp_all [faults?, atStep]

theorem fields_faults (fields : List (String × Shape)) (members others : List (String × Json))
    (same : ∀ field ∈ fields, faults? (check field.2 (Ordered.get? members field.1)) =
      faults? (check field.2 (Ordered.get? others field.1))) :
    faults? (checkFields fields members) = faults? (checkFields fields others) := by
  induction fields with
  | nil => simp only [checkFields]
  | cons field rest ih =>
      obtain ⟨name, shape⟩ := field
      simp only [checkFields, mapped_faults]
      refine both_faults _ _ _ _ (step_faults _ _ _ (same (name, shape) (by simp))) (ih fun field member => ?_)
      exact same field (List.mem_cons_of_mem _ member)

end Shape

namespace Ordered

theorem get_beside {α : Type} (early late : Ordered α) (name key : String) (value other : α) (apart : name ≠ key) :
    Ordered.get? (early ++ (name, value) :: late) key = Ordered.get? (early ++ (name, other) :: late) key := by
  induction early with
  | nil => simp [Ordered.get?, apart]
  | cons first rest ih =>
      obtain ⟨known, held⟩ := first
      simp only [List.cons_append, Ordered.get?, ih]

theorem get_here {α : Type} (early late : Ordered α) (name : String) (value : α) :
    Ordered.get? (early ++ (name, value) :: late) name = (Ordered.get? early name).or (some value) := by
  induction early with
  | nil => simp [Ordered.get?]
  | cons first rest ih =>
      obtain ⟨known, held⟩ := first
      by_cases same : known = name <;> simp [Ordered.get?, same, ih]

end Ordered

namespace Settings

theorem json_around (settings : Settings) :
    ∃ early late, ∀ code, (settings.withCode code).toJson = .obj (early ++ ("accessCode", .str code) :: late) := by
  let render : List (String × Setting) → List (String × Json) :=
    List.filterMap fun member => member.2.toJson?.map fun value => (member.1, value)
  let early := [("deviceAddress", settings.deviceAddress), ("deviceMacAddress", settings.deviceMacAddress),
    ("discoveredMacAddress", settings.discoveredMacAddress)]
  let late := [("irccUrl", settings.irccUrl), ("commandsMapFile", settings.commandsMapFile),
    ("transformFolder", settings.transformFolder), ("cookieFilePath", settings.cookieFilePath),
    ("clientId", settings.clientId)]
  -- Members that are absent are left out, and that is decided for each of them alone.
  refine ⟨render early, render late, fun code => ?_⟩
  change Json.obj (render (early ++ ("accessCode", .text code) :: late)) = _
  rw [show render (early ++ ("accessCode", .text code) :: late) = _ from List.filterMap_append]
  rfl

theorem fields_known : ∃ fields, Shape.settings = .object fields false ∧
    ∀ field ∈ fields, field.1 = "accessCode" → field.2 = Shape.maybeText :=
  ⟨_, rfl, by simp⟩

theorem errors_same (settings : Settings) (code other : String) :
    (settings.withCode code).errors = (settings.withCode other).errors := by
  obtain ⟨early, late, around⟩ := json_around settings
  obtain ⟨fields, shape, plain⟩ := fields_known
  have checked : Shape.faults? (Shape.checkFields fields (early ++ ("accessCode", Json.str code) :: late)) =
      Shape.faults? (Shape.checkFields fields (early ++ ("accessCode", Json.str other) :: late)) := by
    refine Shape.fields_faults _ _ _ fun field member => ?_
    by_cases here : field.1 = "accessCode"
    · rw [here, Ordered.get_here, Ordered.get_here, plain field member here]
      cases Ordered.get? early "accessCode" with
      | none => simp [Shape.maybeText, Shape.plain, Shape.check, Shape.faults?]
      | some held => rfl
    · rw [Ordered.get_beside _ _ _ _ _ (.str other) (Ne.symm here)]
  have same : Shape.faults? (Shape.check Shape.settings (some (settings.withCode code).toJson)) =
      Shape.faults? (Shape.check Shape.settings (some (settings.withCode other).toJson)) := by
    rw [around, around, shape, Shape.check, Shape.check, Shape.mapped_faults, Shape.mapped_faults]
    exact checked
  have errors (settings : Settings) : settings.errors =
      match Shape.faults? (Shape.check Shape.settings (some settings.toJson)) with
      | none => []
      | some issues => [Shape.report issues] := by
    rw [Settings.errors]
    cases Shape.check Shape.settings (some settings.toJson) <;> rfl
  rw [errors, errors, same]

theorem warnings_same (settings : Settings) (code other : String) (filled : Text.isBlank code = false)
    (given : Text.isBlank other = false) : (settings.withCode code).warnings = (settings.withCode other).warnings := by
  have present (code : String) (filled : Text.isBlank code = false) :
      (settings.withCode code).accessCode.present?.isNone = false := by
    simp [withCode, Setting.present?, Setting.value?, Text.present?, filled]
  simp only [warnings, present code filled, present other given]
  rfl

end Settings

end DeviceLogin
