import DeviceLogin.Json.Access
import DeviceLogin.Proofs.Json.Searching
import DeviceLogin.Proofs.Provisioning.Interfaces

set_option autoImplicit false

namespace DeviceLogin

namespace Shape

def AsksTexts (fields : List (String × Shape)) : Prop :=
  (fields.map (·.1)).Nodup ∧ ∀ field ∈ fields, (field.2 = plain ∨ field.2 = maybeText) ∧ dropped field.1 = false

theorem plain_same (value found : Option Json) (passed : check plain value = .ok found) : found = value := by
  rcases value with _ | value
  · exact nomatch passed
  · cases value <;> cases passed
    rfl

theorem passes_plain (value : Option Json) : passes plain value = (value.bind Json.text?).isSome := by
  rcases value with _ | value
  · rfl
  · cases value <;> rfl

theorem passes_maybe_text (value : Option Json) : passes maybeText value = Provisioning.isText value := by
  rcases value with _ | value
  · rfl
  · cases value <;> rfl

theorem maybe_text_same (value found : Option Json) (passed : check maybeText value = .ok found) : found = value := by
  rcases value with _ | value
  · cases passed
    rfl
  · exact plain_same (some value) found passed

theorem taken_texts (fields : List (String × Shape)) (texts : AsksTexts fields) (keepsOthers : Bool) (item : Json)
    (good : passes (.object fields keepsOthers) (some item) = true) :
    ∃ found, accept? (.object fields keepsOthers) (some item) = some (.obj found) ∧
      ∀ name ∈ fields.map (·.1), Ordered.get? found name = item.member? name := by
  cases item with
  | obj members =>
      rw [passes_object, List.all_eq_true] at good
      obtain ⟨found, accepted, held⟩ := accept_object fields members texts.1
        (fun field listed => (passes_iff _ _).mp (good field listed)) keepsOthers
      refine ⟨found, accepted, fun name known => ?_⟩
      obtain ⟨field, listed, rfl⟩ := List.mem_map.mp known
      obtain ⟨text, kept⟩ := texts.2 field listed
      have checked := held field listed kept
      rcases text with plain | maybe
      · exact plain_same _ _ (plain ▸ checked)
      · exact maybe_text_same _ _ (maybe ▸ checked)
  | _ => exact nomatch good

end Shape

namespace Ircc

theorem map_m_all {α β : Type} (f : α → Option β) (good : α → Bool) (g : α → β)
    (each : ∀ item, f item = if good item then some (g item) else none) (items : List α) :
    items.mapM f = if items.all good then some (items.map g) else none := by
  induction items with
  | nil => rfl
  | cons item rest ih =>
      rw [List.mapM_cons, each, ih]
      cases here : good item <;> cases all : rest.all good <;> simp [here, all]

section Objects

variable {β : Type} {fields : List (String × Shape)} {keepsOthers : Bool} {read : Json → β} {f : Json → Option β}
  (texts : Shape.AsksTexts fields)
  (same : ∀ item other, (∀ name ∈ fields.map (·.1), item.member? name = other.member? name) → read item = read other)
  (each : ∀ item, f item = if Shape.passes (.object fields keepsOthers) (some item) then some (read item) else none)

include texts same each

theorem object_read (item : Json) :
    (Shape.accept? (.object fields keepsOthers) (some item)).map (fun found => (asList found).map read) = [item].mapM f := by
  rw [List.mapM_cons, each]
  cases good : Shape.passes (.object fields keepsOthers) (some item) with
  | true =>
      obtain ⟨found, accepted, held⟩ := Shape.taken_texts fields texts keepsOthers item good
      have equal : read (.obj found) = read item := same _ _ held
      rw [accepted, ← equal]
      rfl
  | false =>
      obtain ⟨issues, failed⟩ := (Shape.passes_not_iff _ _).mp good
      rw [Shape.accept?, failed]
      rfl

theorem objects_read (value : Option Json) :
    (Shape.accept? (.oneOf [.object fields keepsOthers, .list (.object fields keepsOthers)]) value).map
      (fun found => (asList found).map read) = value.bind fun found => (asList found).mapM f := by
  rw [Shape.accept_one_or_list]
  rcases value with _ | value
  · rfl
  cases value with
  | arr items =>
      have taken (item : Json) (good : Shape.passes (.object fields keepsOthers) (some item) = true) :
          read (Shape.taken (.object fields keepsOthers) item) = read item := by
        obtain ⟨found, accepted, held⟩ := Shape.taken_texts fields texts keepsOthers item good
        rw [Shape.taken, accepted]
        exact same _ _ held
      change (Shape.accept? (.list (.object fields keepsOthers)) (some (.arr items))).map _ = items.mapM f
      rw [Shape.accept_list, map_m_all f _ read each]
      cases all : items.all fun item => Shape.passes (.object fields keepsOthers) (some item) with
      | false => rfl
      | true =>
          have kept : (items.map (Shape.taken (.object fields keepsOthers))).map read = items.map read := by
            rw [List.map_map]
            exact List.map_congr_left fun item member => taken item (List.all_eq_true.mp all item member)
          exact congrArg some kept
  | _ => exact object_read texts same each _

end Objects

section Reading

open Provisioning (isText)

def commandOf? (item : Json) : Option RemoteCommand := do
  let name ← item.textAt? "name"
  let value ← item.textAt? "value"
  if isText (item.member? "type") then some ⟨name, value⟩ else none

def commandsUnder (list : Json) : List RemoteCommand :=
  ((list.firstMember? "command").bind fun found => (asList found).mapM commandOf?).getD []

def actionOf? (item : Json) : Option (String × String) := do
  let name ← item.textAt? "name"
  if isText (item.member? "url") then some (name, item.textAt "url") else none

def actionsUnder? (actions : Json) : Option (List (String × String)) :=
  (actions.firstMember? "action").bind fun found => (asList found).mapM actionOf?

def commandsAddress? (actions : Json) : Option String := do
  let listed ← actionsUnder? actions
  let action ← listed.find? (·.1 == listAction)
  if action.2 = "" then none else some action.2

def actionsAddress? (description : Json) : Option String := do
  let found ← description.firstMember? actionListElement
  let address ← found.elementText?
  if address = "" then none else some address

def commandFields : List (String × Shape) := [("name", Shape.plain), ("type", Shape.maybeText), ("value", Shape.plain)]

def actionFields : List (String × Shape) := [("name", Shape.plain), ("url", Shape.maybeText)]

theorem command_read (item : Json) :
    commandOf? item = if Shape.passes (.object commandFields false) (some item) then
      some ⟨textMember item "name", textMember item "value"⟩ else none := by
  cases item with
  | obj members =>
      rw [Shape.passes_object]
      simp only [commandFields, List.all_cons, List.all_nil, Shape.passes_plain, Shape.passes_maybe_text, commandOf?,
        textMember, Json.textAt?, Json.member?]
      by_cases typed : isText (Ordered.get? members "type") = true <;>
        cases (Ordered.get? members "name").bind Json.text? <;>
        cases (Ordered.get? members "value").bind Json.text? <;> simp [typed]
  | _ => rfl

theorem action_read (item : Json) :
    actionOf? item = if Shape.passes (.object actionFields true) (some item) then
      some (textMember item "name", textMember item "url") else none := by
  cases item with
  | obj members =>
      rw [Shape.passes_object]
      simp only [actionFields, List.all_cons, List.all_nil, Shape.passes_plain, Shape.passes_maybe_text, actionOf?,
        textMember, Json.textAt, Json.textAt?, Json.member?]
      by_cases placed : isText (Ordered.get? members "url") = true <;>
        cases (Ordered.get? members "name").bind Json.text? <;> simp [placed]
  | _ => rfl

theorem member_text (item other : Json) (name : String) (same : item.member? name = other.member? name) :
    textMember item name = textMember other name := by
  rw [textMember, textMember, same]

theorem command_texts : Shape.AsksTexts commandFields := ⟨by decide, by simp [commandFields, Shape.dropped]⟩

theorem action_texts : Shape.AsksTexts actionFields := ⟨by decide, by simp [actionFields, Shape.dropped]⟩

theorem commands_found (list : Json) :
    commands? list = (list.firstMember? "command").bind fun found => (asList found).mapM commandOf? := by
  have same (item other : Json) (held : ∀ name ∈ commandFields.map (·.1), item.member? name = other.member? name) :
      (⟨textMember item "name", textMember item "value"⟩ : RemoteCommand) =
        ⟨textMember other "name", textMember other "value"⟩ := by
    rw [member_text item other "name" (held "name" (by decide)), member_text item other "value" (held "value" (by decide))]
  rw [commands?, Json.find_value_first "command" rfl]
  exact objects_read command_texts same command_read _

theorem commands_read (logger : Logger) (list : Json) (world : World) :
    ((readCommands logger list).run world).1 = commandsUnder list := by
  have listed : commandsUnder list = (commands? list).getD [] := by rw [commands_found, commandsUnder]
  rw [readCommands, listed]
  cases tree : isTree list with
  | false =>
      have nothing : list.firstMember? "command" = none := by cases list <;> first | rfl | exact nomatch tree
      rw [commands_found, nothing]
      rfl
  | true => cases commands? list <;> rfl

theorem actions_found (actions : Json) :
    (Shape.accept? Shape.listedActions (actions.findValue? "action")).map (fun found =>
      (asList found).map fun item => (textMember item "name", textMember item "url")) = actionsUnder? actions := by
  have same (item other : Json) (held : ∀ name ∈ actionFields.map (·.1), item.member? name = other.member? name) :
      (textMember item "name", textMember item "url") = (textMember other "name", textMember other "url") := by
    rw [member_text item other "name" (held "name" (by decide)), member_text item other "url" (held "url" (by decide))]
  rw [Json.find_value_first "action" rfl]
  exact objects_read action_texts same action_read _

theorem address_found (actions : Json) (listUrl : String) :
    match commandsAddress? actions with
    | some address => actionUrl actions listUrl listAction = .ok address
    | none => ∃ message, actionUrl actions listUrl listAction = .error (.error message) := by
  rw [commandsAddress?, ← actions_found, actionUrl]
  cases Shape.accept? Shape.listedActions (actions.findValue? "action") with
  | none => exact ⟨_, rfl⟩
  | some found =>
      simp only [Option.map_some, List.find?_map, Function.comp_def, Option.bind_eq_bind, Option.bind_some]
      cases (asList found).find? fun item => textMember item "name" == listAction with
      | none => exact ⟨_, rfl⟩
      | some action =>
          simp only [Option.map_some, Option.bind_some, Option.getD_some, String.isEmpty_iff]
          by_cases nowhere : textMember action "url" = "" <;> simp [nowhere]

theorem actions_address (description : Json) :
    let told := ((description.findValue? actionListElement).bind Json.elementText?).getD ""
    match actionsAddress? description with
    | some address => told = address ∧ address.isEmpty = false
    | none => told.isEmpty = true := by
  intro told
  have text : actionsAddress? description = ((description.findValue? actionListElement).bind Json.elementText?).bind
      fun address => if address = "" then none else some address := by
    rw [Json.find_value_first actionListElement rfl, Option.bind_assoc]
    rfl
  rw [text]
  cases found : (description.findValue? actionListElement).bind Json.elementText? with
  | none => simp [told, found]
  | some address => by_cases empty : address = "" <;> simp [told, found, empty]

end Reading

end Ircc

end DeviceLogin
