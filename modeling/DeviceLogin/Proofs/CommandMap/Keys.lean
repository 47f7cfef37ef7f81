import DeviceLogin.CommandMap.Writer
import DeviceLogin.Proofs.MemberOrder
import DeviceLogin.Proofs.Shapes

set_option autoImplicit false

namespace DeviceLogin

namespace CommandMap

def isField : Option Json → Bool
  | none | some .null | some (.str _) => true
  | _ => false

def isKey : Json → Bool
  | .obj members => isField (Ordered.get? members "name") && isField (Ordered.get? members "value")
  | _ => false

def keysIn : Option Json → List RemoteCommand
  | some (.arr items) => if items.all isKey then items.filterMap command? else []
  | _ => []

theorem check_field (value : Option Json) (good : isField value = true) :
    Shape.check (.optional (.nullable Shape.plain)) value = .ok value := by
  rcases value with _ | value
  · rfl
  · cases value <;> first | rfl | cases good

theorem check_bad_field (value : Option Json) (bad : isField value = false) :
    ∃ issues, Shape.check (.optional (.nullable Shape.plain)) value = .error issues := by
  rcases value with _ | value
  · cases bad
  · cases value <;> first | exact ⟨_, rfl⟩ | cases bad

def fieldOf (members : List (String × Json)) (name : String) : Ordered Json :=
  ((Ordered.get? members name).map fun value => (name, value)).toList

def checkedMembers (members : List (String × Json)) : List (String × Json) :=
  Shape.keepMembers ((fieldOf members "name" ++ fieldOf members "value") ++
    members.filter fun member => !(["name", "value"].contains member.1))

theorem check_key (members : List (String × Json)) (key : isKey (.obj members) = true) :
    Shape.check Shape.remoteKey (some (.obj members)) = .ok (some (Json.object (checkedMembers members))) := by
  obtain ⟨name, value⟩ := Bool.and_eq_true_iff.mp key
  have fields : Shape.checkFields [("name", .optional (.nullable Shape.plain)), ("value", .optional (.nullable Shape.plain))]
      members = .ok (fieldOf members "name" ++ fieldOf members "value") := by
    simp only [Shape.checkFields, check_field _ name, check_field _ value, Shape.atStep, Shape.both, Shape.mapChecked,
      fieldOf]
    cases Ordered.get? members "name" <;> cases Ordered.get? members "value" <;> rfl
  rw [Shape.remoteKey, Shape.check, fields]
  rfl

theorem check_no_key (item : Json) (other : isKey item = false) :
    ∃ issues, Shape.check Shape.remoteKey (some item) = .error issues := by
  cases item with
  | obj members =>
      let shape : Shape := .optional (.nullable Shape.plain)
      have fields : ∃ issues, Shape.checkFields [("name", shape), ("value", shape)] members = .error issues := by
        rcases Bool.and_eq_false_iff.mp other with bad | bad
        · exact Shape.check_fields_error _ members ("name", shape) (by simp) (check_bad_field _ bad)
        · exact Shape.check_fields_error _ members ("value", shape) (by simp) (check_bad_field _ bad)
      obtain ⟨issues, failed⟩ := fields
      rw [Shape.remoteKey, Shape.check, failed]
      exact ⟨issues, rfl⟩
  | _ => exact ⟨_, rfl⟩

theorem checked_field (members : List (String × Json)) (name : String) (field : name = "name" ∨ name = "value") :
    (Json.object (checkedMembers members)).member? name = Ordered.get? members name := by
  have distinct : (Ordered.keys (fieldOf members "name" ++ fieldOf members "value")).Nodup := by
    cases one : Ordered.get? members "name" <;> cases two : Ordered.get? members "value" <;>
      simp [fieldOf, one, two, Ordered.keys]
  have foreign : name ∉ Ordered.keys (members.filter fun member => !(["name", "value"].contains member.1)) := by
    intro known
    obtain ⟨member, listed, rfl⟩ := List.mem_map.mp known
    have other := (List.mem_filter.mp listed).2
    rcases field with same | same <;> simp [same] at other
  have kept : Shape.dropped name = false := by rcases field with rfl | rfl <;> rfl
  rw [checkedMembers, Shape.object_get _ _ name distinct kept foreign]
  rcases field with rfl | rfl <;> cases one : Ordered.get? members "name" <;> cases two : Ordered.get? members "value" <;>
    simp [fieldOf, one, two, Ordered.get?]

theorem checked_command (members : List (String × Json)) :
    command? (Json.object (checkedMembers members)) = command? (.obj members) := by
  rw [command?, checked_field members "name" (.inl rfl), checked_field members "value" (.inr rfl)]
  rfl

def checkedKey : Json → Json
  | .obj members => Json.object (checkedMembers members)
  | item => item

def checkKey (item : Json) : Shape.Checked Json := Shape.present item (Shape.check Shape.remoteKey (some item))

theorem check_keys (items : List Json) (index : Nat) (keys : ∀ item ∈ items, isKey item = true) :
    Shape.checkEach checkKey index items = .ok (items.map checkedKey) := by
  refine Shape.check_each_ok checkKey checkedKey items index fun item member => ?_
  have key := keys item member
  cases item with
  | obj members =>
      rw [checkKey, check_key members key]
      rfl
  | _ => cases key

theorem check_no_keys (items : List Json) (index : Nat) (item : Json) (member : item ∈ items) (other : isKey item = false) :
    ∃ issues, Shape.checkEach checkKey index items = .error issues := by
  obtain ⟨issues, failed⟩ := check_no_key item other
  refine Shape.check_each_error checkKey items index item member ⟨issues, ?_⟩
  rw [checkKey, failed]
  rfl

theorem of_reply_keys (reply : Reply) : (ofReply? reply).getD [] = keysIn (reply.results.bind (·[1]?)) := by
  rw [ofReply?]
  rcases reply.results.bind (·[1]?) with _ | payload
  · rfl
  cases payload with
  | arr items =>
      have checked : Shape.check Shape.remoteKeys (some (.arr items)) =
          Shape.mapChecked (fun items => some (.arr items)) (Shape.checkEach checkKey 0 items) := by
        rw [Shape.remoteKeys, Shape.check]
        rfl
      rw [Shape.accept?, checked, keysIn]
      by_cases keys : ∀ item ∈ items, isKey item = true
      · have commands : (items.map checkedKey).filterMap command? = items.filterMap command? := by
          rw [List.filterMap_map]
          refine List.filterMap_congr fun item member => ?_
          have key := keys item member
          cases item with
          | obj members => exact checked_command members
          | _ => cases key
        rw [if_pos (List.all_eq_true.mpr keys), check_keys items 0 keys]
        exact commands
      · have all : ¬ items.all isKey = true := fun all => keys (List.all_eq_true.mp all)
        obtain ⟨item, member, other⟩ : ∃ item ∈ items, isKey item = false := by simpa using keys
        obtain ⟨issues, failed⟩ := check_no_keys items 0 item member other
        rw [if_neg all, failed]
        rfl
  | _ => rfl

end CommandMap

end DeviceLogin
