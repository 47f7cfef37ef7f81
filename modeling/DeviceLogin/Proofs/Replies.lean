import DeviceLogin.Proofs.Shapes
import DeviceLogin.Reply

set_option autoImplicit false

namespace DeviceLogin

def Json.isCode : Json → Bool
  | .num _ | .str _ => true
  | _ => false

namespace Reply

def isNumber : Option Json → Bool
  | none | some (.num _) => true
  | _ => false

def isList : Option Json → Bool
  | none | some (.arr _) => true
  | _ => false

def isCodes : Option Json → Bool
  | none => true
  | some (.arr codes) => codes.all Json.isCode
  | _ => false

def isEnvelope (members : List (String × Json)) : Bool :=
  isNumber (Ordered.get? members "id") && isList (Ordered.get? members "result") &&
    isList (Ordered.get? members "results") && isCodes (Ordered.get? members "error")

end Reply

namespace Shape

def Sorts (shape : Shape) (good : Option Json → Bool) : Prop :=
  ∀ value, (good value = true → check shape value = .ok value) ∧
    (good value = false → ∃ issues, check shape value = .error issues)

theorem number_sorts : Sorts (.optional .number) Reply.isNumber := by
  rintro (_ | value)
  · exact ⟨fun _ => rfl, fun bad => Bool.noConfusion bad⟩
  · cases value with
    | num number => exact ⟨fun _ => rfl, fun bad => Bool.noConfusion bad⟩
    | _ => exact ⟨fun good => Bool.noConfusion good, fun _ => ⟨_, rfl⟩⟩

theorem list_sorts : Sorts (.optional (.list .anything)) Reply.isList := by
  rintro (_ | value)
  · exact ⟨fun _ => rfl, fun bad => Bool.noConfusion bad⟩
  · cases value with
    | arr items =>
        let each (item : Json) : Checked Json := present item (check .anything (some item))
        have whole : check (.optional (.list .anything)) (some (.arr items)) =
            mapChecked (fun items => some (.arr items)) (checkEach each 0 items) := by
          simp only [check, each]
        have passed := check_each_ok each id items 0 fun item _ => by simp only [each, check, present, mapChecked]; rfl
        rw [whole, passed, List.map_id]
        exact ⟨fun _ => rfl, fun bad => Bool.noConfusion bad⟩
    | _ => exact ⟨fun good => Bool.noConfusion good, fun _ => ⟨_, rfl⟩⟩

theorem code_sorts (item : Json) :
    (item.isCode = true → present item (check (.oneOf [.number, plain]) (some item)) = .ok item) ∧
      (item.isCode = false → ∃ issues, present item (check (.oneOf [.number, plain]) (some item)) = .error issues) := by
  cases item with
  | num number => exact ⟨fun _ => rfl, fun bad => Bool.noConfusion bad⟩
  | str text => exact ⟨fun _ => rfl, fun bad => Bool.noConfusion bad⟩
  | _ => exact ⟨fun good => Bool.noConfusion good, fun _ => ⟨_, rfl⟩⟩

theorem codes_sorts : Sorts (.optional (.list (.oneOf [.number, plain]))) Reply.isCodes := by
  rintro (_ | value)
  · exact ⟨fun _ => rfl, fun bad => Bool.noConfusion bad⟩
  · cases value with
    | arr codes =>
        let each (item : Json) : Checked Json := present item (check (.oneOf [.number, plain]) (some item))
        have whole : check (.optional (.list (.oneOf [.number, plain]))) (some (.arr codes)) =
            mapChecked (fun items => some (.arr items)) (checkEach each 0 codes) := by
          simp only [check, each]
        refine ⟨fun good => ?_, fun bad => ?_⟩
        · have passed := check_each_ok each id codes 0 fun item member =>
            (code_sorts item).1 (List.all_eq_true.mp good item member)
          rw [whole, passed, List.map_id]
          rfl
        · obtain ⟨item, member, odd⟩ : ∃ item ∈ codes, item.isCode = false := by simpa [Reply.isCodes] using bad
          obtain ⟨issues, failed⟩ := check_each_error each codes 0 item member ((code_sorts item).2 odd)
          rw [whole, failed]
          exact ⟨_, rfl⟩
    | _ => exact ⟨fun good => Bool.noConfusion good, fun _ => ⟨_, rfl⟩⟩

def envelopeFields : List (String × Shape) :=
  [("id", .optional .number), ("result", .optional (.list .anything)), ("results", .optional (.list .anything)),
    ("error", .optional (.list (.oneOf [.number, plain])))]

theorem accept_envelope (members : List (String × Json)) (good : Reply.isEnvelope members = true) :
    ∃ found, accept? envelope (some (.obj members)) = some found ∧
      ∀ name ∈ envelopeFields.map (·.1), found.member? name = Ordered.get? members name := by
  have passing : ∀ field ∈ envelopeFields,
      check field.2 (Ordered.get? members field.1) = .ok (Ordered.get? members field.1) := by
    simp only [Reply.isEnvelope, Bool.and_eq_true] at good
    obtain ⟨⟨⟨id, result⟩, results⟩, error⟩ := good
    simp only [envelopeFields, List.forall_mem_cons]
    exact ⟨(number_sorts _).1 id, (list_sorts _).1 result, (list_sorts _).1 results, (codes_sorts _).1 error,
      fun _ none => nomatch none⟩
  have kept : ∀ field ∈ envelopeFields, dropped field.1 = false := by decide
  obtain ⟨found, accepted, held⟩ := accept_object envelopeFields members (by decide)
    (fun field listed => ⟨_, passing field listed⟩) true
  refine ⟨.obj found, accepted, fun name named => ?_⟩
  obtain ⟨field, listed, rfl⟩ := List.mem_map.mp named
  exact (Except.ok.inj ((passing field listed).symm.trans (held field listed (kept field listed)))).symm

theorem refuse_envelope (value : Json) (bad : ∀ members, value = .obj members → Reply.isEnvelope members = false) :
    accept? envelope (some value) = none := by
  cases value with
  | obj members =>
      have unsorted : ∃ field ∈ envelopeFields, ∃ issues, check field.2 (Ordered.get? members field.1) = .error issues := by
        have one := bad members rfl
        simp only [Reply.isEnvelope, Bool.and_eq_false_iff] at one
        rcases one with ((id | result) | results) | error
        · exact ⟨("id", .optional .number), by simp [envelopeFields], (number_sorts _).2 id⟩
        · exact ⟨("result", .optional (.list .anything)), by simp [envelopeFields], (list_sorts _).2 result⟩
        · exact ⟨("results", .optional (.list .anything)), by simp [envelopeFields], (list_sorts _).2 results⟩
        · exact ⟨("error", .optional (.list (.oneOf [.number, plain]))), by simp [envelopeFields], (codes_sorts _).2 error⟩
      obtain ⟨field, listed, failing⟩ := unsorted
      exact refuse_object envelopeFields members field listed failing true
  | _ => rfl

end Shape

namespace Reply

theorem status_of_body (status : Number) (body : String) : (ofBody status body).status = status := by
  unfold ofBody
  split
  · rfl
  split
  · unfold ofEnvelope
    split <;> rfl
  · rfl

theorem status_of_response (response : Http.Response) : (ofResponse response).status = response.status :=
  status_of_body response.status response.body

theorem fault_of_envelope (status : Number) (members : List (String × Json)) :
    (ofEnvelope status (.obj members)).fault = ((Ordered.get? members "error").bind items?).bind faultOf? := by
  simp only [ofEnvelope, Json.member?]
  split
  · next fault found => rw [found]
  · next none => rw [none]

theorem faultless_iff (members : List (String × Json)) :
    ((Ordered.get? members "error").bind items?).bind faultOf? = none ↔
      ∀ codes, Ordered.get? members "error" = some (.arr codes) → codes = [] := by
  rcases Ordered.get? members "error" with _ | value
  · simp
  · cases value with
    | arr codes => cases codes <;> simp [items?, faultOf?]
    | _ => simp [items?]

theorem read_empty : Json.read? "" = none := rfl

theorem of_body_envelope (status : Number) (body : String) (members : List (String × Json))
    (read : Json.read? body = some (.obj members)) (good : isEnvelope members = true) :
    ofBody status body = ofEnvelope status (.obj members) := by
  have filled : body.isEmpty = false := by
    rw [Bool.eq_false_iff]
    intro empty
    rw [String.isEmpty_iff.mp empty, read_empty] at read
    exact nomatch read
  obtain ⟨found, accepted, held⟩ := Shape.accept_envelope members good
  have error : found.member? "error" = Ordered.get? members "error" := held "error" (by decide)
  have result : found.member? "result" = Ordered.get? members "result" := held "result" (by decide)
  have results : found.member? "results" = Ordered.get? members "results" := held "results" (by decide)
  have same : ofEnvelope status found = ofEnvelope status (.obj members) := by
    rw [ofEnvelope, error, result, results]
    rfl
  simp only [ofBody, filled, Bool.false_eq_true, if_false, read, Option.bind_some, accepted, same]

theorem of_body_other (status : Number) (body : String)
    (other : ∀ members, Json.read? body = some (.obj members) → isEnvelope members = false) :
    ofBody status body = { status := status, note := body } := by
  rw [ofBody]
  split
  · next empty => rw [String.isEmpty_iff.mp empty]
  · have refused : ((Json.read? body).bind fun value => Shape.accept? Shape.envelope (some value)) = none := by
      cases read : Json.read? body with
      | none => rfl
      | some value => exact Shape.refuse_envelope value fun members same => other members (same ▸ read)
    rw [refused]

theorem of_body_object_other (status : Number) (body : String) (members : List (String × Json))
    (read : Json.read? body = some (.obj members)) (bad : isEnvelope members = false) :
    ofBody status body = { status := status, note := body } := by
  refine of_body_other status body fun others found => ?_
  rw [read] at found
  cases found
  exact bad

end Reply

end DeviceLogin
