import DeviceLogin.Proofs.MemberOrder
import DeviceLogin.Shape.Basic

set_option autoImplicit false

namespace DeviceLogin.Shape

variable {α β : Type}

theorem mapped_ok {f : α → β} {checked : Checked α} {result : β} (passed : mapChecked f checked = .ok result) :
    ∃ value, checked = .ok value ∧ f value = result := by
  cases checked with
  | ok value => exact ⟨value, rfl, Except.ok.inj passed⟩
  | error issues => cases passed

theorem both_ok {first : Checked α} {second : Checked β} {result : α × β} (passed : both first second = .ok result) :
    first = .ok result.1 ∧ second = .ok result.2 := by
  cases first <;> cases second <;> cases passed
  exact ⟨rfl, rfl⟩

theorem step_ok {step : Step} {checked : Checked α} {result : α} (passed : atStep step checked = .ok result) :
    checked = .ok result := by
  cases checked <;> cases passed
  rfl

theorem check_members_keys (check : Json → Checked Json) (members checked : List (String × Json))
    (passed : checkMembers check members = .ok checked) : Ordered.keys checked = Ordered.keys members := by
  induction members generalizing checked with
  | nil =>
      cases passed
      rfl
  | cons first rest ih =>
      obtain ⟨⟨value, others⟩, both, rfl⟩ := mapped_ok passed
      exact congrArg (first.1 :: ·) (ih others (both_ok both).2)

theorem check_fields_mem (fields : List (String × Shape)) (members checked : List (String × Json))
    (passed : checkFields fields members = .ok checked) (name : String) (value : Json) (member : (name, value) ∈ checked) :
    ∃ shape, (name, shape) ∈ fields ∧ check shape (Ordered.get? members name) = .ok (some value) := by
  induction fields generalizing checked with
  | nil =>
      rw [checkFields] at passed
      cases passed
      cases member
  | cons field rest ih =>
      obtain ⟨known, given⟩ := field
      rw [checkFields] at passed
      obtain ⟨⟨first, later⟩, both, rfl⟩ := mapped_ok passed
      obtain ⟨here, there⟩ := both_ok both
      have found := step_ok here
      have tail (member : (name, value) ∈ later) :
          ∃ shape, (name, shape) ∈ (known, given) :: rest ∧ check shape (Ordered.get? members name) = .ok (some value) := by
        obtain ⟨shape, field, checked⟩ := ih later there member
        exact ⟨shape, List.mem_cons_of_mem _ field, checked⟩
      cases first with
      | none => exact tail member
      | some kept =>
          rcases List.mem_cons.mp member with same | member
          · obtain ⟨rfl, rfl⟩ := Prod.mk.inj same
            exact ⟨given, List.mem_cons_self, found⟩
          · exact tail member

theorem check_each_ok (check : Json → Checked Json) (f : Json → Json) (items : List Json) (index : Nat)
    (passing : ∀ item ∈ items, check item = .ok (f item)) : checkEach check index items = .ok (items.map f) := by
  induction items generalizing index with
  | nil => rfl
  | cons item rest ih =>
      rw [checkEach, passing item List.mem_cons_self,
        ih (index + 1) fun item member => passing item (List.mem_cons_of_mem _ member)]
      rfl

theorem check_each_error (check : Json → Checked Json) (items : List Json) (index : Nat) (item : Json)
    (member : item ∈ items) (failing : ∃ issues, check item = .error issues) :
    ∃ issues, checkEach check index items = .error issues := by
  induction items generalizing index with
  | nil => cases member
  | cons first rest ih =>
      rw [checkEach]
      rcases List.mem_cons.mp member with rfl | later
      · obtain ⟨issues, failed⟩ := failing
        rw [failed]
        cases checkEach check (index + 1) rest <;> exact ⟨_, rfl⟩
      · obtain ⟨issues, failed⟩ := ih (index + 1) later
        rw [failed]
        cases check first <;> exact ⟨_, rfl⟩

theorem check_fields_ok (fields : List (String × Shape)) (members : List (String × Json))
    (passing : ∀ field ∈ fields, ∃ value, check field.2 (Ordered.get? members field.1) = .ok value) :
    ∃ checked, checkFields fields members = .ok checked := by
  induction fields with
  | nil => exact ⟨[], by rw [checkFields]⟩
  | cons field rest ih =>
      obtain ⟨value, here⟩ := passing field List.mem_cons_self
      obtain ⟨checked, later⟩ := ih fun field member => passing field (List.mem_cons_of_mem _ member)
      rw [checkFields, here, later]
      exact ⟨_, rfl⟩

theorem check_fields_error (fields : List (String × Shape)) (members : List (String × Json)) (field : String × Shape)
    (member : field ∈ fields) (failing : ∃ issues, check field.2 (Ordered.get? members field.1) = .error issues) :
    ∃ issues, checkFields fields members = .error issues := by
  induction fields with
  | nil => cases member
  | cons first rest ih =>
      rw [checkFields]
      rcases List.mem_cons.mp member with rfl | later
      · obtain ⟨issues, failed⟩ := failing
        rw [failed]
        cases checkFields rest members <;> exact ⟨_, rfl⟩
      · obtain ⟨issues, failed⟩ := ih later
        rw [failed]
        cases check first.2 (Ordered.get? members first.1) <;> exact ⟨_, rfl⟩

theorem check_fields_get (fields : List (String × Shape)) (members checked : List (String × Json))
    (distinct : (fields.map (·.1)).Nodup) (passed : checkFields fields members = .ok checked) (field : String × Shape)
    (listed : field ∈ fields) : check field.2 (Ordered.get? members field.1) = .ok (Ordered.get? checked field.1) := by
  induction fields generalizing checked with
  | nil => cases listed
  | cons first rest ih =>
      obtain ⟨alone, others⟩ := List.nodup_cons.mp distinct
      rw [checkFields] at passed
      obtain ⟨⟨value, later⟩, both, rfl⟩ := mapped_ok passed
      obtain ⟨here, there⟩ := both_ok both
      have absent : Ordered.get? later first.1 = none := by
        cases found : Ordered.get? later first.1 with
        | none => rfl
        | some other =>
            obtain ⟨shape, known, -⟩ := check_fields_mem rest members later there _ _ (Ordered.mem_of_get _ _ _ found)
            exact absurd (List.mem_map_of_mem known) alone
      rcases List.mem_cons.mp listed with rfl | member
      · rw [step_ok here]
        cases value with
        | none => exact congrArg Except.ok absent.symm
        | some value => simp [Ordered.get?]
      · have apart : first.1 ≠ field.1 := fun same => alone (List.mem_map.mpr ⟨field, member, same.symm⟩)
        rw [ih later others there member]
        cases value with
        | none => rfl
        | some value => simp [Ordered.get?, apart]

theorem check_fields_distinct (fields : List (String × Shape)) (members checked : List (String × Json))
    (distinct : (fields.map (·.1)).Nodup) (passed : checkFields fields members = .ok checked) :
    (Ordered.keys checked).Nodup := by
  induction fields generalizing checked with
  | nil =>
      rw [checkFields] at passed
      cases passed
      exact List.nodup_nil
  | cons first rest ih =>
      obtain ⟨alone, others⟩ := List.nodup_cons.mp distinct
      rw [checkFields] at passed
      obtain ⟨⟨value, later⟩, both, rfl⟩ := mapped_ok passed
      have there := (both_ok both).2
      cases value with
      | none => exact ih later others there
      | some value =>
          refine List.nodup_cons.mpr ⟨fun known => ?_, ih later others there⟩
          obtain ⟨entry, member, named⟩ := List.mem_map.mp known
          obtain ⟨shape, field, -⟩ := check_fields_mem rest members later there entry.1 entry.2 member
          exact alone (named ▸ List.mem_map_of_mem field)

theorem object_get (known others : List (String × Json)) (name : String) (distinct : (Ordered.keys known).Nodup)
    (kept : dropped name = false) (foreign : name ∉ Ordered.keys others) :
    (Json.object (keepMembers (known ++ others))).member? name = Ordered.get? known name := by
  have split : keepMembers (known ++ others) = keepMembers known ++ keepMembers others := List.filter_append ..
  have nodup : (Ordered.keys (keepMembers known)).Nodup := distinct.sublist (List.filter_sublist.map _)
  have absent : name ∉ Ordered.keys (keepMembers others) := fun listed =>
    foreign ((List.filter_sublist.map Prod.fst).subset listed)
  rw [Json.object, Json.member?, split, Ordered.get_as_members _ _ _ nodup absent, keepMembers,
    Ordered.get_filter _ _ _ fun _ => by simp [kept]]

theorem accept_object (fields : List (String × Shape)) (members : List (String × Json))
    (distinct : (fields.map (·.1)).Nodup)
    (passing : ∀ field ∈ fields, ∃ value, check field.2 (Ordered.get? members field.1) = .ok value) (keepsOthers : Bool) :
    ∃ found, accept? (.object fields keepsOthers) (some (.obj members)) = some (.obj found) ∧
      ∀ field ∈ fields, dropped field.1 = false →
        check field.2 (Ordered.get? members field.1) = .ok (Ordered.get? found field.1) := by
  obtain ⟨known, checked⟩ := check_fields_ok fields members passing
  refine ⟨_, by rw [accept?, check, checked]; rfl, fun field listed kept => ?_⟩
  rw [check_fields_get fields members known distinct checked field listed]
  refine congrArg Except.ok
    (object_get _ _ _ (check_fields_distinct fields members known distinct checked) kept fun other => ?_).symm
  cases keepsOthers with
  | false => exact nomatch other
  | true =>
      obtain ⟨member, found, named⟩ := List.mem_map.mp other
      have unlisted := (List.mem_filter.mp found).2
      rw [named] at unlisted
      simp [List.mem_map_of_mem listed] at unlisted

theorem refuse_object (fields : List (String × Shape)) (members : List (String × Json)) (field : String × Shape)
    (listed : field ∈ fields) (failing : ∃ issues, check field.2 (Ordered.get? members field.1) = .error issues)
    (keepsOthers : Bool) : accept? (.object fields keepsOthers) (some (.obj members)) = none := by
  obtain ⟨issues, failed⟩ := check_fields_error fields members field listed failing
  rw [accept?, check, failed]
  rfl

def passes (shape : Shape) (value : Option Json) : Bool := (check shape value).isOk

def taken (shape : Shape) (value : Json) : Json := (accept? shape (some value)).getD value

theorem passes_iff (shape : Shape) (value : Option Json) : passes shape value = true ↔ ∃ found, check shape value = .ok found := by
  rw [passes]
  cases check shape value <;> simp [Except.isOk, Except.toBool]

theorem passes_not_iff (shape : Shape) (value : Option Json) :
    passes shape value = false ↔ ∃ issues, check shape value = .error issues := by
  rw [passes]
  cases check shape value <;> simp [Except.isOk, Except.toBool]

theorem passes_object (fields : List (String × Shape)) (members : List (String × Json)) (keepsOthers : Bool) :
    passes (.object fields keepsOthers) (some (.obj members)) =
      fields.all fun field => passes field.2 (Ordered.get? members field.1) := by
  cases good : fields.all fun field => passes field.2 (Ordered.get? members field.1) with
  | true =>
      obtain ⟨known, checked⟩ := check_fields_ok fields members fun field listed =>
        (passes_iff _ _).mp (List.all_eq_true.mp good field listed)
      rw [passes, check, checked]
      rfl
  | false =>
      obtain ⟨field, listed, bad⟩ := List.all_eq_false.mp good
      obtain ⟨issues, failed⟩ := check_fields_error fields members field listed
        ((passes_not_iff _ _).mp (Bool.not_eq_true _ ▸ bad))
      rw [passes, check, failed]
      rfl

theorem present_taken (shape : Shape) (value : Json) (good : passes shape (some value) = true) :
    present value (check shape (some value)) = .ok (taken shape value) := by
  obtain ⟨found, checked⟩ := (passes_iff shape (some value)).mp good
  rw [taken, accept?, checked]
  rfl

theorem present_error (shape : Shape) (value : Json) (bad : passes shape (some value) = false) :
    ∃ issues, present value (check shape (some value)) = .error issues := by
  obtain ⟨issues, failed⟩ := (passes_not_iff shape (some value)).mp bad
  exact ⟨issues, by rw [failed]; rfl⟩

theorem accept_list (item : Shape) (items : List Json) :
    accept? (.list item) (some (.arr items)) =
      if items.all fun value => passes item (some value) then some (.arr (items.map (taken item))) else none := by
  have whole : check (.list item) (some (.arr items)) =
      mapChecked (fun items => some (.arr items)) (checkEach (fun value => present value (check item (some value))) 0 items) := by
    simp only [check]
  rw [accept?, whole]
  cases good : items.all fun value => passes item (some value) with
  | true =>
      rw [check_each_ok _ (taken item) items 0 fun value member =>
        present_taken item value (List.all_eq_true.mp good value member)]
      rfl
  | false =>
      obtain ⟨value, member, bad⟩ := List.all_eq_false.mp good
      obtain ⟨issues, failed⟩ := check_each_error (fun value => present value (check item (some value))) items 0 value member
        (present_error item value (Bool.not_eq_true _ ▸ bad))
      rw [failed]
      rfl

theorem accept_one_of_two (first second : Shape) (value : Option Json) :
    accept? (.oneOf [first, second]) value =
      match check first value with
      | .ok found => found
      | .error _ => accept? second value := by
  rw [accept?, check, checkOptions, checkOptions, checkOptions, accept?]
  cases check first value with
  | ok found => rfl
  | error issues => cases check second value <;> rfl

theorem accept_one_or_list (fields : List (String × Shape)) (keepsOthers : Bool) (value : Option Json) :
    accept? (.oneOf [.object fields keepsOthers, .list (.object fields keepsOthers)]) value =
      match value with
      | some (.arr items) => accept? (.list (.object fields keepsOthers)) (some (.arr items))
      | other => accept? (.object fields keepsOthers) other := by
  rw [accept_one_of_two]
  rcases value with _ | value
  · rfl
  cases value with
  | obj members =>
      have other : accept? (.list (.object fields keepsOthers)) (some (.obj members)) = none := rfl
      rw [other]
      rfl
  | _ => rfl

theorem refuse_tuple (shapes : List Shape) (items : List Json) (other : items.length ≠ shapes.length) :
    accept? (.tuple shapes) (some (.arr items)) = none := by
  rw [accept?, check]
  by_cases few : items.length < shapes.length
  · simp only [if_pos few]
  · have many : shapes.length < items.length := by omega
    simp only [if_neg few, if_pos many]
    cases checkTuple shapes 0 items <;> rfl

end DeviceLogin.Shape
