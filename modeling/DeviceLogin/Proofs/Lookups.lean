import DeviceLogin.Ordered

set_option autoImplicit false

namespace DeviceLogin.Ordered

variable {α : Type}

theorem mem_of_get (entries : Ordered α) (key : String) (value : α) (found : get? entries key = some value) :
    (key, value) ∈ entries := by
  induction entries with
  | nil => simp [get?] at found
  | cons first rest ih =>
      obtain ⟨name, old⟩ := first
      by_cases same : name = key
      · rw [get?, if_pos same] at found
        simp [same, Option.some.inj found]
      · rw [get?, if_neg same] at found
        exact List.mem_cons_of_mem _ (ih found)

theorem get_of_mem (entries : Ordered α) (key : String) (value : α) (distinct : (keys entries).Nodup)
    (member : (key, value) ∈ entries) : get? entries key = some value := by
  induction entries with
  | nil => simp at member
  | cons first rest ih =>
      obtain ⟨name, old⟩ := first
      have tail : name ∉ keys rest ∧ (keys rest).Nodup := List.nodup_cons.mp distinct
      rcases List.mem_cons.mp member with here | later
      · obtain ⟨rfl, rfl⟩ := Prod.mk.inj here
        rw [get?, if_pos rfl]
      · have other : name ≠ key := by
          rintro rfl
          exact tail.1 (List.mem_map.mpr ⟨(name, value), later, rfl⟩)
        rw [get?, if_neg other, ih tail.2 later]

theorem get_filter (entries : Ordered α) (p : String × α → Bool) (key : String) (kept : ∀ value, p (key, value) = true) :
    get? (entries.filter p) key = get? entries key := by
  induction entries with
  | nil => rfl
  | cons first rest ih =>
      obtain ⟨name, value⟩ := first
      by_cases same : name = key
      · subst same
        simp [get?, kept value]
      · cases kept : p (name, value) <;> simp [get?, kept, same, ih]

theorem get_map (entries : Ordered α) (f : α → α) (key : String) :
    get? (entries.map fun entry => (entry.1, f entry.2)) key = (get? entries key).map f := by
  induction entries with
  | nil => rfl
  | cons first rest ih =>
      by_cases same : first.1 = key <;> simp [get?, same, ih]

theorem get_replace (entries : Ordered α) (name key : String) (value : α) :
    get? (entries.map fun entry => if entry.1 == name then (entry.1, value) else entry) key =
      if name = key then (get? entries key).map fun _ => value else get? entries key := by
  induction entries with
  | nil => simp [get?]
  | cons first rest ih =>
      obtain ⟨other, old⟩ := first
      simp only [beq_iff_eq] at ih
      by_cases here : other = name
      · by_cases same : name = key <;> simp [get?, here, same, ih]
      · by_cases same : other = key
        · have apart : name ≠ key := fun equal => here (same.trans equal.symm)
          simp [get?, same, apart, Ne.symm apart]
        · simp [get?, here, same, ih]

theorem has_iff (entries : Ordered α) (key : String) : entries.has key = true ↔ key ∈ keys entries := by
  induction entries with
  | nil => simp [has, get?, keys]
  | cons first rest ih =>
      obtain ⟨name, value⟩ := first
      by_cases same : name = key
      · simp [has, get?, keys, same]
      · have tail : (get? rest key).isSome = true ↔ key ∈ rest.map (·.1) := ih
        simp [has, get?, keys, same, Ne.symm same, tail]

theorem keys_erase (entries : Ordered α) (key : String) : keys (erase entries key) = (keys entries).filter (· != key) := by
  simp only [keys, erase, List.filter_map, Function.comp_def]

theorem nodup_keys_erase (entries : Ordered α) (key : String) (distinct : (keys entries).Nodup) :
    (keys (erase entries key)).Nodup := by
  rw [keys_erase]
  exact distinct.filter _

def last? (entries : Ordered α) (key : String) : Option α := get? entries.reverse key

theorem get_append (first rest : Ordered α) (key : String) : get? (first ++ rest) key = (get? first key).or (get? rest key) := by
  induction first with
  | nil => rfl
  | cons entry tail ih => by_cases same : entry.1 = key <;> simp [get?, same, ih]

theorem last_append (first rest : Ordered α) (key : String) :
    last? (first ++ rest) key = (last? rest key).or (last? first key) := by
  rw [last?, List.reverse_append, get_append, last?, last?]

theorem get_put_all_last (entries added : Ordered α) (key : String) :
    get? (putAll entries added) key = (last? added key).or (get? entries key) := by
  induction added generalizing entries with
  | nil => rfl
  | cons first rest ih =>
      obtain ⟨name, value⟩ := first
      change get? (putAll (put entries name value) rest) key = _
      rw [ih, get_put, last?, last?, List.reverse_cons, get_append, Option.or_assoc]
      by_cases same : name = key <;> simp [get?, same]

theorem get_none_iff (entries : Ordered α) (key : String) : get? entries key = none ↔ key ∉ keys entries := by
  rw [← has_iff, has, Bool.not_eq_true, Option.isSome_eq_false_iff, Option.isNone_iff_eq_none]

theorem get_put_all_other (entries added : Ordered α) (key : String) (other : key ∉ keys added) :
    get? (putAll entries added) key = get? entries key := by
  have none : last? added key = none := (get_none_iff _ _).mpr (by simpa [keys] using other)
  rw [get_put_all_last, none, Option.none_or]

theorem last_of_distinct (entries : Ordered α) (key : String) (distinct : (keys entries).Nodup) :
    last? entries key = get? entries key := by
  have turned : (keys entries.reverse).Nodup := ((List.reverse_perm entries).map Prod.fst).nodup_iff.mpr distinct
  refine Option.ext fun value => ⟨fun found => ?_, fun found => ?_⟩
  · exact get_of_mem entries key value distinct (List.mem_reverse.mp (mem_of_get _ key value found))
  · exact get_of_mem _ key value turned (List.mem_reverse.mpr (mem_of_get entries key value found))

end DeviceLogin.Ordered
