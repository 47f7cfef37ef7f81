set_option autoImplicit false

namespace DeviceLogin

abbrev Ordered (α : Type) := List (String × α)

namespace Ordered

variable {α : Type}

def get? : Ordered α → String → Option α
  | [], _ => none
  | (name, value) :: rest, key => if name = key then some value else get? rest key

def has (entries : Ordered α) (key : String) : Bool := (get? entries key).isSome

def put : Ordered α → String → α → Ordered α
  | [], key, value => [(key, value)]
  | (name, old) :: rest, key, value =>
      if name = key then (key, value) :: rest else (name, old) :: put rest key value

def erase (entries : Ordered α) (key : String) : Ordered α :=
  entries.filter fun entry => entry.1 != key

def putAll (entries added : Ordered α) : Ordered α :=
  added.foldl (fun known entry => put known entry.1 entry.2) entries

def keys (entries : Ordered α) : List String := entries.map (·.1)

theorem get_put (entries : Ordered α) (key other : String) (value : α) :
    get? (put entries key value) other = if key = other then some value else get? entries other := by
  induction entries with
  | nil => simp [put, get?]
  | cons entry rest ih =>
      obtain ⟨name, old⟩ := entry
      by_cases same : name = key
      · subst same
        by_cases here : name = other <;> simp [put, get?, here]
      · by_cases here : name = other
        · subst here
          simp [put, get?, same, Ne.symm same]
        · simp [put, get?, same, here, ih]

theorem get_erase (entries : Ordered α) (key other : String) :
    get? (erase entries key) other = if key = other then none else get? entries other := by
  induction entries with
  | nil => simp [erase, get?]
  | cons first rest ih =>
      obtain ⟨name, value⟩ := first
      rw [erase] at ih ⊢
      by_cases gone : name = key
      · subst gone
        by_cases here : name = other
        · subst here
          simpa using ih
        · simpa [get?, here] using ih
      · by_cases here : name = other
        · subst here
          simp [get?, gone, Ne.symm gone]
        · simp [get?, gone, here, ih]

theorem put_same (entries : Ordered α) (key : String) (value : α) (found : get? entries key = some value) :
    put entries key value = entries := by
  induction entries with
  | nil => simp [get?] at found
  | cons first rest ih =>
      obtain ⟨name, old⟩ := first
      by_cases same : name = key
      · rw [get?, if_pos same] at found
        rw [put, if_pos same, same, Option.some.inj found]
      · rw [get?, if_neg same] at found
        rw [put, if_neg same, ih found]

theorem erase_absent (entries : Ordered α) (key : String) (absent : get? entries key = none) :
    erase entries key = entries := by
  induction entries with
  | nil => rfl
  | cons first rest ih =>
      obtain ⟨name, old⟩ := first
      by_cases same : name = key
      · simp [get?, same] at absent
      · rw [get?, if_neg same] at absent
        simpa [erase, same] using ih absent

theorem erase_put (entries : Ordered α) (key : String) (value : α) :
    erase (put entries key value) key = erase entries key := by
  induction entries with
  | nil => simp [put, erase]
  | cons first rest ih =>
      obtain ⟨name, old⟩ := first
      by_cases same : name = key
      · simp [put, erase, same]
      · have tail : (put rest key value).filter (fun entry => entry.1 != key) =
            rest.filter (fun entry => entry.1 != key) := ih
        simp [put, erase, same, tail]

theorem mem_put (entries : Ordered α) (key : String) (value : α) (entry : String × α)
    (member : entry ∈ put entries key value) : entry = (key, value) ∨ entry ∈ entries := by
  induction entries with
  | nil => simpa [put] using member
  | cons first rest ih =>
      obtain ⟨name, old⟩ := first
      by_cases same : name = key
      · rw [put, if_pos same] at member
        exact (List.mem_cons.mp member).imp_right (List.mem_cons_of_mem _)
      · rw [put, if_neg same] at member
        rcases List.mem_cons.mp member with here | later
        · exact .inr (by simp [here])
        · exact (ih later).imp_right (List.mem_cons_of_mem _)

theorem keys_put (entries : Ordered α) (key : String) (value : α) :
    keys (put entries key value) = if key ∈ keys entries then keys entries else keys entries ++ [key] := by
  induction entries with
  | nil => simp [put, keys]
  | cons first rest ih =>
      obtain ⟨name, old⟩ := first
      by_cases same : name = key
      · simp [put, keys, same]
      · have tail : (put rest key value).map (·.1) = if key ∈ rest.map (·.1) then rest.map (·.1) else rest.map (·.1) ++ [key] := ih
        by_cases known : key ∈ rest.map (·.1) <;> simp [put, keys, same, Ne.symm same, tail, known]

theorem nodup_keys_put (entries : Ordered α) (key : String) (value : α) (distinct : (keys entries).Nodup) :
    (keys (put entries key value)).Nodup := by
  rw [keys_put]
  by_cases known : key ∈ keys entries
  · rwa [if_pos known]
  · rw [if_neg known, List.nodup_append]
    refine ⟨distinct, by simp, ?_⟩
    intro name member other single same
    rw [List.mem_singleton] at single
    exact known (single ▸ same ▸ member)

end Ordered

end DeviceLogin
