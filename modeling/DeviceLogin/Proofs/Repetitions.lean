import Mathlib.Data.List.Induction
import Mathlib.Data.List.Nodup

set_option autoImplicit false

namespace DeviceLogin

variable {α : Type} [BEq α] [LawfulBEq α]

theorem erase_dups_snoc (items : List α) (item : α) :
    (items ++ [item]).eraseDups =
      if items.eraseDups.contains item then items.eraseDups else items.eraseDups ++ [item] := by
  rw [List.eraseDups_append]
  by_cases known : item ∈ items <;> simp [List.removeAll, known, List.eraseDups_cons]

theorem nodup_erase_dups (items : List α) : items.eraseDups.Nodup := by
  induction items using List.reverseRecOn with
  | nil => exact List.nodup_nil
  | append_singleton items item ih =>
      rw [erase_dups_snoc]
      split
      · exact ih
      · next new =>
        have absent : item ∉ items.eraseDups := by simpa using new
        exact List.nodup_append.mpr ⟨ih, List.nodup_singleton item, by
          rintro held member other here rfl
          exact absent (List.mem_singleton.mp here ▸ member)⟩

theorem erase_dups_filter (items : List α) (p : α → Bool) : (items.filter p).eraseDups = items.eraseDups.filter p := by
  induction items using List.reverseRecOn with
  | nil => rfl
  | append_singleton items item ih =>
      rw [List.filter_append, erase_dups_snoc]
      cases kept : p item with
      | false => by_cases known : item ∈ items <;> simp [kept, known, ih]
      | true => by_cases known : item ∈ items <;> simp [kept, known, ih, erase_dups_snoc]

theorem erase_dups_inside (before items after : List α) :
    (before ++ items.eraseDups ++ after).eraseDups = (before ++ items ++ after).eraseDups := by
  induction after using List.reverseRecOn with
  | nil =>
      rw [List.append_nil, List.append_nil]
      induction items using List.reverseRecOn with
      | nil => rfl
      | append_singleton items item ih =>
          rw [erase_dups_snoc, ← List.append_assoc, erase_dups_snoc]
          by_cases known : item ∈ items
          · simp [known, ih]
          · by_cases old : item ∈ before <;> simp [known, old, ← List.append_assoc, erase_dups_snoc, ih]
  | append_singleton after item ih => rw [← List.append_assoc, ← List.append_assoc, erase_dups_snoc, erase_dups_snoc, ih]

end DeviceLogin
