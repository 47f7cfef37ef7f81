import Mathlib.Data.List.Sort
import DeviceLogin.Json.Basic
import DeviceLogin.Proofs.Lookups

set_option autoImplicit false

namespace DeviceLogin.Ordered

variable {α β : Type}

theorem put_new (entries : Ordered α) (key : String) (value : α) (absent : key ∉ keys entries) :
    put entries key value = entries ++ [(key, value)] := by
  induction entries with
  | nil => rfl
  | cons first rest ih =>
      obtain ⟨name, old⟩ := first
      simp only [keys, List.map_cons, List.mem_cons, not_or] at absent
      rw [put, if_neg (Ne.symm absent.1), ih absent.2, List.cons_append]

theorem put_all_append (entries added later : Ordered α) :
    putAll entries (added ++ later) = putAll (putAll entries added) later := List.foldl_append

theorem put_all_distinct (entries added : Ordered α) (distinct : (keys (entries ++ added)).Nodup) :
    putAll entries added = entries ++ added := by
  induction added generalizing entries with
  | nil => simp [putAll]
  | cons first rest ih =>
      have absent : first.1 ∉ keys entries := by
        simp only [keys, List.map_append, List.map_cons, List.nodup_append] at distinct
        exact fun known => distinct.2.2 _ known _ (by simp) rfl
      change putAll (put entries first.1 first.2) rest = _
      rw [put_new entries first.1 first.2 absent, ih _ (by simpa using distinct)]
      simp

theorem nodup_keys_put_all (entries added : Ordered α) (distinct : (keys entries).Nodup) :
    (keys (putAll entries added)).Nodup := by
  induction added generalizing entries with
  | nil => exact distinct
  | cons first rest ih => exact ih _ (nodup_keys_put entries first.1 first.2 distinct)

theorem index_entries_entries (entries : Ordered α) :
    (indexEntries entries).map (·.2) = entries.filter fun entry => (indexName? entry.1).isSome := by
  induction entries with
  | nil => rfl
  | cons first rest ih =>
      cases named : indexName? first.1 with
      | none => simpa [indexEntries, named] using ih
      | some index => simpa [indexEntries, named] using ih

theorem member_order_perm (entries : Ordered α) : (inMemberOrder entries).Perm entries := by
  have indexed : (((indexEntries entries).mergeSort fun a b => a.1 ≤ b.1).map (·.2)).Perm
      (entries.filter fun entry => (indexName? entry.1).isSome) := by
    rw [← index_entries_entries]
    exact (List.mergeSort_perm _ _).map _
  have others : (entries.filter fun entry => (indexName? entry.1).isNone) =
      entries.filter fun entry => !(indexName? entry.1).isSome := by simp
  rw [inMemberOrder, others]
  exact (indexed.append_right _).trans (List.filter_append_perm _ entries)

theorem keys_member_order (entries : Ordered α) : (keys (inMemberOrder entries)).Perm (keys entries) :=
  (member_order_perm entries).map _

theorem get_member_order (entries : Ordered α) (distinct : (keys entries).Nodup) (key : String) :
    get? (inMemberOrder entries) key = get? entries key := by
  have perm := member_order_perm entries
  have nodup : (keys (inMemberOrder entries)).Nodup := (keys_member_order entries).nodup_iff.mpr distinct
  ext value
  constructor
  · exact fun found => get_of_mem _ _ _ distinct (perm.subset (mem_of_get _ _ _ found))
  · exact fun found => get_of_mem _ _ _ nodup (perm.symm.subset (mem_of_get _ _ _ found))

theorem member_order_plain (entries : Ordered α) (plain : ∀ name ∈ keys entries, indexName? name = none) :
    inMemberOrder entries = entries := by
  have known (entry : String × α) (member : entry ∈ entries) : indexName? entry.1 = none :=
    plain entry.1 (List.mem_map_of_mem member)
  have none_indexed : indexEntries entries = [] := by
    rw [indexEntries, List.filterMap_eq_nil_iff]
    intro entry member
    rw [known entry member, Option.map_none]
  rw [inMemberOrder, none_indexed, List.filter_eq_self.mpr fun entry member => by simp [known entry member]]
  simp

theorem named_of_index_entry (entries : Ordered α) (item : Nat × String × α) (member : item ∈ indexEntries entries) :
    indexName? item.2.1 = some item.1 := by
  obtain ⟨entry, -, made⟩ := List.mem_filterMap.mp member
  obtain ⟨index, found, rfl⟩ := Option.map_eq_some_iff.mp made
  exact found

theorem index_entries_of_named (items : List (Nat × String × α)) (named : ∀ item ∈ items, indexName? item.2.1 = some item.1) :
    indexEntries (items.map (·.2)) = items := by
  have kept : ∀ item ∈ items, ((indexName? item.2.1).map fun index => (index, item.2)) = some item := by
    intro item member
    rw [named item member, Option.map_some]
  rw [indexEntries, List.filterMap_map]
  exact (List.filterMap_congr kept).trans List.filterMap_some

theorem index_entries_sorted (entries : Ordered α) :
    indexEntries (inMemberOrder entries) = (indexEntries entries).mergeSort fun a b => a.1 ≤ b.1 := by
  have others : indexEntries (entries.filter fun entry => (indexName? entry.1).isNone) = [] := by
    rw [indexEntries, List.filterMap_eq_nil_iff]
    intro entry member
    have plain : indexName? entry.1 = none := by simpa using (List.mem_filter.mp member).2
    rw [plain, Option.map_none]
  rw [inMemberOrder, indexEntries, List.filterMap_append, ← indexEntries, ← indexEntries, others, List.append_nil]
  exact index_entries_of_named _ fun item member => named_of_index_entry entries item (List.mem_mergeSort.mp member)

theorem others_sorted (entries : Ordered α) :
    ((inMemberOrder entries).filter fun entry => (indexName? entry.1).isNone) =
      entries.filter fun entry => (indexName? entry.1).isNone := by
  have front : ((((indexEntries entries).mergeSort fun a b => a.1 ≤ b.1).map (·.2)).filter
      fun entry => (indexName? entry.1).isNone) = [] := by
    rw [List.filter_eq_nil_iff]
    intro entry member
    obtain ⟨item, sorted, rfl⟩ := List.mem_map.mp member
    simp [named_of_index_entry entries item (List.mem_mergeSort.mp sorted)]
  rw [inMemberOrder, List.filter_append, front, List.nil_append, List.filter_filter]
  simp

theorem member_order_twice (entries : Ordered α) : inMemberOrder (inMemberOrder entries) = inMemberOrder entries := by
  have sorted : (indexEntries (inMemberOrder entries)).mergeSort (fun a b => a.1 ≤ b.1) =
      (indexEntries entries).mergeSort fun a b => a.1 ≤ b.1 := by
    rw [index_entries_sorted]
    exact List.mergeSort_of_pairwise (List.pairwise_mergeSort (by simp; omega) (by simp; omega) _)
  conv_lhs => rw [inMemberOrder, sorted, others_sorted]
  rw [inMemberOrder]

theorem member_order_map (f : String × α → β) (entries : Ordered α) :
    inMemberOrder (entries.map fun entry => (entry.1, f entry)) =
      (inMemberOrder entries).map fun entry => (entry.1, f entry) := by
  have indexed : indexEntries (entries.map fun entry => (entry.1, f entry)) =
      (indexEntries entries).map fun item => (item.1, item.2.1, f item.2) := by
    simp only [indexEntries, List.filterMap_map, List.map_filterMap, Function.comp_def, Option.map_map]
  have sorted : (((indexEntries entries).map fun item => (item.1, item.2.1, f item.2)).mergeSort
      fun a b => a.1 ≤ b.1) = ((indexEntries entries).mergeSort fun a b => a.1 ≤ b.1).map
        fun item => (item.1, item.2.1, f item.2) :=
    (List.map_mergeSort (f := fun item : Nat × String × α => (item.1, item.2.1, f item.2)) fun _ _ _ _ => rfl).symm
  simp only [inMemberOrder, indexed, sorted, List.map_append, List.map_map, List.filter_map, Function.comp_def]

theorem as_members_distinct (entries : Ordered α) (distinct : (keys entries).Nodup) :
    asMembers entries = inMemberOrder entries := by
  rw [asMembers, put_all_distinct [] entries (by simpa using distinct), List.nil_append]

theorem get_as_members (known others : Ordered α) (key : String) (distinct : (keys known).Nodup)
    (foreign : key ∉ keys others) : get? (asMembers (known ++ others)) key = get? known key := by
  have first : putAll [] known = known := put_all_distinct [] known (by simpa using distinct)
  rw [asMembers, get_member_order _ (nodup_keys_put_all [] _ List.nodup_nil), put_all_append,
    get_put_all_other _ _ _ foreign, first]

theorem nodup_keys_as_members (entries : Ordered α) : (keys (asMembers entries)).Nodup :=
  (keys_member_order _).nodup_iff.mpr (nodup_keys_put_all [] entries List.nodup_nil)

theorem as_members_nil : asMembers ([] : Ordered α) = [] := List.perm_nil.mp (member_order_perm _)

theorem as_members_twice (entries : Ordered α) : asMembers (asMembers entries) = asMembers entries := by
  rw [as_members_distinct _ (nodup_keys_as_members entries), asMembers, member_order_twice]

theorem mem_put_all (entries added : Ordered α) (entry : String × α) (member : entry ∈ putAll entries added) :
    entry ∈ entries ∨ entry ∈ added := by
  induction added generalizing entries with
  | nil => exact .inl member
  | cons first rest ih =>
      rcases ih (put entries first.1 first.2) member with known | later
      · exact (mem_put entries first.1 first.2 entry known).symm.imp_right fun here => by simp [here]
      · exact .inr (List.mem_cons_of_mem _ later)

theorem mem_of_as_members (entries : Ordered α) (entry : String × α) (member : entry ∈ asMembers entries) :
    entry ∈ entries :=
  (mem_put_all [] entries entry ((member_order_perm _).subset member)).resolve_left List.not_mem_nil

end DeviceLogin.Ordered
