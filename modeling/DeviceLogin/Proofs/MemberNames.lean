import DeviceLogin.Proofs.MemberOrder
import DeviceLogin.Proofs.Numbers
import DeviceLogin.Proofs.Repetitions

set_option autoImplicit false

namespace DeviceLogin

namespace Number

-- Digits of a number that is not zero, without zeros before them.
structure Unpadded (digits : List Char) : Prop where
  spelled : ∀ c ∈ digits, c.isDigit = true
  unpadded : digits.head? ≠ some '0'

theorem digit_value_lt (c : Char) (digit : c.isDigit = true) : digitValue c < 10 := by
  simp only [Char.isDigit, Bool.and_eq_true, decide_eq_true_eq] at digit
  have upper : c.toNat ≤ 57 := digit.2
  rw [digitValue]
  omega

theorem digit_value_inj (c d : Char) (one : c.isDigit = true) (two : d.isDigit = true)
    (same : digitValue c = digitValue d) : c = d := by
  simp only [Char.isDigit, Bool.and_eq_true, decide_eq_true_eq] at one two
  have first : 48 ≤ c.toNat := one.1
  have second : 48 ≤ d.toNat := two.1
  rw [digitValue, digitValue] at same
  exact Char.toNat_inj.mp (by omega)

theorem unpadded_front {digits : List Char} {c : Char} (unpadded : Unpadded (digits ++ [c])) : Unpadded digits := by
  refine ⟨fun d member => unpadded.spelled d (List.mem_append_left _ member), fun zero => unpadded.unpadded ?_⟩
  rw [List.head?_append, zero, Option.some_or]

theorem value_positive (digits : List Char) (unpadded : Unpadded digits) (filled : digits ≠ []) : 0 < valueOf digits := by
  induction digits using List.reverseRecOn with
  | nil => exact absurd rfl filled
  | append_singleton digits c ih =>
      rw [value_append]
      by_cases first : digits = []
      · subst first
        have digit : c.isDigit = true := unpadded.spelled c (by simp)
        have other : c ≠ '0' := fun zero => unpadded.unpadded (by simp [zero])
        have positive : digitValue c ≠ digitValue '0' := fun same => other (digit_value_inj c '0' digit rfl same)
        have zero : digitValue '0' = 0 := rfl
        omega
      · have positive := ih (unpadded_front unpadded) first
        omega

theorem unpadded_inj (one two : List Char) (first : Unpadded one) (second : Unpadded two) (same : valueOf one = valueOf two) :
    one = two := by
  induction one using List.reverseRecOn generalizing two with
  | nil =>
      by_contra filled
      exact absurd same (Nat.ne_of_lt (value_positive two second (Ne.symm filled)))
  | append_singleton one c ih =>
      rcases List.eq_nil_or_concat' two with rfl | ⟨two, d, rfl⟩
      · exact absurd same (Nat.ne_of_gt (value_positive _ first (by simp)))
      · have left : c.isDigit = true := first.spelled c (by simp)
        have right : d.isDigit = true := second.spelled d (by simp)
        have small := digit_value_lt c left
        have low := digit_value_lt d right
        rw [value_append, value_append] at same
        rw [digit_value_inj c d left right (by omega),
          ih two (unpadded_front first) (unpadded_front second) (by omega)]

end Number

theorem index_spelled (name : String) (index : Nat) (spells : indexName? name = some index) :
    index = Number.valueOf name.toList ∧ (name.toList = ['0'] ∨ name.toList ≠ [] ∧ Number.Unpadded name.toList) := by
  simp only [indexName?] at spells
  split at spells
  · cases spells
  · next fits =>
    split at spells
    · simp only [Bool.or_eq_true, Bool.not_eq_true', Bool.and_eq_true, not_or, List.isEmpty_iff, Bool.not_eq_false,
        List.all_eq_true, beq_iff_eq, bne_iff_ne, not_and, not_not] at fits
      obtain ⟨⟨filled, digits⟩, single⟩ := fits
      refine ⟨(Option.some.inj spells).symm, ?_⟩
      by_cases zero : name.toList.head? = some '0'
      · obtain ⟨c, only⟩ := List.length_eq_one_iff.mp (single zero)
        rw [only] at zero
        exact .inl (by rw [only, Option.some.inj zero])
      · exact .inr ⟨filled, digits, zero⟩
    · cases spells

theorem index_name_unique (one two : String) (index : Nat) (first : indexName? one = some index)
    (second : indexName? two = some index) : one = two := by
  obtain ⟨value, left⟩ := index_spelled one index first
  obtain ⟨other, right⟩ := index_spelled two index second
  have zero : Number.valueOf ['0'] = 0 := rfl
  apply String.toList_injective
  rcases left with left | ⟨filled, left⟩
  · rcases right with right | ⟨filled, right⟩
    · rw [left, right]
    · have positive := Number.value_positive _ right filled
      rw [left] at value
      omega
  · rcases right with right | ⟨_, right⟩
    · have positive := Number.value_positive _ left filled
      rw [right] at other
      omega
    · exact Number.unpadded_inj _ _ left right (value.symm.trans other)

namespace Ordered

variable {α : Type}

theorem keys_append (first rest : Ordered α) : keys (first ++ rest) = keys first ++ keys rest := List.map_append

theorem keys_put_all (added : Ordered α) : keys (putAll [] added) = (keys added).eraseDups := by
  induction added using List.reverseRecOn with
  | nil => rfl
  | append_singleton added entry ih =>
      have last : putAll [] (added ++ [entry]) = put (putAll [] added) entry.1 entry.2 := put_all_append [] added [entry]
      have single : keys [entry] = [entry.1] := rfl
      rw [last, keys_put, keys_append, single, erase_dups_snoc, ih]
      simp only [List.contains_iff_mem]

theorem keys_filter (entries : Ordered α) (p : String → Bool) :
    keys (entries.filter fun entry => p entry.1) = (keys entries).filter p := by
  rw [keys, keys, List.filter_map]
  rfl

theorem eq_of_get (first second : Ordered α) (names : keys first = keys second) (distinct : (keys first).Nodup)
    (values : ∀ key, get? first key = get? second key) : first = second := by
  induction first generalizing second with
  | nil => exact (List.map_eq_nil_iff.mp names.symm).symm
  | cons entry rest ih =>
      obtain ⟨name, value⟩ := entry
      obtain ⟨⟨other, held⟩, tail, rfl, same, following⟩ := List.map_eq_cons_iff.mp names.symm
      obtain rfl : other = name := same
      have others : keys rest = keys tail := following.symm
      have apart : other ∉ keys rest ∧ (keys rest).Nodup := List.nodup_cons.mp distinct
      have here : value = held := by simpa [get?] using values other
      have later (key : String) : get? rest key = get? tail key := by
        by_cases equal : other = key
        · subst equal
          rw [(get_none_iff rest other).mpr apart.1, (get_none_iff tail other).mpr (others ▸ apart.1)]
        · simpa [get?, equal] using values key
      rw [here, ih tail others apart.2 later]

def InPlace (names : List String) : Prop :=
  names.Pairwise fun before name => ∀ index, indexName? name = some index →
    ∃ smaller, indexName? before = some smaller ∧ smaller ≤ index

structure Gathered (entries members : Ordered α) : Prop where
  distinct : (keys members).Nodup
  values : ∀ key, get? members key = last? entries key
  others : (keys members).filter (fun name => (indexName? name).isNone) =
    ((keys entries).filter fun name => (indexName? name).isNone).eraseDups
  inPlace : InPlace (keys members)

theorem others_of_member_order (entries : Ordered α) :
    (keys (inMemberOrder entries)).filter (fun name => (indexName? name).isNone) =
      (keys entries).filter fun name => (indexName? name).isNone := by
  have plain (entries : Ordered α) := keys_filter entries fun name => (indexName? name).isNone
  rw [← plain, ← plain, others_sorted]

theorem member_order_in_place (entries : Ordered α) : InPlace (keys (inMemberOrder entries)) := by
  have sorted : ((indexEntries entries).mergeSort fun a b => a.1 ≤ b.1).Pairwise fun a b => decide (a.1 ≤ b.1) = true :=
    List.pairwise_mergeSort (by simp; omega) (by simp; omega) _
  have named (item : Nat × String × α) (member : item ∈ (indexEntries entries).mergeSort fun a b => a.1 ≤ b.1) :
      indexName? item.2.1 = some item.1 := named_of_index_entry entries item (List.mem_mergeSort.mp member)
  have plain (entry : String × α) (member : entry ∈ entries.filter fun entry => (indexName? entry.1).isNone) :
      indexName? entry.1 = none := by simpa using (List.mem_filter.mp member).2
  rw [InPlace, keys, List.pairwise_map, inMemberOrder, List.pairwise_append, List.pairwise_map]
  refine ⟨sorted.imp_of_mem ?_, ?_, ?_⟩
  · intro before item known member below index spelled
    rw [named item member, Option.some.injEq] at spelled
    exact ⟨before.1, named before known, spelled ▸ of_decide_eq_true below⟩
  · refine List.pairwise_of_forall_mem_list ?_
    intro before known entry member index spelled
    rw [plain entry member] at spelled
    cases spelled
  · intro before known entry member index spelled
    rw [plain entry member] at spelled
    cases spelled

theorem as_members_gathered (entries : Ordered α) : Gathered entries (asMembers entries) where
  distinct := nodup_keys_as_members entries
  values key := by
    rw [asMembers, get_member_order _ (nodup_keys_put_all [] entries List.nodup_nil), get_put_all_last]
    exact Option.or_none
  others := by rw [asMembers, others_of_member_order, keys_put_all, erase_dups_filter]
  inPlace := member_order_in_place _

theorem in_place_split (names : List String) (inPlace : InPlace names) :
    names = names.filter (fun name => (indexName? name).isSome) ++ names.filter fun name => (indexName? name).isNone := by
  induction names with
  | nil => rfl
  | cons name rest ih =>
      obtain ⟨first, later⟩ := List.pairwise_cons.mp inPlace
      cases spelled : indexName? name with
      | some index => simpa [spelled] using ih later
      | none =>
          have plain (other : String) (member : other ∈ rest) : indexName? other = none := by
            cases index : indexName? other with
            | none => rfl
            | some _ =>
                obtain ⟨_, smaller, _⟩ := first other member _ index
                rw [spelled] at smaller
                cases smaller
          have none_indexed : rest.filter (fun name => (indexName? name).isSome) = [] := by
            rw [List.filter_eq_nil_iff]
            intro other member
            simp [plain other member]
          have all_plain : rest.filter (fun name => (indexName? name).isNone) = rest := by
            rw [List.filter_eq_self]
            intro other member
            simp [plain other member]
          simp [spelled, none_indexed, all_plain]

theorem in_place_indices (one two : List String) (first : InPlace one) (second : InPlace two) (same : one.Perm two)
    (indexed : ∀ name ∈ one, (indexName? name).isSome) : one = two := by
  refine same.eq_of_pairwise ?_ first second
  intro a b known member before behind
  obtain ⟨i, spelled⟩ := Option.isSome_iff_exists.mp (indexed a known)
  obtain ⟨j, other⟩ := Option.isSome_iff_exists.mp (indexed b (same.symm.subset member))
  obtain ⟨low, left, below⟩ := before j other
  obtain ⟨high, right, above⟩ := behind i spelled
  rw [spelled, Option.some.injEq] at left
  rw [other, Option.some.injEq] at right
  have equal : i = j := by omega
  exact index_name_unique a b i spelled (equal ▸ other)

theorem gathered_unique (entries first second : Ordered α) (one : Gathered entries first) (two : Gathered entries second) :
    first = second := by
  have values (key : String) : get? first key = get? second key := (one.values key).trans (two.values key).symm
  have known (key : String) : key ∈ keys first ↔ key ∈ keys second := by
    rw [← has_iff, ← has_iff, has, has, values]
  have same : (keys first).Perm (keys second) := (List.perm_ext_iff_of_nodup one.distinct two.distinct).mpr known
  have indices : (keys first).filter (fun name => (indexName? name).isSome) =
      (keys second).filter fun name => (indexName? name).isSome :=
    in_place_indices _ _ (one.inPlace.filter _) (two.inPlace.filter _) (same.filter _)
      fun name member => (List.mem_filter.mp member).2
  refine eq_of_get first second ?_ one.distinct values
  rw [in_place_split _ one.inPlace, in_place_split _ two.inPlace, indices, one.others, two.others]

theorem gathered_iff (entries members : Ordered α) : Gathered entries members ↔ members = asMembers entries :=
  ⟨fun gathered => gathered_unique entries _ _ gathered (as_members_gathered entries),
    fun made => made ▸ as_members_gathered entries⟩

theorem as_members_inside (before entries after : Ordered α) :
    asMembers (before ++ asMembers entries ++ after) = asMembers (before ++ entries ++ after) := by
  have inner := as_members_gathered entries
  have whole := as_members_gathered (before ++ asMembers entries ++ after)
  refine (gathered_iff _ _).mp ⟨whole.distinct, fun key => ?_, ?_, whole.inPlace⟩
  · have here : last? (asMembers entries) key = last? entries key :=
      (last_of_distinct _ key inner.distinct).trans (inner.values key)
    rw [whole.values, last_append, last_append, last_append, last_append, here]
  · rw [whole.others, keys_append, keys_append, keys_append, keys_append]
    simp only [List.filter_append]
    rw [inner.others, erase_dups_inside]

end Ordered

end DeviceLogin
