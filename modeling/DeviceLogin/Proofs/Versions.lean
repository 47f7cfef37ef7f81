import Mathlib
import DeviceLogin.Proofs.Numbers
import DeviceLogin.Version

set_option autoImplicit false

namespace DeviceLogin.Version

def digits (piece : List Char) : List Char :=
  let body := Text.trimStart piece
  (if body.head? == some '-' || body.head? == some '+' then body.drop 1 else body).takeWhile Char.isDigit

def isNegative (piece : List Char) : Bool := (Text.trimStart piece).head? == some '-'

def place (piece : List Char) : Int :=
  if isNegative piece then -(Number.valueOf (digits piece) : Int) else Number.valueOf (digits piece)

def places (version : String) : List Int := (Text.splitOn '.' version.toList).map place

def Short (version : String) : Prop := ∀ piece ∈ Text.splitOn '.' version.toList, (digits piece).length ≤ 15

def padded (places : List Int) (index : Nat) : Int := places.getD index 0

def rank (version : String) : Lex (Nat → Int) := toLex (padded (places version))

theorem leading_integer_eq (piece : List Char) :
    Number.leadingInteger (String.ofList piece) =
      if (digits piece).isEmpty then .nan else Number.ofDecimal (isNegative piece) (Number.valueOf (digits piece)) 0 := by
  rw [Number.leadingInteger, String.toList_ofList]
  rfl

theorem value_small (piece : List Char) (short : (digits piece).length ≤ 15) : Number.valueOf (digits piece) < 10 ^ 15 := by
  have spelled : ∀ c ∈ digits piece, c.isDigit = true := List.all_eq_true.mp List.all_takeWhile
  exact (Number.value_bound _ spelled).trans_le (Nat.pow_le_pow_right (by decide) short)

theorem place_small (piece : List Char) (short : (digits piece).length ≤ 15) : (place piece).natAbs < 10 ^ 15 := by
  have small := value_small piece short
  unfold place
  split <;> omega

theorem signed_size (negative : Bool) (size : Nat) (small : size < 10 ^ 15) (filled : size ≠ 0) :
    Number.finite negative (size * Number.one) = .ofInt (if negative then -(size : Int) else size) := by
  rw [Number.of_int_exact _ (by cases negative <;> simp <;> omega)]
  cases negative
  · simp
  · simp [Nat.pos_of_ne_zero filled]

theorem part_exact (piece : List Char) (short : (digits piece).length ≤ 15) : part piece = .ofInt (place piece) := by
  have small := value_small piece short
  rw [part, leading_integer_eq, place]
  by_cases none : (digits piece).isEmpty
  · simp [List.isEmpty_iff.mp none, Number.valueOf, Number.isNan, Number.zero_of_int]
  · rw [if_neg none, Number.of_decimal_integer _ _ small]
    generalize Number.valueOf (digits piece) = size at small
    by_cases zero : size = 0
    · simp [zero, Number.isNan, Number.equals, Number.zero_exact, Number.of_int_exact]
    · have filled : Number.equals (.finite (isNegative piece) (size * Number.one)) 0 = false := by
        simp [Number.zero_exact, Number.equals, zero, Nat.ne_of_gt Number.one_positive]
      simp only [Number.isNan, filled, Bool.or_self, Bool.false_eq_true, if_false]
      exact signed_size _ size small zero

theorem parts_exact (version : String) (short : Short version) : parts version = (places version).map .ofInt := by
  rw [parts, places, List.map_map]
  refine List.map_congr_left fun piece member => ?_
  rw [part_exact piece (short piece member), Function.comp_apply]

theorem places_small (version : String) (short : Short version) : ∀ n ∈ places version, n.natAbs < 10 ^ 15 := by
  intro n member
  obtain ⟨piece, found, rfl⟩ := List.mem_map.mp member
  exact place_small piece (short piece found)

def Decides (left right : Nat → Int) (difference : Int) : Prop :=
  (difference = 0 ∧ left = right) ∨
    ∃ index, (∀ earlier < index, left earlier = right earlier) ∧ difference = left index - right index ∧ difference ≠ 0

theorem decides_cons {left right : Nat → Int} {difference : Int}
    (later : Decides (fun index => left (index + 1)) (fun index => right (index + 1)) difference) :
    Decides left right (if left 0 - right 0 = 0 then difference else left 0 - right 0) := by
  split
  · next same =>
    have first : left 0 = right 0 := by omega
    rcases later with ⟨none, tail⟩ | ⟨index, before, here, apart⟩
    · refine .inl ⟨none, funext fun index => ?_⟩
      cases index with
      | zero => exact first
      | succ index => exact congrFun tail index
    · refine .inr ⟨index + 1, fun earlier less => ?_, here, apart⟩
      cases earlier with
      | zero => exact first
      | succ earlier => exact before earlier (by omega)
  · next apart => exact .inr ⟨0, fun earlier less => absurd less (by omega), rfl, apart⟩

theorem decides_order {left right : Nat → Int} {difference : Int} (decides : Decides left right difference) :
    (difference = 0 ↔ toLex left = toLex right) ∧ (0 < difference ↔ toLex right < toLex left) := by
  rcases decides with ⟨rfl, rfl⟩ | ⟨index, before, rfl, apart⟩
  · exact ⟨iff_of_true rfl rfl, iff_of_false (by omega) (lt_irrefl _)⟩
  · rcases Int.lt_or_lt_of_ne apart with below | above
    · have less : toLex left < toLex right := ⟨index, before, by simpa using (by omega : left index < right index)⟩
      exact ⟨iff_of_false apart less.ne, iff_of_false (by omega) less.asymm⟩
    · have more : toLex right < toLex left :=
        ⟨index, fun earlier less => (before earlier less).symm, by simpa using (by omega : right index < left index)⟩
      exact ⟨iff_of_false apart more.ne', iff_of_true above more⟩

theorem decides_unique {left right : Nat → Int} {difference other : Int} (one : Decides left right difference)
    (two : Decides left right other) : difference = other := by
  rcases one with ⟨rfl, same⟩ | ⟨index, before, rfl, apart⟩
  · rcases two with ⟨rfl, -⟩ | ⟨place, -, rfl, apart⟩
    · rfl
    · exact absurd (congrFun same place) (by omega)
  · rcases two with ⟨rfl, same⟩ | ⟨place, first, rfl, differ⟩
    · exact absurd (congrFun same index) (by omega)
    · rcases Nat.lt_trichotomy index place with less | rfl | more
      · exact absurd (first index less) (by omega)
      · rfl
      · exact absurd (before place more) (by omega)

theorem decides_swap {left right : Nat → Int} {difference : Int} (decides : Decides left right difference) :
    Decides right left (-difference) := by
  rcases decides with ⟨rfl, same⟩ | ⟨index, before, rfl, apart⟩
  · exact .inl ⟨rfl, same.symm⟩
  · exact .inr ⟨index, fun earlier less => (before earlier less).symm, by omega, by omega⟩

theorem decides_nonneg_iff {left right : Nat → Int} {difference : Int} (decides : Decides left right difference) :
    0 ≤ difference ↔ toLex right ≤ toLex left := by
  obtain ⟨same, more⟩ := decides_order decides
  calc 0 ≤ difference
      ↔ 0 < difference ∨ difference = 0 := by omega
    _ ↔ toLex right < toLex left ∨ toLex right = toLex left := or_congr more (same.trans eq_comm)
    _ ↔ toLex right ≤ toLex left := le_iff_lt_or_eq.symm

theorem decides_trans {left middle right : Nat → Int} {front back whole : Int} (one : Decides left middle front)
    (two : Decides middle right back) (both : Decides left right whole) (above : 0 ≤ front) (more : 0 ≤ back) :
    0 ≤ whole ∧ (0 < front ∨ 0 < back → 0 < whole) := by
  have upper := (decides_nonneg_iff one).mp above
  have lower := (decides_nonneg_iff two).mp more
  refine ⟨(decides_nonneg_iff both).mpr (lower.trans upper), fun strict => (decides_order both).2.mpr ?_⟩
  rcases strict with strict | strict
  · exact lower.trans_lt ((decides_order one).2.mp strict)
  · exact ((decides_order two).2.mp strict).trans_le upper

theorem sub_small (a b : Int) (left : a.natAbs < 10 ^ 15) (right : b.natAbs < 10 ^ 15) :
    (Number.ofInt a).sub (.ofInt b) = .ofInt (a - b) ∧ ((Number.ofInt (a - b)).equals 0 = true ↔ a - b = 0) :=
  ⟨Number.sub_of_int a b (by omega) (by omega), Number.equals_zero_of_int (a - b) (by omega)⟩

theorem first_difference_step (number : Int → Number) (zero : number 0 = 0) (left right : List Int)
    (some : left ≠ [] ∨ right ≠ []) :
    firstDifference (left.map number) (right.map number) =
      if ((number (left.headD 0)).sub (number (right.headD 0))).equals 0 then
        firstDifference (left.tail.map number) (right.tail.map number)
      else (number (left.headD 0)).sub (number (right.headD 0)) := by
  cases left with
  | nil =>
      cases right with
      | nil => exact absurd some (by simp)
      | cons b right => rw [List.headD_nil, zero, List.map_nil, List.map_cons, firstDifference.eq_def, List.headD_cons,
          List.tail_nil, List.tail_cons, List.map_nil]
  | cons a left =>
      cases right with
      | nil => rw [List.headD_nil, zero, List.map_nil, List.map_cons, firstDifference.eq_def, List.headD_cons,
          List.tail_nil, List.tail_cons, List.map_nil]
      | cons b right => rw [List.map_cons, List.map_cons, firstDifference.eq_def, List.headD_cons, List.headD_cons,
          List.tail_cons, List.tail_cons]

theorem head_small (places : List Int) (small : ∀ n ∈ places, n.natAbs < 10 ^ 15) : (places.headD 0).natAbs < 10 ^ 15 := by
  cases places with
  | nil => decide
  | cons first rest => exact small first List.mem_cons_self

theorem padded_head (places : List Int) : padded places 0 = places.headD 0 := by cases places <;> rfl

theorem padded_tail (places : List Int) : (fun index => padded places (index + 1)) = padded places.tail := by
  cases places <;> rfl

theorem padded_after (places : List Int) (index : Nat) (after : places.length ≤ index) : padded places index = 0 :=
  List.getD_eq_default _ _ after

theorem rightpad_place (places : List Int) (width index : Nat) (within : index < width) :
    (places.rightpad width 0)[index]? = some (padded places index) := by
  by_cases inside : index < places.length
  · rw [List.rightpad, List.getElem?_append_left inside, padded, List.getD_eq_getElem?_getD,
      List.getElem?_eq_getElem inside, Option.getD_some]
  · rw [padded_after places index (by omega), List.rightpad, List.getElem?_append_right (by omega),
      List.getElem?_replicate, if_pos (by omega)]

theorem rightpad_end (places : List Int) (width index : Nat) (fits : places.length ≤ width) (after : width ≤ index) :
    (places.rightpad width 0)[index]? = none := by
  rw [List.getElem?_eq_none_iff, List.length_rightpad]
  omega

theorem rightpad_eq_iff (left right : List Int) (width : Nat) (fits : left.length ≤ width) (holds : right.length ≤ width) :
    left.rightpad width 0 = right.rightpad width 0 ↔ padded left = padded right := by
  constructor
  · intro same
    funext index
    by_cases within : index < width
    · have place := rightpad_place left width index within
      rw [same, rightpad_place right width index within] at place
      exact (Option.some.inj place).symm
    · rw [padded_after left index (by omega), padded_after right index (by omega)]
  · intro same
    refine List.ext_getElem? fun index => ?_
    by_cases within : index < width
    · rw [rightpad_place left width index within, rightpad_place right width index within, same]
    · rw [rightpad_end left width index fits (by omega), rightpad_end right width index holds (by omega)]

theorem decides_place {left right : List Int} {difference : Int} (width : Nat) (fits : left.length ≤ width)
    (holds : right.length ≤ width) (decides : Decides (padded left) (padded right) difference) (apart : difference ≠ 0) :
    ∃ index x y, (left.rightpad width 0).take index = (right.rightpad width 0).take index ∧
      (left.rightpad width 0)[index]? = some x ∧ (right.rightpad width 0)[index]? = some y ∧ x ≠ y ∧ difference = x - y := by
  rcases decides with ⟨none, -⟩ | ⟨index, before, rfl, -⟩
  · exact absurd none apart
  · have within : index < width := by
      by_contra after
      rw [padded_after left index (by omega), padded_after right index (by omega)] at apart
      exact apart rfl
    refine ⟨index, _, _, List.ext_getElem? fun earlier => ?_, rightpad_place left width index within,
      rightpad_place right width index within, fun same => apart (by omega), rfl⟩
    by_cases less : earlier < index
    · rw [List.getElem?_take_of_lt less, List.getElem?_take_of_lt less, rightpad_place left width earlier (by omega),
        rightpad_place right width earlier (by omega), before earlier less]
    · rw [List.getElem?_take_eq_none (by omega), List.getElem?_take_eq_none (by omega)]

theorem first_difference_decides (left right : List Int) (small : ∀ n ∈ left, n.natAbs < 10 ^ 15)
    (little : ∀ n ∈ right, n.natAbs < 10 ^ 15) :
    ∃ difference, firstDifference (left.map .ofInt) (right.map .ofInt) = .ofInt difference ∧
      difference.natAbs < 2 ^ 53 ∧ Decides (padded left) (padded right) difference := by
  -- Either list may be the longer one, so the induction is on the places of both.
  induction length : left.length + right.length using Nat.strongRecOn generalizing left right with
  | ind size ih =>
      by_cases some : left ≠ [] ∨ right ≠ []
      · have shorter : left.tail.length + right.tail.length < size := by
          rw [← length, List.length_tail, List.length_tail]
          rcases some with some | some
          · have filled := List.length_pos_iff.mpr some
            omega
          · have filled := List.length_pos_iff.mpr some
            omega
        obtain ⟨later, found, bounded, decided⟩ := ih _ shorter left.tail right.tail
          (fun n member => small n (List.mem_of_mem_tail member)) (fun n member => little n (List.mem_of_mem_tail member)) rfl
        have one := head_small left small
        have two := head_small right little
        obtain ⟨exact, zero⟩ := sub_small _ _ one two
        rw [← padded_tail, ← padded_tail] at decided
        have both := decides_cons decided
        rw [padded_head, padded_head] at both
        refine ⟨_, ?_, ?_, both⟩
        · rw [first_difference_step .ofInt Number.zero_of_int.symm left right some, exact, found]
          by_cases same : left.headD 0 - right.headD 0 = 0
          · rw [if_pos (zero.mpr same), if_pos same]
          · rw [if_neg (fun equal => same (zero.mp equal)), if_neg same]
        · split
          · exact bounded
          · omega
      · obtain ⟨rfl, rfl⟩ : left = [] ∧ right = [] := by simpa using some
        refine ⟨0, ?_, by decide, .inl ⟨rfl, rfl⟩⟩
        rw [List.map_nil, firstDifference.eq_def, Number.zero_of_int]

theorem compare_exact (a b : String) (short : Short a) (brief : Short b) :
    ∃ difference, compare a b = .ofInt difference ∧ difference.natAbs < 2 ^ 53 ∧
      Decides (padded (places a)) (padded (places b)) difference := by
  rw [compare, parts_exact a short, parts_exact b brief]
  exact first_difference_decides (places a) (places b) (places_small a short) (places_small b brief)

theorem compare_order (a b : String) (short : Short a) (brief : Short b) :
    ((compare a b).equals 0 = true ↔ rank a = rank b) ∧ ((compare a b).positive = true ↔ rank b < rank a) := by
  obtain ⟨difference, found, bounded, decided⟩ := compare_exact a b short brief
  obtain ⟨equal, greater⟩ := decides_order decided
  rw [found]
  exact ⟨(Number.equals_zero_of_int difference bounded).trans equal, (Number.positive_of_int difference bounded).trans greater⟩

theorem compare_of_le {a b : String} (short : Short a) (brief : Short b) (below : rank b ≤ rank a) :
    (compare a b).positive = true ∨ (compare a b).equals 0 = true := by
  obtain ⟨equal, greater⟩ := compare_order a b short brief
  rcases lt_or_eq_of_le below with less | same
  · exact .inl (greater.mpr less)
  · exact .inr (equal.mpr same.symm)

theorem compare_sign (a b : String) (short : Short a) (brief : Short b) :
    ∃ difference, (compare a b).sign? = some (SignType.sign difference) ∧
      Decides (padded (places a)) (padded (places b)) difference := by
  obtain ⟨difference, found, bounded, decided⟩ := compare_exact a b short brief
  exact ⟨difference, by rw [found, Number.sign_of_int difference bounded, sign_apply], decided⟩

-- Versions whose numbers have at most fifteen digits are in a total preorder. Turned round, a comparison has the opposite
-- sign. A version no earlier than a second one, which is no earlier than a third, is no earlier than the third, and later if
-- one of the two is later than the next. Two versions are alike if their numbers are the same with zeros after the shorter
-- list; if not, the first place with different numbers decides.
theorem compare_preorder (a b c : String) (first : Short a) (second : Short b) (third : Short c) :
    let width := max (places a).length (places b).length
    let left := (places a).rightpad width 0
    let right := (places b).rightpad width 0
    ∃ front back whole : SignType, (compare a b).sign? = some front ∧ (compare b c).sign? = some back ∧
      (compare a c).sign? = some whole ∧ (compare b a).sign? = some (-front) ∧
      (0 ≤ front → 0 ≤ back → 0 ≤ whole ∧ (0 < front ∨ 0 < back → 0 < whole)) ∧
      (front = 0 ↔ left = right) ∧
      (left ≠ right → ∃ index x y, left.take index = right.take index ∧ left[index]? = some x ∧
        right[index]? = some y ∧ x ≠ y ∧ front = SignType.sign (x - y)) := by
  intro width left right
  obtain ⟨front, forth, one⟩ := compare_sign a b first second
  obtain ⟨back, onward, two⟩ := compare_sign b c second third
  obtain ⟨whole, across, both⟩ := compare_sign a c first third
  obtain ⟨reverse, turned, swapped⟩ := compare_sign b a second first
  have fits : (places a).length ≤ width := le_max_left _ _
  have holds : (places b).length ≤ width := le_max_right _ _
  have alike : front = 0 ↔ left = right := (decides_order one).1.trans (rightpad_eq_iff _ _ width fits holds).symm
  refine ⟨_, _, _, forth, onward, across, ?_, fun above more => ?_, sign_eq_zero_iff.trans alike, fun apart => ?_⟩
  · rw [turned, decides_unique swapped (decides_swap one), Left.sign_neg]
  · have together := decides_trans one two both (sign_nonneg_iff.mp above) (sign_nonneg_iff.mp more)
    simpa only [SignType.pos_iff, sign_eq_one_iff, sign_nonneg_iff] using together
  · obtain ⟨index, x, y, before, here, there, differ, rfl⟩ :=
      decides_place width fits holds one (fun none => apart (alike.mp none))
    exact ⟨index, x, y, before, here, there, differ, rfl⟩

theorem compare_preorder_lenient :
    Short "1.10" ∧ Short " +1.2 beta" ∧ Short "01.2.-0" ∧ (compare "1.10" " +1.2 beta").sign? = some 1 ∧
      (compare " +1.2 beta" "1.10").sign? = some (-1) ∧ (compare " +1.2 beta" "01.2.-0").sign? = some 0 ∧
      (compare "1.10" "01.2.-0").sign? = some 1 := by
  have latest : Short "1.10" := by unfold Short; decide
  have marked : Short " +1.2 beta" := by unfold Short; decide
  have long : Short "01.2.-0" := by unfold Short; decide
  obtain ⟨front, back, whole, forth, onward, across, turned, together, -, decided⟩ :=
    compare_preorder "1.10" " +1.2 beta" "01.2.-0" latest marked long
  obtain ⟨same, -, -, again, -, -, -, -, alike, -⟩ :=
    compare_preorder " +1.2 beta" "01.2.-0" "1.10" marked long latest
  have above : front = 1 := by
    obtain ⟨index, x, y, before, here, there, differ, sign⟩ := decided (by decide)
    have ours : (places "1.10").rightpad (max (places "1.10").length (places " +1.2 beta").length) 0 = [1, 10] := by decide
    have other : (places " +1.2 beta").rightpad (max (places "1.10").length (places " +1.2 beta").length) 0 = [1, 2] := by
      decide
    rw [ours] at before here
    rw [other] at before there
    rcases index with _ | _ | index
    · exact absurd ((Option.some.inj here).symm.trans (Option.some.inj there)) differ
    · rw [sign, ← Option.some.inj here, ← Option.some.inj there]
      rfl
    · simp at before
  have none : back = 0 := by
    rw [onward] at again
    exact (Option.some.inj again).trans (alike.mpr (by decide))
  subst above none
  have later : whole = 1 := SignType.pos_iff.mp ((together (by decide) (le_refl 0)).2 (.inl (by decide)))
  exact ⟨latest, marked, long, forth, turned, onward, later ▸ across⟩

theorem sorted_last {α β : Type} [LinearOrder β] (key : α → β) (items : List α) (distinct : items.Nodup) (last : α)
    (found : (items.mergeSort fun a b => decide (key a ≤ key b)).getLast? = some last) :
    ∃ before after, items = before ++ last :: after ∧ (∀ item ∈ before, key item ≤ key last) ∧
      ∀ item ∈ after, key item < key last := by
  let ordered (a b : α) : Bool := decide (key a ≤ key b)
  have trans (a b c : α) : ordered a b → ordered b c → ordered a c := by
    simp only [ordered, decide_eq_true_eq]
    exact le_trans
  have total (a b : α) : ordered a b || ordered b a := by simpa [ordered] using le_total (key a) (key b)
  have perm : (items.mergeSort ordered).Perm items := List.mergeSort_perm _ _
  obtain ⟨early, sorted⟩ := List.getLast?_eq_some_iff.mp found
  have pairs := List.pairwise_mergeSort trans total items
  have alone : last ∉ early := by
    have nodup := perm.nodup_iff.mpr distinct
    rw [sorted] at nodup
    exact fun member => (List.nodup_append.mp nodup).2.2 last member last (by simp) rfl
  have greatest : ∀ item ∈ items, key item ≤ key last := by
    intro item member
    have known := perm.mem_iff.mpr member
    rw [sorted] at known pairs
    rcases List.mem_append.mp known with earlier | here
    · simpa [ordered] using (List.pairwise_append.mp pairs).2.2 item earlier last (by simp)
    · rw [List.mem_singleton.mp here]
  have listed : last ∈ items := perm.mem_iff.mp (sorted ▸ List.mem_append_right early (List.mem_singleton_self last))
  obtain ⟨before, after, rfl⟩ := List.append_of_mem listed
  refine ⟨before, after, rfl, fun item member => greatest item (List.mem_append_left _ member), fun item member => ?_⟩
  refine lt_of_le_of_ne (greatest item (by simp [member])) fun same => ?_
  -- Sorting would have left an equal item that came later behind this one.
  have behind : [last, item].Sublist (before ++ last :: after) :=
    ((List.singleton_sublist.mpr member).cons_cons last).trans (List.sublist_append_right before _)
  have kept := List.pair_sublist_mergeSort trans total (by simp [ordered, same]) behind
  rw [sorted] at kept
  obtain ⟨front, back, split, within, rest⟩ := List.sublist_append_iff.mp kept
  cases front with
  | nil =>
      have short := rest.length_le
      rw [List.nil_append] at split
      rw [← split] at short
      simp at short
  | cons first others =>
      have same : first = last := (List.cons.inj split).1.symm
      exact alone (same ▸ within.subset List.mem_cons_self)

theorem sorted_by_rank (versions : List String) (short : ∀ version ∈ versions, Short version) :
    (versions.mergeSort fun a b => !(compare a b).positive) = versions.mergeSort fun a b => decide (rank a ≤ rank b) := by
  let ordered (a b : String) : Bool := decide (rank a ≤ rank b)
  have agree : ∀ a ∈ versions, ∀ b ∈ versions, (!(compare a b).positive) = ordered (id a) (id b) := by
    intro a first b second
    have order := (compare_order a b (short a first) (short b second)).2
    rw [Bool.eq_iff_iff, Bool.not_eq_true', ← Bool.not_eq_true, order]
    exact not_lt.trans decide_eq_true_iff.symm
  -- Versions that are not short need not be in any order, so the comparisons agree on the given ones alone.
  have same := List.map_mergeSort (r := fun a b => !(compare a b).positive) (s := ordered) agree
  rwa [List.map_id, List.map_id] at same

theorem latest_found (versions : List String) (short : ∀ version ∈ versions, Short version) (distinct : versions.Nodup)
    (filled : versions ≠ []) :
    ∃ before latest after, latest? versions = some latest ∧ versions = before ++ latest :: after ∧
      (∀ version ∈ before, rank version ≤ rank latest) ∧ ∀ version ∈ after, rank version < rank latest := by
  have sorted := sorted_by_rank versions short
  have length := (List.mergeSort_perm versions fun a b => decide (rank a ≤ rank b)).length_eq
  rcases found : (versions.mergeSort fun a b => decide (rank a ≤ rank b)).getLast? with _ | latest
  · rw [List.getLast?_eq_none_iff.mp found] at length
    exact absurd (List.length_eq_zero_iff.mp length.symm) filled
  · obtain ⟨before, after, split, early, late⟩ := sorted_last rank versions distinct latest found
    exact ⟨before, latest, after, by rw [latest?, sorted, found], split, early, late⟩

end DeviceLogin.Version
