import Mathlib.Data.List.Induction
import Mathlib.Data.Nat.Digits.Defs
import Mathlib.Data.Sign.Defs
import DeviceLogin.Number.Decimal

set_option autoImplicit false

namespace DeviceLogin.Number

theorem spare_bits_le (units bits : Nat) (small : units < 2 ^ (53 + bits)) : spareBits units ≤ bits := by
  unfold spareBits
  split
  · exact Nat.zero_le bits
  · next large =>
    have filled : units ≠ 0 := by
      rintro rfl
      exact large (Nat.two_pow_pos 53)
    have below := (Nat.log2_lt filled).mpr small
    omega

theorem of_ratio_exact (negative : Bool) (units : Nat) (even : 2 ^ spareBits units ∣ units) (bounded : units < unitsLimit) :
    ofRatio negative units 1 = .finite negative units := by
  have rest : units % 2 ^ spareBits units = 0 := Nat.mod_eq_zero_of_dvd even
  have whole : units / 2 ^ spareBits units * 2 ^ spareBits units = units := Nat.div_mul_cancel even
  have positive : 0 < 2 ^ spareBits units := Nat.two_pow_pos _
  have up : ¬ (2 ^ spareBits units < 2 * 0 ∨
      2 * 0 = 2 ^ spareBits units ∧ units / 2 ^ spareBits units % 2 = 1) := by omega
  simp only [ofRatio, Nat.div_one, Nat.one_mul, Nat.pow_eq, rest, Bool.or_eq_true, Bool.and_eq_true, decide_eq_true_eq,
    beq_iff_eq, if_neg up, whole, if_pos bounded]

theorem of_ratio_shifted (negative : Bool) (n bits : Nat) (small : n < 2 ^ 53) (room : 53 + bits ≤ 2098) :
    ofRatio negative (n * 2 ^ bits) 1 = .finite negative (n * 2 ^ bits) := by
  have below : n * 2 ^ bits < 2 ^ (53 + bits) := by
    rw [Nat.pow_add]
    exact Nat.mul_lt_mul_of_pos_right small (Nat.two_pow_pos bits)
  have limit : unitsLimit = 2 ^ 2098 := Nat.pow_eq
  have bounded : n * 2 ^ bits < unitsLimit := by
    rw [limit]
    exact Nat.lt_of_lt_of_le below (Nat.pow_le_pow_right (by decide) room)
  refine of_ratio_exact negative _ ?_ bounded
  exact (Nat.pow_dvd_pow 2 (spare_bits_le _ bits below)).trans (Nat.dvd_mul_left ..)

theorem one_eq : one = 2 ^ 1074 := Nat.pow_eq

theorem one_positive : 0 < one := one_eq ▸ Nat.two_pow_pos _

theorem of_ratio_integer (negative : Bool) (n : Nat) (small : n < 2 ^ 53) :
    ofRatio negative (n * one) 1 = .finite negative (n * one) := by
  rw [one_eq]
  exact of_ratio_shifted negative n 1074 small (by decide)

theorem of_int_exact (n : Int) (small : n.natAbs < 2 ^ 53) : ofInt n = .finite (n < 0) (n.natAbs * one) :=
  of_ratio_integer _ _ small

theorem zero_exact : (0 : Number) = .finite false 0 := by
  change ofNat 0 = _
  rw [ofNat, of_ratio_integer false 0 (by decide), Nat.zero_mul]

theorem zero_of_int : (0 : Number) = ofInt 0 := by
  rw [zero_exact, of_int_exact 0 (by decide)]
  simp

theorem signed_units_integer (n : Int) : signedUnits (n < 0) (n.natAbs * one) = n * one := by
  unfold signedUnits
  by_cases below : n < 0
  · simp only [below, decide_true, if_true]
    rw [Int.natCast_mul, Int.ofNat_natAbs_of_nonpos (by omega), Int.neg_mul, Int.neg_neg]
  · simp only [below, decide_false, Bool.false_eq_true, if_false]
    rw [Int.natCast_mul, Int.natAbs_of_nonneg (by omega)]

theorem sub_of_int (x y : Int) (left : x.natAbs < 2 ^ 53) (right : y.natAbs < 2 ^ 53) :
    (ofInt x).sub (ofInt y) = ofInt (x - y) := by
  have scaled : x * one - y * one = (x - y) * (one : Int) := (Int.sub_mul ..).symm
  have below : (x - y) * (one : Int) < 0 ↔ x - y < 0 := by
    have positive : (0 : Int) < one := by exact_mod_cast one_positive
    constructor
    · exact fun product => by
        by_contra above
        exact absurd (Int.mul_nonneg (by omega) (by omega)) (by omega : ¬ 0 ≤ (x - y) * (one : Int))
    · exact fun negative => Int.mul_neg_of_neg_of_pos negative positive
  rw [of_int_exact x left, of_int_exact y right, sub, signed_units_integer, signed_units_integer, scaled, ofInt]
  simp only [below, Int.natAbs_mul, Int.natAbs_natCast]

theorem units_zero_iff (n : Int) : n.natAbs * one = 0 ↔ n = 0 := by
  rw [Nat.mul_eq_zero, Int.natAbs_eq_zero]
  exact or_iff_left (Nat.ne_of_gt one_positive)

theorem positive_of_int (n : Int) (small : n.natAbs < 2 ^ 53) : (ofInt n).positive = true ↔ 0 < n := by
  rw [of_int_exact n small, positive]
  simp only [Bool.and_eq_true, Bool.not_eq_true', decide_eq_false_iff_not, bne_iff_ne, ne_eq, units_zero_iff]
  omega

theorem equals_zero_of_int (n : Int) (small : n.natAbs < 2 ^ 53) : (ofInt n).equals 0 = true ↔ n = 0 := by
  rw [of_int_exact n small, zero_exact, equals]
  simp only [Bool.and_eq_true, Bool.or_eq_true, beq_iff_eq, units_zero_iff]
  exact ⟨And.left, fun zero => ⟨zero, .inr zero⟩⟩

def sign? : Number → Option SignType
  | .nan => none
  | .infinite negative => some (if negative then -1 else 1)
  | .finite negative units => some (if units = 0 then 0 else if negative then -1 else 1)

theorem sign_of_int (n : Int) (small : n.natAbs < 2 ^ 53) :
    (ofInt n).sign? = some (if 0 < n then 1 else if n < 0 then -1 else 0) := by
  rw [of_int_exact n small, sign?]
  simp only [units_zero_iff, decide_eq_true_eq]
  rcases Int.lt_trichotomy n 0 with below | rfl | above
  · rw [if_neg (Int.ne_of_lt below), if_pos below, if_neg (Int.lt_asymm below), if_pos below]
  · rfl
  · rw [if_neg (Int.ne_of_gt above), if_neg (Int.lt_asymm above), if_pos above]

theorem value_append (digits : List Char) (c : Char) : valueOf (digits ++ [c]) = 10 * valueOf digits + digitValue c := by
  simp [valueOf]

theorem value_bound (digits : List Char) (spelled : ∀ c ∈ digits, c.isDigit = true) :
    valueOf digits < 10 ^ digits.length := by
  induction digits using List.reverseRecOn with
  | nil => simp [valueOf]
  | append_singleton digits c ih =>
      have earlier := ih fun other member => spelled other (List.mem_append_left _ member)
      have last : digitValue c < 10 := by
        have digit := spelled c (by simp)
        simp only [Char.isDigit, Bool.and_eq_true, decide_eq_true_eq] at digit
        have upper : c.toNat ≤ 57 := digit.2
        rw [digitValue]
        omega
      rw [value_append, List.length_append, List.length_singleton, Nat.pow_succ]
      omega

theorem of_decimal_integer (negative : Bool) (n : Nat) (small : n < 10 ^ 15) :
    ofDecimal negative n 0 = .finite negative (n * one) := by
  have count : digitCount n ≤ 15 := Nat.toDigits_length 10 n 15 (by decide) small
  have fits : n < 2 ^ 53 := by omega
  by_cases zero : n = 0
  · simp [ofDecimal, zero]
  · have above : ¬ (n = 0 ∨ (digitCount n : Int) + 0 < -323) := by omega
    have below : ¬ (310 < (digitCount n : Int) + 0) := by omega
    simp only [ofDecimal, Bool.or_eq_true, decide_eq_true_eq, if_neg above, if_neg below, Int.le_refl, if_true, Int.toNat_zero,
      Nat.pow_eq, Nat.pow_zero, Nat.mul_one]
    exact of_ratio_integer negative n fits

end DeviceLogin.Number
