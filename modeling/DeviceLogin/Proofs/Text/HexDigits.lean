import Mathlib.Data.List.Induction
import DeviceLogin.Proofs.Json.Quoting
import DeviceLogin.Text.Caseless

set_option autoImplicit false

namespace DeviceLogin.Text

theorem hex_digit_ascii (c : Char) (digit : isHexDigit c = true) : c.toNat < 128 := by
  simp only [isHexDigit, hexValue?, Bool.and_eq_true, decide_eq_true_eq] at digit
  split at digit
  · omega
  split at digit
  · omega
  split at digit
  · omega
  · cases digit

theorem hex_digit_code : ∀ code < 128, isHexDigit (Char.ofNat code) = true →
    (hexValue? (Char.ofNat code)).getD 0 < 16 ∧
      hexDigit ((hexValue? (Char.ofNat code)).getD 0) = (Char.ofNat code).toLower := by
  decide

theorem hex_digit_value (c : Char) (digit : isHexDigit c = true) :
    ∃ value < 16, hexValue? c = some value ∧ hexDigit value = c.toLower := by
  obtain ⟨value, found⟩ := Option.isSome_iff_exists.mp digit
  have known := hex_digit_code c.toNat (hex_digit_ascii c digit)
  rw [Char.ofNat_toNat, found, Option.getD_some] at known
  obtain ⟨small, lower⟩ := known digit
  exact ⟨value, small, found, lower⟩

theorem same_value_iff (a b : Char) (first : isHexDigit a = true) (second : isHexDigit b = true) :
    hexValue? a = hexValue? b ↔ a.toLower = b.toLower := by
  obtain ⟨one, oneSmall, oneFound, oneLower⟩ := hex_digit_value a first
  obtain ⟨two, twoSmall, twoFound, twoLower⟩ := hex_digit_value b second
  rw [oneFound, twoFound, ← oneLower, ← twoLower, Option.some_inj]
  constructor
  · rintro rfl
    rfl
  · intro same
    have values := congrArg hexValue? same
    rw [hex_value_digit one oneSmall, hex_value_digit two twoSmall] at values
    exact Option.some.inj values

theorem bytes_of_pair (high low : Char) (rest : List Char) (h l : Nat) (first : hexValue? high = some h)
    (second : hexValue? low = some l) : bytesOfHex (high :: low :: rest) = UInt8.ofNat (16 * h + l) :: bytesOfHex rest := by
  rw [bytesOfHex, first, second]

theorem byte_spelled (digits : List Char) (hex : ∀ c ∈ digits, isHexDigit c = true) (place : Nat)
    (within : 2 * place + 1 < digits.length) :
    ∃ high low h l, digits[2 * place]? = some high ∧ digits[2 * place + 1]? = some low ∧ hexValue? high = some h ∧
      hexValue? low = some l ∧ (bytesOfHex digits)[place]? = some (UInt8.ofNat (16 * h + l)) := by
  induction digits using List.twoStepInduction generalizing place with
  | nil => simp at within
  | singleton c => simp at within
  | cons_cons high low rest ih _ =>
      obtain ⟨h, -, first, -⟩ := hex_digit_value high (hex high (by simp))
      obtain ⟨l, -, second, -⟩ := hex_digit_value low (hex low (by simp))
      rw [bytes_of_pair high low rest h l first second]
      cases place with
      | zero => exact ⟨high, low, h, l, rfl, rfl, first, second, rfl⟩
      | succ before =>
          have shorter : 2 * before + 1 < rest.length := by
            simp only [List.length_cons] at within
            omega
          simpa [Nat.mul_add] using ih (fun c member => hex c (by simp [member])) before shorter

theorem bytes_length (digits : List Char) (hex : ∀ c ∈ digits, isHexDigit c = true) :
    (bytesOfHex digits).length = digits.length / 2 := by
  induction digits using List.twoStepInduction with
  | nil => rfl
  | singleton c => simp [bytesOfHex]
  | cons_cons high low rest ih _ =>
      obtain ⟨h, -, first, -⟩ := hex_digit_value high (hex high (by simp))
      obtain ⟨l, -, second, -⟩ := hex_digit_value low (hex low (by simp))
      rw [bytes_of_pair high low rest h l first second, List.length_cons, ih fun c member => hex c (by simp [member]),
        List.length_cons, List.length_cons]
      omega

theorem same_pair_iff (h l other another : Nat) (one : h < 16) (two : l < 16) (three : other < 16) (four : another < 16) :
    UInt8.ofNat (16 * h + l) = UInt8.ofNat (16 * other + another) ↔ h = other ∧ l = another := by
  rw [← UInt8.toNat_inj, UInt8.toNat_ofNat_of_lt' (show 16 * h + l < 256 by omega),
    UInt8.toNat_ofNat_of_lt' (show 16 * other + another < 256 by omega)]
  omega

theorem same_bytes_iff (digits others : List Char) (hex : ∀ c ∈ digits, isHexDigit c = true)
    (also : ∀ c ∈ others, isHexDigit c = true) (even : digits.length % 2 = 0) (same : others.length = digits.length) :
    bytesOfHex digits = bytesOfHex others ↔ digits.map Char.toLower = others.map Char.toLower := by
  induction digits using List.twoStepInduction generalizing others with
  | nil => simp [List.length_eq_zero_iff.mp same]
  | singleton c => simp at even
  | cons_cons high low rest ih _ =>
      match others, same with
      | big :: small :: tail, same =>
          have high_digit := hex high (by simp)
          have low_digit := hex low (by simp)
          have big_digit := also big (by simp)
          have small_digit := also small (by simp)
          obtain ⟨h, one, first, -⟩ := hex_digit_value high high_digit
          obtain ⟨l, two, second, -⟩ := hex_digit_value low low_digit
          obtain ⟨b, three, third, -⟩ := hex_digit_value big big_digit
          obtain ⟨s, four, fourth, -⟩ := hex_digit_value small small_digit
          have upper := same_value_iff high big high_digit big_digit
          have lower := same_value_iff low small low_digit small_digit
          rw [first, third, Option.some_inj] at upper
          rw [second, fourth, Option.some_inj] at lower
          have shorter : rest.length % 2 = 0 := by
            simp only [List.length_cons] at even
            omega
          have later := ih tail (fun c member => hex c (by simp [member])) (fun c member => also c (by simp [member]))
            shorter (by simpa using same)
          rw [bytes_of_pair high low rest h l first second, bytes_of_pair big small tail b s third fourth, List.cons_eq_cons,
            same_pair_iff h l b s one two three four, upper, lower, later]
          simp [and_assoc]

theorem lower_after_ascii (before text : List Char) (ascii : ∀ c ∈ text, c.toNat < 128) :
    lowerAfter before text = text.map Char.toLower := by
  induction text generalizing before with
  | nil => rfl
  | cons c rest ih =>
      have small := ascii c List.mem_cons_self
      have sigma : c.toNat ≠ 0x3A3 := by omega
      rw [lowerAfter, ih (c :: before) fun c member => ascii c (List.mem_cons_of_mem _ member)]
      simp [lowerChar, sigma, small]

theorem same_caseless_digits (digits others : List Char) (hex : ∀ c ∈ digits, isHexDigit c = true)
    (also : ∀ c ∈ others, isHexDigit c = true) :
    sameCaseless (String.ofList digits) (String.ofList others) = true ↔ digits.map Char.toLower = others.map Char.toLower := by
  rw [sameCaseless, beq_iff_eq, lowercase, lowercase, String.toList_ofList, String.toList_ofList,
    lower_after_ascii [] digits fun c member => hex_digit_ascii c (hex c member),
    lower_after_ascii [] others fun c member => hex_digit_ascii c (also c member), String.ofList_inj]

end DeviceLogin.Text
