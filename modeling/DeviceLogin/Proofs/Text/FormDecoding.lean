import DeviceLogin.Proofs.Text.Encodings
import DeviceLogin.Text.Form

set_option autoImplicit false

namespace DeviceLogin.Text.Form

def decodeBytes : List Char → List UInt8
  | [] => []
  | '%' :: high :: low :: rest =>
      match hexValue? high, hexValue? low with
      | some h, some l => UInt8.ofNat (16 * h + l) :: decodeBytes rest
      | _, _ => 0x25 :: decodeBytes (high :: low :: rest)
  | c :: rest => (if c = '+' then [0x20] else String.utf8EncodeChar c) ++ decodeBytes rest

def decode (text : List Char) : String := ofUtf8 (decodeBytes text)

def isFormChar (c : Char) : Bool := keeps c.toNat || c == '+' || c == '%'

theorem hex_value_digit_upper : ∀ value < 16, hexValue? (hexDigitUpper value) = some value := by decide

theorem digit_form_char : ∀ value < 16, isFormChar (hexDigitUpper value) = true := by decide

theorem kept_plain : ∀ byte < 128, keeps byte = true →
    Char.ofNat byte ≠ '%' ∧ Char.ofNat byte ≠ '+' ∧ String.utf8EncodeChar (Char.ofNat byte) = [UInt8.ofNat byte] := by
  decide +kernel

theorem kept_ascii (byte : Nat) (kept : keeps byte = true) : byte < 128 := by
  simp only [keeps, Bool.or_eq_true, Bool.and_eq_true, decide_eq_true_eq, beq_iff_eq] at kept
  omega

theorem decode_plain (c : Char) (rest : List Char) (unmarked : c ≠ '%') :
    decodeBytes (c :: rest) = (if c = '+' then [0x20] else String.utf8EncodeChar c) ++ decodeBytes rest := by
  rw [decodeBytes]
  rintro high low tail rfl
  exact absurd rfl unmarked

theorem decode_byte (byte : UInt8) (rest : List Char) :
    decodeBytes (encodeByte byte.toNat ++ rest) = byte :: decodeBytes rest := by
  have small := byte.toNat_lt
  unfold encodeByte
  split
  · next kept =>
    obtain ⟨unmarked, other, encoded⟩ := kept_plain byte.toNat (kept_ascii _ kept) kept
    rw [List.singleton_append, decode_plain _ _ unmarked, if_neg other, encoded]
    simp
  split
  · next space =>
    have same : byte = 0x20 := UInt8.toNat_inj.mp space
    rw [List.singleton_append, decode_plain _ _ (by decide), if_pos rfl, same]
    rfl
  · have high := hex_value_digit_upper (byte.toNat / 16) (by omega)
    have low := hex_value_digit_upper (byte.toNat % 16) (by omega)
    have whole : 16 * (byte.toNat / 16) + byte.toNat % 16 = byte.toNat := by omega
    simp [decodeBytes, high, low, whole, -UInt8.ofNat_add]

theorem decode_bytes (bytes : List UInt8) :
    decodeBytes (bytes.flatMap fun byte => encodeByte byte.toNat) = bytes := by
  induction bytes with
  | nil => rfl
  | cons byte rest ih => rw [List.flatMap_cons, decode_byte, ih]

theorem decode_encode (value : String) : decode (encode value).toList = value := by
  rw [decode, encode, String.toList_ofList, decode_bytes, of_utf8_utf8]

theorem code_of_byte (byte : Nat) (small : byte < 256) : (Char.ofNat byte).toNat = byte := by
  have valid : byte.isValidChar := .inl (by omega)
  rw [Char.ofNat, dif_pos valid]
  rfl

theorem encoded_byte_chars (byte : Nat) (small : byte < 256) : ∀ c ∈ encodeByte byte, isFormChar c = true := by
  intro c member
  unfold encodeByte at member
  split at member
  · next kept =>
    have same : c = Char.ofNat byte := List.mem_singleton.mp member
    rw [isFormChar, same, code_of_byte byte small, kept]
    rfl
  split at member
  · rw [List.mem_singleton.mp member]
    decide
  · simp only [List.mem_cons, List.not_mem_nil, or_false] at member
    rcases member with rfl | rfl | rfl
    · decide
    · exact digit_form_char (byte / 16) (by omega)
    · exact digit_form_char (byte % 16) (by omega)

theorem encoded_chars (value : String) : ∀ c ∈ (encode value).toList, isFormChar c = true := by
  intro c member
  rw [encode, String.toList_ofList, List.mem_flatMap] at member
  obtain ⟨byte, -, here⟩ := member
  exact encoded_byte_chars byte.toNat byte.toNat_lt c here

theorem encoded_without (value : String) (c : Char) (foreign : isFormChar c = false) : c ∉ (encode value).toList := by
  intro member
  rw [encoded_chars value c member] at foreign
  cases foreign

end DeviceLogin.Text.Form
