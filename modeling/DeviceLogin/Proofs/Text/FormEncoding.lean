import DeviceLogin.Proofs.Text.FormDecoding

set_option autoImplicit false

namespace DeviceLogin.Text.Form

def isPlain (c : Char) : Bool := c.isAlphanum || c == '*' || c == '-' || c == '.' || c == '_'

def isUpperHexDigit (c : Char) : Bool := c.isDigit || ('A' ≤ c && c ≤ 'F')

inductive Spelled : List Char → Prop
  | nil : Spelled []
  | plain {c : Char} {rest : List Char} (kept : isPlain c = true) (later : Spelled rest) : Spelled (c :: rest)
  | space {rest : List Char} (later : Spelled rest) : Spelled ('+' :: rest)
  | byte {high low : Char} {rest : List Char} (first : isUpperHexDigit high = true)
      (second : isUpperHexDigit low = true) (later : Spelled rest) : Spelled ('%' :: high :: low :: rest)

def marks : List Char := ['=', '&', '\n', '\r', Char.ofNat 0x2028, Char.ofNat 0x2029]

theorem plain_iff_keeps (c : Char) : isPlain c = true ↔ keeps c.toNat = true := by
  have code (other : Char) : c = other ↔ c.toNat = other.toNat := Char.toNat_inj.symm
  have upper : c.isUpper = decide (65 ≤ c.val ∧ c.val ≤ 90) := rfl
  have lower : c.isLower = (decide (97 ≤ c.val) && decide (c.val ≤ 122)) := rfl
  have digit : c.isDigit = (decide (48 ≤ c.val) && decide (c.val ≤ 57)) := rfl
  have kinds : c.isAlphanum = (c.isUpper || c.isLower || c.isDigit) := rfl
  simp only [isPlain, keeps, kinds, upper, lower, digit, Bool.or_eq_true, Bool.and_eq_true, decide_eq_true_eq, beq_iff_eq,
    code, UInt32.le_iff_toNat_le, Char.toNat_val, Char.reduceToNat, UInt32.reduceToNat]
  omega

theorem upper_hex_digit : ∀ value < 16, isUpperHexDigit (hexDigitUpper value) = true := by decide

theorem spelled_byte (byte : UInt8) (rest : List Char) (later : Spelled rest) :
    Spelled (encodeByte byte.toNat ++ rest) := by
  have small := byte.toNat_lt
  unfold encodeByte
  split
  · next kept =>
    refine .plain ((plain_iff_keeps _).mpr ?_) later
    rwa [code_of_byte _ small]
  split
  · exact .space later
  · exact .byte (upper_hex_digit _ (by omega)) (upper_hex_digit _ (by omega)) later

theorem spelled_bytes (bytes : List UInt8) : Spelled (bytes.flatMap fun byte => encodeByte byte.toNat) := by
  induction bytes with
  | nil => exact .nil
  | cons byte rest ih => exact spelled_byte byte _ ih

theorem encode_append (first rest : String) : encode (first ++ rest) = encode first ++ encode rest := by
  apply String.toList_injective
  simp only [encode, utf8, String.toList_append, String.toList_ofList, List.flatMap_append]

theorem encode_plain (c : Char) (plain : isPlain c = true) : encode (String.singleton c) = String.singleton c := by
  have kept := (plain_iff_keeps c).mp plain
  have small := kept_ascii _ kept
  have bytes : String.utf8EncodeChar c = [UInt8.ofNat c.toNat] := by
    have encoded := (kept_plain _ small kept).2.2
    rwa [Char.ofNat_toNat] at encoded
  have code : (UInt8.ofNat c.toNat).toNat = c.toNat := UInt8.toNat_ofNat_of_lt' (small.trans (by decide))
  apply String.toList_injective
  simp [encode, utf8, bytes, encodeByte, code, kept]

-- Form encoding loses nothing. An encoded text is made of letters, digits, `*-._`, pluses and bytes in two upper-case
-- hexadecimal digits behind a percent sign. Characters that may stand as they are keep their places, between the encoded
-- texts before and behind them. Reading the pluses as spaces and the digits as bytes gives the bytes of the text, and so
-- the text; no two texts are encoded alike, and none has a sign of equality, an ampersand or a line break in it.
theorem encode_lossless :
    (∀ value, Spelled (encode value).toList ∧ decodeBytes (encode value).toList = utf8 value ∧
      decode (encode value).toList = value ∧ ∀ mark ∈ marks, mark ∉ (encode value).toList) ∧
    (∀ before c after, isPlain c = true →
      encode (before ++ String.singleton c ++ after) = encode before ++ String.singleton c ++ encode after) ∧
    Function.Injective encode := by
  refine ⟨fun value => ⟨?_, ?_, decode_encode value, ?_⟩, ?_, ?_⟩
  · rw [encode, String.toList_ofList]
    exact spelled_bytes (utf8 value)
  · rw [encode, String.toList_ofList, decode_bytes]
  · intro mark listed
    have foreign : ∀ mark ∈ marks, isFormChar mark = false := by simp [marks, isFormChar, keeps]
    exact encoded_without value mark (foreign mark listed)
  · intro before c after plain
    rw [encode_append, encode_append, encode_plain c plain]
  · intro one two same
    have read := congrArg (fun text => decode text.toList) same
    simpa only [decode_encode] using read

example : encode "a b+é😀" = "a+b%2B%C3%A9%F0%9F%98%80" := by decide +kernel

end DeviceLogin.Text.Form
