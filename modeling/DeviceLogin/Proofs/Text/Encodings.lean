import Mathlib.Tactic.IntervalCases
import DeviceLogin.Text.Base64
import DeviceLogin.Text.Utf8

set_option autoImplicit false

namespace DeviceLogin.Text

theorem begin_pair (lead : Nat) (least : 2 ≤ lead) (most : lead < 32) :
    beginChar (lead + 192) = ([], some ⟨1, lead, 0x80, 0xBF⟩) := by
  interval_cases lead <;> rfl

theorem begin_triple (lead : Nat) (most : lead < 16) :
    beginChar (lead + 224) =
      ([], some ⟨2, lead, if lead = 0 then 0xA0 else 0x80, if lead = 13 then 0x9F else 0xBF⟩) := by
  interval_cases lead <;> rfl

theorem begin_quadruple (lead : Nat) (most : lead < 5) :
    beginChar (lead + 240) =
      ([], some ⟨3, lead, if lead = 0 then 0x90 else 0x80, if lead = 4 then 0x8F else 0xBF⟩) := by
  interval_cases lead <;> rfl

theorem decode_more (missing bits low high part : Nat) (rest : List UInt8) (least : low ≤ part + 128)
    (most : part + 128 ≤ high) (small : part < 64) :
    decodeFrom (some ⟨missing + 2, bits, low, high⟩) (UInt8.ofNat (part + 128) :: rest) =
      decodeFrom (some ⟨missing + 1, bits * 64 + part, 0x80, 0xBF⟩) rest := by
  have byte : (part + 128) % 256 = part + 128 := by omega
  simp [decodeFrom, byte, least, most]

theorem decode_last (bits low high part : Nat) (rest : List UInt8) (least : low ≤ part + 128)
    (most : part + 128 ≤ high) (small : part < 64) :
    decodeFrom (some ⟨1, bits, low, high⟩) (UInt8.ofNat (part + 128) :: rest) =
      Char.ofNat (bits * 64 + part) :: decodeFrom none rest := by
  have byte : (part + 128) % 256 = part + 128 := by omega
  simp [decodeFrom, byte, least, most]

theorem decode_lead (byte : Nat) (pending : Pending) (rest : List UInt8) (small : byte < 256)
    (begins : beginChar byte = ([], some pending)) :
    decodeFrom none (UInt8.ofNat byte :: rest) = decodeFrom (some pending) rest := by
  have same : byte % 256 = byte := by omega
  simp [decodeFrom, same, begins]

theorem decode_char (c : Char) (rest : List UInt8) :
    decodeFrom none (String.utf8EncodeChar c ++ rest) = c :: decodeFrom none rest := by
  have code : Char.ofNat c.val.toNat = c := Char.ofNat_toNat c
  have valid : c.val.toNat < 0xD800 ∨ 0xDFFF < c.val.toNat ∧ c.val.toNat < 0x110000 := c.valid
  simp only [String.utf8EncodeChar]
  generalize c.val.toNat = point at code valid
  -- The cases are those of the encoding, by the number of bytes.
  split
  · next one =>
    have byte : point % 256 = point := by omega
    have small : point < 128 := by omega
    simp [decodeFrom, byte, beginChar, small, code]
  split
  · next two =>
    have begins := begin_pair (point / 64 % 32) (by omega) (by omega)
    have whole : point / 64 % 32 * 64 + point % 64 = point := by omega
    rw [List.cons_append, List.cons_append, List.nil_append, decode_lead _ _ _ (by omega) begins,
      decode_last _ _ _ _ _ (by omega) (by omega) (by omega), whole, code]
  split
  · next three =>
    have begins := begin_triple (point / 4096 % 16) (by omega)
    have whole : (point / 4096 % 16 * 64 + point / 64 % 64) * 64 + point % 64 = point := by omega
    rw [List.cons_append, List.cons_append, List.cons_append, List.nil_append, decode_lead _ _ _ (by omega) begins,
      decode_more _ _ _ _ _ _ (by split <;> omega) (by split <;> omega) (by omega),
      decode_last _ _ _ _ _ (by omega) (by omega) (by omega), whole, code]
  · have begins := begin_quadruple (point / 262144 % 8) (by omega)
    have whole : ((point / 262144 % 8 * 64 + point / 4096 % 64) * 64 + point / 64 % 64) * 64 + point % 64 = point := by
      omega
    rw [List.cons_append, List.cons_append, List.cons_append, List.cons_append, List.nil_append,
      decode_lead _ _ _ (by omega) begins, decode_more _ _ _ _ _ _ (by split <;> omega) (by split <;> omega) (by omega),
      decode_more _ _ _ _ _ _ (by omega) (by omega) (by omega), decode_last _ _ _ _ _ (by omega) (by omega) (by omega),
      whole, code]

theorem of_utf8_utf8 (text : String) : ofUtf8 (utf8 text) = text := by
  have chars (text : List Char) : decodeFrom none (text.flatMap String.utf8EncodeChar) = text := by
    induction text with
    | nil => rfl
    | cons c rest ih => rw [List.flatMap_cons, decode_char, ih]
  rw [ofUtf8, utf8, chars, String.ofList_toList]

def replacement : Char := Char.ofNat 0xFFFD

-- A text whose end is missing. The character within which it was cut may be left as the replacement.
inductive BreaksOff : List Char → List Char → Prop
  | before (c : Char) (rest : List Char) : BreaksOff (c :: rest) []
  | within (c : Char) (rest : List Char) : BreaksOff (c :: rest) [replacement]
  | behind (c : Char) {rest kept : List Char} (cut : BreaksOff rest kept) : BreaksOff (c :: rest) (c :: kept)

theorem breaks_nil (kept : List Char) : ¬ BreaksOff [] kept := nofun

theorem breaks_cons (c : Char) (rest kept : List Char) :
    BreaksOff (c :: rest) kept ↔ kept = [] ∨ kept = [replacement] ∨ ∃ tail, kept = c :: tail ∧ BreaksOff rest tail := by
  constructor
  · intro cut
    cases cut with
    | before => exact .inl rfl
    | within => exact .inr (.inl rfl)
    | behind c cut => exact .inr (.inr ⟨_, rfl, cut⟩)
  · rintro (rfl | rfl | ⟨tail, rfl, cut⟩)
    · exact .before c rest
    · exact .within c rest
    · exact .behind c cut

theorem breaks_append {first rest kept : List Char} (cut : BreaksOff (first ++ rest) kept) :
    BreaksOff first kept ∨ ∃ tail, kept = first ++ tail ∧ BreaksOff rest tail := by
  induction first generalizing kept with
  | nil => exact .inr ⟨kept, rfl, cut⟩
  | cons c more ih =>
      rcases (breaks_cons c _ kept).mp cut with rfl | rfl | ⟨tail, rfl, later⟩
      · exact .inl (.before c more)
      · exact .inl (.within c more)
      · rcases ih later with inside | ⟨last, rfl, outside⟩
        · exact .inl (.behind c inside)
        · exact .inr ⟨last, rfl, outside⟩

theorem decode_cut (c : Char) (count : Nat) (cut : count < (String.utf8EncodeChar c).length) :
    decodeFrom none ((String.utf8EncodeChar c).take count) = [] ∨
      decodeFrom none ((String.utf8EncodeChar c).take count) = [replacement] := by
  have valid : c.val.toNat < 0xD800 ∨ 0xDFFF < c.val.toNat ∧ c.val.toNat < 0x110000 := c.valid
  cases count with
  | zero => exact .inl rfl
  | succ more =>
      right
      simp only [String.utf8EncodeChar] at cut ⊢
      generalize c.val.toNat = point at cut valid ⊢
      split at cut
      · simp at cut
      · next one =>
        rw [if_neg one]
        split at cut
        · next two =>
          have begins := begin_pair (point / 64 % 32) (by omega) (by omega)
          obtain rfl : more = 0 := by simp at cut; omega
          rw [if_pos two, List.take_succ_cons, List.take_zero, decode_lead _ _ _ (by omega) begins]
          rfl
        · next two =>
          rw [if_neg two]
          split at cut
          · next three =>
            have begins := begin_triple (point / 4096 % 16) (by omega)
            rw [if_pos three, List.take_succ_cons, decode_lead _ _ _ (by omega) begins]
            obtain rfl | rfl : more = 0 ∨ more = 1 := by simp at cut; omega
            · rfl
            · rw [List.take_succ_cons, List.take_zero, decode_more _ _ _ _ _ _ (by split <;> omega) (by split <;> omega) (by omega)]
              rfl
          · next three =>
            have begins := begin_quadruple (point / 262144 % 8) (by omega)
            rw [if_neg three, List.take_succ_cons, decode_lead _ _ _ (by omega) begins]
            obtain rfl | rfl | rfl : more = 0 ∨ more = 1 ∨ more = 2 := by simp at cut; omega
            · rfl
            · rw [List.take_succ_cons, List.take_zero, decode_more _ _ _ _ _ _ (by split <;> omega) (by split <;> omega) (by omega)]
              rfl
            · rw [List.take_succ_cons, List.take_succ_cons, List.take_zero,
                decode_more _ _ _ _ _ _ (by split <;> omega) (by split <;> omega) (by omega),
                decode_more _ _ _ _ _ _ (by omega) (by omega) (by omega)]
              rfl

theorem decode_taken (text : List Char) (count : Nat) :
    decodeFrom none ((text.flatMap String.utf8EncodeChar).take count) = text ∨
      BreaksOff text (decodeFrom none ((text.flatMap String.utf8EncodeChar).take count)) := by
  induction text generalizing count with
  | nil => exact .inl (by simp [decodeFrom])
  | cons c rest ih =>
      rw [List.flatMap_cons]
      by_cases cut : count < (String.utf8EncodeChar c).length
      · rw [List.take_append_of_le_length (by omega)]
        rcases decode_cut c count cut with none | part
        · exact .inr (none ▸ .before c rest)
        · exact .inr (part ▸ .within c rest)
      · rw [List.take_append, List.take_of_length_le (by omega), decode_char]
        exact (ih _).imp (congrArg (c :: ·)) (.behind c)

theorem taken_bytes (text : String) (count : Nat) :
    ofUtf8 ((utf8 text).take count) = text ∨ BreaksOff text.toList (ofUtf8 ((utf8 text).take count)).toList := by
  rw [ofUtf8, utf8, String.toList_ofList]
  refine (decode_taken text.toList count).imp_left fun whole => ?_
  rw [whole, String.ofList_toList]

namespace Base64

def value? (c : Char) : Option Nat :=
  let point := c.toNat
  if 65 ≤ point && point ≤ 90 then some (point - 65)
  else if 97 ≤ point && point ≤ 122 then some (point - 71)
  else if 48 ≤ point && point ≤ 57 then some (point + 4)
  else if c = '+' then some 62
  else if c = '/' then some 63
  else none

def decode? : List Char → Option (List UInt8)
  | [] => some []
  | [a, b, '=', '='] => do
      let a ← value? a
      let b ← value? b
      return [UInt8.ofNat (a * 4 + b / 16)]
  | [a, b, c, '='] => do
      let a ← value? a
      let b ← value? b
      let c ← value? c
      return [UInt8.ofNat (a * 4 + b / 16), UInt8.ofNat (b % 16 * 16 + c / 4)]
  | a :: b :: c :: d :: rest => do
      let a ← value? a
      let b ← value? b
      let c ← value? c
      let d ← value? d
      let bytes ← decode? rest
      return UInt8.ofNat (a * 4 + b / 16) :: UInt8.ofNat (b % 16 * 16 + c / 4) :: UInt8.ofNat (c % 4 * 64 + d) :: bytes
  | _ => none

theorem value_digit : ∀ value < 64, value? (digit value) = some value := by decide

theorem digit_filled : ∀ value < 64, digit value ≠ '=' := by decide

theorem decode_digits (bytes : List UInt8) : decode? (digits bytes) = some bytes := by
  -- The recursion of the encoding: three bytes at a time, and one or two at the end.
  induction bytes using digits.induct with
  | case1 a b c rest ih =>
      have small := And.intro a.toNat_lt (And.intro b.toNat_lt c.toNat_lt)
      have first := value_digit (a.toNat / 4) (by omega)
      have second := value_digit (a.toNat % 4 * 16 + b.toNat / 16) (by omega)
      have third := value_digit (b.toNat % 16 * 4 + c.toNat / 64) (by omega)
      have fourth := value_digit (c.toNat % 64) (by omega)
      have filled := digit_filled (c.toNat % 64) (by omega)
      have one : a.toNat / 4 * 4 + (a.toNat % 4 * 16 + b.toNat / 16) / 16 = a.toNat := by omega
      have two : b.toNat / 16 % 16 * 16 + (b.toNat % 16 * 4 + c.toNat / 64) / 4 = b.toNat := by omega
      have three : c.toNat / 64 % 4 * 64 + c.toNat % 64 = c.toNat := by omega
      simp [digits, decode?, first, second, third, fourth, filled, one, two, three, ih, -UInt8.ofNat_add]
  | case2 a b =>
      have small := And.intro a.toNat_lt b.toNat_lt
      have first := value_digit (a.toNat / 4) (by omega)
      have second := value_digit (a.toNat % 4 * 16 + b.toNat / 16) (by omega)
      have third := value_digit (b.toNat % 16 * 4) (by omega)
      have filled := digit_filled (b.toNat % 16 * 4) (by omega)
      have one : a.toNat / 4 * 4 + (a.toNat % 4 * 16 + b.toNat / 16) / 16 = a.toNat := by omega
      have two : b.toNat / 16 % 16 * 16 + b.toNat % 16 = b.toNat := by omega
      simp [digits, decode?, first, second, third, one, two, -UInt8.ofNat_add]
  | case3 a =>
      have small := a.toNat_lt
      have first := value_digit (a.toNat / 4) (by omega)
      have second := value_digit (a.toNat % 4 * 16) (by omega)
      have one : a.toNat / 4 * 4 + a.toNat % 4 = a.toNat := by omega
      simp [digits, decode?, first, second, one, -UInt8.ofNat_add]
  | case4 => rfl

end Base64

end DeviceLogin.Text
