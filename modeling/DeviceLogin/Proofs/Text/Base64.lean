import DeviceLogin.Proofs.Text.Encodings

set_option autoImplicit false

namespace DeviceLogin.Text.Base64

def alphabet : List Char := "ABCDEFGHIJKLMNOPQRSTUVWXYZabcdefghijklmnopqrstuvwxyz0123456789+/".toList

inductive Padded : List Char → Prop
  | nil : Padded []
  | group {a b c d : Char} {rest : List Char} (first : a ∈ alphabet) (second : b ∈ alphabet) (third : c ∈ alphabet)
      (fourth : d ∈ alphabet) (later : Padded rest) : Padded (a :: b :: c :: d :: rest)
  | one {a b c : Char} (first : a ∈ alphabet) (second : b ∈ alphabet) (third : c ∈ alphabet) : Padded [a, b, c, '=']
  | two {a b : Char} (first : a ∈ alphabet) (second : b ∈ alphabet) : Padded [a, b, '=', '=']

theorem padded_letters {text : List Char} (padded : Padded text) : ∀ c ∈ text, c ∈ '=' :: alphabet := by
  induction padded with
  | nil => simp
  | group first second third fourth later ih => simp_all
  | one first second third => simp_all
  | two first second => simp_all

theorem digit_listed (value : Nat) (small : value < 64) : digit value ∈ alphabet := by
  have placed : ∀ value < 64, alphabet[value]? = some (digit value) := by decide
  exact List.mem_of_getElem? (placed value small)

theorem digits_padded (bytes : List UInt8) : Padded (digits bytes) := by
  induction bytes using digits.induct with
  | case1 a b c rest ih =>
      have small := And.intro a.toNat_lt (And.intro b.toNat_lt c.toNat_lt)
      exact .group (digit_listed _ (by omega)) (digit_listed _ (by omega)) (digit_listed _ (by omega))
        (digit_listed _ (by omega)) ih
  | case2 a b =>
      have small := And.intro a.toNat_lt b.toNat_lt
      exact .one (digit_listed _ (by omega)) (digit_listed _ (by omega)) (digit_listed _ (by omega))
  | case3 a =>
      have small := a.toNat_lt
      exact .two (digit_listed _ (by omega)) (digit_listed _ (by omega))
  | case4 => exact .nil

end DeviceLogin.Text.Base64
