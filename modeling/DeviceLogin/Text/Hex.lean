set_option autoImplicit false

namespace DeviceLogin.Text

def hexDigit (value : Nat) : Char :=
  if value < 10 then Char.ofNat (48 + value) else Char.ofNat (87 + value)

def hexDigitUpper (value : Nat) : Char :=
  if value < 10 then Char.ofNat (48 + value) else Char.ofNat (55 + value)

def hexValue? (c : Char) : Option Nat :=
  let point := c.toNat
  if 48 ≤ point && point ≤ 57 then some (point - 48)
  else if 97 ≤ point && point ≤ 102 then some (point - 87)
  else if 65 ≤ point && point ≤ 70 then some (point - 55)
  else none

def isHexDigit (c : Char) : Bool := (hexValue? c).isSome

def numberOfHex (digits : List Char) : Nat :=
  digits.foldl (fun value c => 16 * value + (hexValue? c).getD 0) 0

def hexOf (bytes : List UInt8) : String :=
  String.ofList (bytes.flatMap fun b => [hexDigit (b.toNat / 16), hexDigit (b.toNat % 16)])

def bytesOfHex : List Char → List UInt8
  | high :: low :: rest =>
      match hexValue? high, hexValue? low with
      | some h, some l => UInt8.ofNat (16 * h + l) :: bytesOfHex rest
      | _, _ => []
  | _ => []

end DeviceLogin.Text
