import DeviceLogin.Text.Hex
import DeviceLogin.Text.Utf8

set_option autoImplicit false

namespace DeviceLogin.Text.Form

def keeps (byte : Nat) : Bool :=
  (48 ≤ byte && byte ≤ 57) || (65 ≤ byte && byte ≤ 90) || (97 ≤ byte && byte ≤ 122) ||
    byte == 0x2A || byte == 0x2D || byte == 0x2E || byte == 0x5F

def encodeByte (byte : Nat) : List Char :=
  if keeps byte then [Char.ofNat byte]
  else if byte = 0x20 then ['+']
  else ['%', hexDigitUpper (byte / 16), hexDigitUpper (byte % 16)]

def encode (value : String) : String :=
  String.ofList ((utf8 value).flatMap fun byte => encodeByte byte.toNat)

end DeviceLogin.Text.Form
