import DeviceLogin.Text.Hex
import DeviceLogin.Text.Utf8

set_option autoImplicit false

namespace DeviceLogin.Url

def oneOf (points : List Nat) (c : Char) : Bool := points.contains c.toNat

def encodesInOpaque (c : Char) : Bool := c.toNat < 0x20 || 0x7E < c.toNat

def encodesInFragment (c : Char) : Bool :=
  encodesInOpaque c || oneOf [0x20, 0x22, 0x3C, 0x3E, 0x60] c

def encodesInQuery (c : Char) : Bool :=
  encodesInOpaque c || oneOf [0x20, 0x22, 0x23, 0x3C, 0x3E] c

def encodesInSpecialQuery (c : Char) : Bool := encodesInQuery c || c.toNat == 0x27

def encodesInPath (c : Char) : Bool := encodesInQuery c || oneOf [0x3F, 0x60, 0x7B, 0x7D] c

def encodesInCredentials (c : Char) : Bool :=
  encodesInPath c || oneOf [0x2F, 0x3A, 0x3B, 0x3D, 0x40, 0x5B, 0x5C, 0x5D, 0x5E, 0x7C] c

def escapeByte (byte : UInt8) : List Char :=
  ['%', Text.hexDigitUpper (byte.toNat / 16), Text.hexDigitUpper (byte.toNat % 16)]

def percentEncode (encodes : Char → Bool) (text : List Char) : List Char :=
  text.flatMap fun c => if encodes c then (String.utf8EncodeChar c).flatMap escapeByte else [c]

def percentDecode : List Char → List UInt8
  | '%' :: high :: low :: rest =>
      match Text.hexValue? high, Text.hexValue? low with
      | some h, some l => UInt8.ofNat (16 * h + l) :: percentDecode rest
      | _, _ => String.utf8EncodeChar '%' ++ percentDecode (high :: low :: rest)
  | c :: rest => String.utf8EncodeChar c ++ percentDecode rest
  | [] => []

end DeviceLogin.Url
