set_option autoImplicit false

namespace DeviceLogin.Text

def utf8 (text : String) : List UInt8 := text.toList.flatMap String.utf8EncodeChar

structure Pending where
  missing : Nat
  bits : Nat
  low : Nat
  high : Nat

def beginChar (byte : Nat) : List Char × Option Pending :=
  if byte < 0x80 then ([Char.ofNat byte], none)
  else if 0xC2 ≤ byte && byte ≤ 0xDF then ([], some ⟨1, byte - 0xC0, 0x80, 0xBF⟩)
  else if byte = 0xE0 then ([], some ⟨2, 0, 0xA0, 0xBF⟩)
  else if byte = 0xED then ([], some ⟨2, 0xD, 0x80, 0x9F⟩)
  else if 0xE1 ≤ byte && byte ≤ 0xEF then ([], some ⟨2, byte - 0xE0, 0x80, 0xBF⟩)
  else if byte = 0xF0 then ([], some ⟨3, 0, 0x90, 0xBF⟩)
  else if byte = 0xF4 then ([], some ⟨3, 4, 0x80, 0x8F⟩)
  else if 0xF1 ≤ byte && byte ≤ 0xF3 then ([], some ⟨3, byte - 0xF0, 0x80, 0xBF⟩)
  else ([Char.ofNat 0xFFFD], none)

def decodeFrom : Option Pending → List UInt8 → List Char
  | none, [] => []
  | some _, [] => [Char.ofNat 0xFFFD]
  | none, byte :: rest =>
      let start := beginChar byte.toNat
      start.1 ++ decodeFrom start.2 rest
  | some pending, byte :: rest =>
      if pending.low ≤ byte.toNat && byte.toNat ≤ pending.high then
        let bits := pending.bits * 64 + (byte.toNat - 0x80)
        if pending.missing ≤ 1 then Char.ofNat bits :: decodeFrom none rest
        else decodeFrom (some ⟨pending.missing - 1, bits, 0x80, 0xBF⟩) rest
      else
        let start := beginChar byte.toNat
        Char.ofNat 0xFFFD :: start.1 ++ decodeFrom start.2 rest

def ofUtf8 (bytes : List UInt8) : String := String.ofList (decodeFrom none bytes)

end DeviceLogin.Text
