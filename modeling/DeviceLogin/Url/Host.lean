import DeviceLogin.Url.Address
import DeviceLogin.Url.Domain.Label
import DeviceLogin.Url.Percent

set_option autoImplicit false

namespace DeviceLogin.Url

open Text (splitOn intercalate)

def forbiddenInHost (c : Char) : Bool :=
  oneOf [0x00, 0x09, 0x0A, 0x0D, 0x20, 0x23, 0x2F, 0x3A, 0x3C, 0x3E, 0x3F, 0x40, 0x5B, 0x5C, 0x5D, 0x5E, 0x7C] c

def forbiddenInDomain (c : Char) : Bool :=
  forbiddenInHost c || c.toNat ≤ 0x1F || c.toNat == 0x25 || c.toNat == 0x7F

def domainToAscii? (domain : List Char) : Option (List Char) := do
  let spelled ← if domain.all Punycode.isAscii then some (domain.map Char.toLower) else Domain.spelled? domain
  let labels ← (splitOn '.' spelled).mapM Domain.labelToAscii?
  return intercalate ['.'] labels

def domain? (text : List Char) : Option (List Char) :=
  match domainToAscii? (Text.decodeFrom none (percentDecode text)) with
  | none => none
  | some name =>
      if name.isEmpty || name.any forbiddenInDomain then none
      else if FourByte.endsInNumber name then (FourByte.read? name).map FourByte.write
      else some name

def host? (special : Bool) (text : List Char) : Option (List Char) :=
  match text with
  | '[' :: rest =>
      if rest.getLast? == some ']' then
        (SixteenByte.read? rest.dropLast).map fun values => '[' :: (SixteenByte.write values ++ [']'])
      else none
  | _ =>
      if special then domain? text
      else if text.any forbiddenInHost then none
      else some (percentEncode encodesInOpaque text)

end DeviceLogin.Url
