import DeviceLogin.Text.Lowercase

set_option autoImplicit false

namespace DeviceLogin.Text

def unitsOf (c : Char) : List Nat :=
  if c.toNat < 0x10000 then [c.toNat]
  else [0xD800 + (c.toNat - 0x10000) / 0x400, 0xDC00 + (c.toNat - 0x10000) % 0x400]

def units (text : String) : List Nat := text.toList.flatMap unitsOf

def compareUnits : List Nat → List Nat → Ordering
  | [], [] => .eq
  | [], _ :: _ => .lt
  | _ :: _, [] => .gt
  | a :: left, b :: right => if a < b then .lt else if b < a then .gt else compareUnits left right

def compareCaseless (a b : String) : Ordering :=
  compareUnits (units (lowercase a)) (units (lowercase b))

def sameCaseless (a b : String) : Bool := lowercase a == lowercase b

end DeviceLogin.Text
