set_option autoImplicit false

namespace DeviceLogin.Text

def isSpace (c : Char) : Bool :=
  let point := c.toNat
  (0x9 ≤ point && point ≤ 0xD) || point == 0x20 || point == 0xA0 || point == 0x1680 ||
    (0x2000 ≤ point && point ≤ 0x200A) || point == 0x2028 || point == 0x2029 || point == 0x202F ||
    point == 0x205F || point == 0x3000 || point == 0xFEFF

def trimStart (text : List Char) : List Char := text.dropWhile isSpace

def trimEnd (text : List Char) : List Char := (text.reverse.dropWhile isSpace).reverse

def trim (text : String) : String := String.ofList (trimEnd (trimStart text.toList))

def isBlank (text : String) : Bool := text.toList.all isSpace

def present? : Option String → Option String
  | some text => if isBlank text then none else some text
  | none => none

end DeviceLogin.Text
