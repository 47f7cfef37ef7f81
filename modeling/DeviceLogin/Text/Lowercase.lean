import DeviceLogin.Text.Lowercase.Table

set_option autoImplicit false

namespace DeviceLogin.Text

def isCased (c : Char) : Bool := inCodeRanges casedLetters c

def isCaseIgnorable (c : Char) : Bool := inCodeRanges caseIgnorable c

def meetsCased (neighbours : List Char) : Bool :=
  match neighbours.dropWhile isCaseIgnorable with
  | [] => false
  | c :: _ => isCased c

def lowerChar (c : Char) : List Char :=
  if c.toNat < 0x80 then [c.toLower]
  else
    match entryFor? lowerForms c with
    | some entry => entry.replace c
    | none => [c]

def lowerAfter (before : List Char) : List Char → List Char
  | [] => []
  | c :: rest =>
      let lower :=
        if c.toNat = 0x3A3 && meetsCased before && !meetsCased rest then [Char.ofNat 0x3C2]
        else lowerChar c
      lower ++ lowerAfter (c :: before) rest

def lowercase (text : String) : String := String.ofList (lowerAfter [] text.toList)

end DeviceLogin.Text
