import DeviceLogin.Text.Composed
import DeviceLogin.Url.Domain.Spelling.Table

set_option autoImplicit false

namespace DeviceLogin.Url.Domain

def respell? (c : Char) : Option (List Char) :=
  if c.toNat < 0x80 then some [c.toLower]
  else
    match Text.entryFor? respelled c with
    | none => some [c]
    | some entry => if entry.mark = '!' then none else some (entry.replace c)

def respellAll? (text : List Char) : Option (List Char) := (text.mapM respell?).map List.flatten

def spelled? (text : List Char) : Option (List Char) := (respellAll? text).map Text.composed

def isSpelled (text : List Char) : Bool := respellAll? text == some text && Text.composed text == text

end DeviceLogin.Url.Domain
