import DeviceLogin.Number.Decimal
import DeviceLogin.Text.Split

set_option autoImplicit false

namespace DeviceLogin.Version

def part (text : List Char) : Number :=
  let value := Number.leadingInteger (String.ofList text)
  if value.isNan || value.equals 0 then 0 else value

def parts (version : String) : List Number := (Text.splitOn '.' version.toList).map part

def firstDifference : List Number → List Number → Number
  | [], [] => 0
  | a :: left, [] =>
      let difference := a.sub 0
      if difference.equals 0 then firstDifference left [] else difference
  | [], b :: right =>
      let difference := Number.sub 0 b
      if difference.equals 0 then firstDifference [] right else difference
  | a :: left, b :: right =>
      let difference := a.sub b
      if difference.equals 0 then firstDifference left right else difference

def compare (a b : String) : Number := firstDifference (parts a) (parts b)

def latest? (versions : List String) : Option String :=
  (versions.mergeSort fun a b => !(compare a b).positive).getLast?

end DeviceLogin.Version
