import DeviceLogin.Number.Basic
import DeviceLogin.Text.Blank

set_option autoImplicit false

namespace DeviceLogin.Number

def reaches (units : Nat) (exponent : Int) : Bool :=
  if 0 ≤ exponent then Nat.pow 10 exponent.toNat * one ≤ units
  else one ≤ units * Nat.pow 10 (-exponent).toNat

def decimalExponent (units : Nat) : Int :=
  let guess := ((Nat.log2 units : Int) - 1074) * 1233 / 4096 - 1
  if reaches units (guess + 2) then guess + 2
  else if reaches units (guess + 1) then guess + 1
  else guess

-- The values that round to a number, four times in units: both ends, and whether they belong to it.
structure Neighbourhood where
  low : Nat
  high : Nat
  closed : Bool

def neighbourhood (units : Nat) : Neighbourhood :=
  let spare := spareBits units
  let gapAbove := Nat.pow 2 spare
  let gapBelow := if spare ≠ 0 && units = Nat.pow 2 (52 + spare) then Nat.pow 2 (spare - 1) else gapAbove
  ⟨4 * units - 2 * gapBelow, 4 * units + 2 * gapAbove, units / gapAbove % 2 == 0⟩

-- `count` times ten to the power of `exponent`, and `units`, both as natural numbers on one scale; the
-- third part is that scale for one unit.
def onScale (count units : Nat) (exponent : Int) : Nat × Nat × Nat :=
  if 0 ≤ exponent then (count * Nat.pow 10 exponent.toNat * one, units, 1)
  else
    let factor := Nat.pow 10 (-exponent).toNat
    (count * one, units * factor, factor)

def inside (near : Neighbourhood) (count : Nat) (exponent : Int) : Bool :=
  let scaled := onScale count 0 exponent
  let value := 4 * scaled.1
  let low := near.low * scaled.2.2
  let high := near.high * scaled.2.2
  if near.closed then low ≤ value && value ≤ high else low < value && value < high

def onGrid? (units : Nat) (near : Neighbourhood) (exponent : Int) : Option Nat :=
  let scaled := onScale 1 units exponent
  let below := scaled.2.1 / scaled.1
  let rest := scaled.2.1 % scaled.1
  match inside near below exponent, inside near (below + 1) exponent with
  | true, true =>
      if 2 * rest < scaled.1 || (2 * rest == scaled.1 && below % 2 == 0) then some below
      else some (below + 1)
  | true, false => some below
  | false, true => some (below + 1)
  | false, false => none

def searchGrids (units : Nat) (near : Neighbourhood) (top : Int) : Nat → Nat → Nat × Int
  | _, 0 => (0, top)
  | spent, left + 1 =>
      let exponent := top - spent
      match onGrid? units near exponent with
      | some count => (count, exponent)
      | none => searchGrids units near top (spent + 1) left

def shortest (units : Nat) : Nat × Int :=
  searchGrids units (neighbourhood units) (decimalExponent units) 0 18

def zeros (n : Nat) : List Char := List.replicate n '0'

def layOut (digits : List Char) (point : Int) : List Char :=
  let count : Int := digits.length
  if count ≤ point && point ≤ 21 then digits ++ zeros (point - count).toNat
  else if 0 < point && point ≤ 21 then digits.take point.toNat ++ '.' :: digits.drop point.toNat
  else if -6 < point && point ≤ 0 then '0' :: '.' :: (zeros (-point).toNat ++ digits)
  else
    let exponent := point - 1
    let sign := if exponent < 0 then '-' else '+'
    let mantissa :=
      match digits with
      | first :: second :: rest => first :: '.' :: second :: rest
      | _ => digits
    mantissa ++ 'e' :: sign :: Nat.toDigits 10 exponent.natAbs

def dropTrailingZeros (digits : List Char) : List Char := (digits.reverse.dropWhile (· == '0')).reverse

def magnitudeText (units : Nat) : List Char :=
  if units = 0 then ['0']
  else
    let found := shortest units
    let digits := Nat.toDigits 10 found.1
    layOut (dropTrailingZeros digits) (digits.length + found.2)

def text : Number → String
  | .nan => "NaN"
  | .infinite negative => if negative then "-Infinity" else "Infinity"
  | .finite negative units =>
      String.ofList ((if negative && units != 0 then ['-'] else []) ++ magnitudeText units)

def digitValue (c : Char) : Nat := c.toNat - 48

def valueOf (digits : List Char) : Nat := digits.foldl (fun value c => 10 * value + digitValue c) 0

def leadingInteger (source : String) : Number :=
  let body := Text.trimStart source.toList
  let negative := body.head? == some '-'
  let unsigned := if negative || body.head? == some '+' then body.drop 1 else body
  let digits := unsigned.takeWhile Char.isDigit
  if digits.isEmpty then .nan else ofDecimal negative (valueOf digits) 0

end DeviceLogin.Number
