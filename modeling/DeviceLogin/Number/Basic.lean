set_option autoImplicit false

namespace DeviceLogin

inductive Number where
  | nan
  | infinite (negative : Bool)
  | finite (negative : Bool) (units : Nat)
deriving DecidableEq, Repr, Inhabited

namespace Number

def one : Nat := Nat.pow 2 1074

def unitsLimit : Nat := Nat.pow 2 2098

-- How many low binary digits of a number of units cannot be kept: all below the highest 53.
def spareBits (units : Nat) : Nat := if units < Nat.pow 2 53 then 0 else Nat.log2 units - 52

-- The number nearest to a quotient of units; of two, the one whose last kept digit is even.
def ofRatio (negative : Bool) (numerator denominator : Nat) : Number :=
  let spare := spareBits (numerator / denominator)
  let step := denominator * Nat.pow 2 spare
  let low := numerator / step
  let rest := numerator % step
  let kept := if step < 2 * rest || (2 * rest == step && low % 2 == 1) then low + 1 else low
  let units := kept * Nat.pow 2 spare
  if units < unitsLimit then .finite negative units else .infinite negative

def ofNat (n : Nat) : Number := ofRatio false (n * one) 1

def ofInt (n : Int) : Number := ofRatio (n < 0) (n.natAbs * one) 1

instance (n : Nat) : OfNat Number n := ⟨ofNat n⟩

def digitCount (n : Nat) : Nat := (Nat.toDigits 10 n).length

def ofDecimal (negative : Bool) (digits : Nat) (exponent : Int) : Number :=
  let magnitude := (digitCount digits : Int) + exponent
  if digits = 0 || magnitude < -323 then .finite negative 0
  else if 310 < magnitude then .infinite negative
  else if 0 ≤ exponent then ofRatio negative (digits * Nat.pow 10 exponent.toNat * one) 1
  else ofRatio negative (digits * one) (Nat.pow 10 (-exponent).toNat)

def isNan : Number → Bool
  | .nan => true
  | _ => false

def isZero : Number → Bool
  | .finite _ units => units == 0
  | _ => false

def equals : Number → Number → Bool
  | .infinite a, .infinite b => a == b
  | .finite a m, .finite b n => m == n && (a == b || m == 0)
  | _, _ => false

def signedUnits (negative : Bool) (units : Nat) : Int := if negative then -(units : Int) else units

def sub : Number → Number → Number
  | .finite a m, .finite b n =>
      let difference := signedUnits a m - signedUnits b n
      ofRatio (difference < 0) difference.natAbs 1
  | .infinite a, .infinite b => if a == b then .nan else .infinite a
  | .infinite a, .finite _ _ => .infinite a
  | .finite _ _, .infinite b => .infinite (!b)
  | _, _ => .nan

def positive : Number → Bool
  | .infinite negative => !negative
  | .finite negative units => !negative && units != 0
  | .nan => false

def toInt? : Number → Option Int
  | .finite negative units =>
      if units % one = 0 then some (signedUnits negative (units / one)) else none
  | _ => none

def toNat? (x : Number) : Option Nat :=
  match x.toInt? with
  | some (.ofNat n) => some n
  | _ => none

end Number

end DeviceLogin
