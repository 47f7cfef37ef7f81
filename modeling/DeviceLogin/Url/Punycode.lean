set_option autoImplicit false

namespace DeviceLogin.Url.Punycode

def digit (value : Nat) : Char :=
  if value < 26 then Char.ofNat (97 + value) else Char.ofNat (22 + value)

def digitValue? (c : Char) : Option Nat :=
  let point := c.toNat
  if 97 ≤ point && point ≤ 122 then some (point - 97)
  else if 65 ≤ point && point ≤ 90 then some (point - 65)
  else if 48 ≤ point && point ≤ 57 then some (point - 22)
  else none

def threshold (place bias : Nat) : Nat :=
  if place ≤ bias then 1 else if bias + 26 ≤ place then 26 else place - bias

def scaleDown : Nat → Nat → Nat → Nat × Nat
  | 0, distance, place => (distance, place)
  | fuel + 1, distance, place =>
      if 455 < distance then scaleDown fuel (distance / 35) (place + 36) else (distance, place)

def adapt (distance count : Nat) (isFirst : Bool) : Nat :=
  let halved := if isFirst then distance / 700 else distance / 2
  let (small, place) := scaleDown distance (halved + halved / count) 0
  place + 36 * small / (small + 38)

def distanceDigits (bias : Nat) : Nat → Nat → Nat → List Char
  | 0, _, value => [digit value]
  | fuel + 1, place, value =>
      let limit := threshold place bias
      if value < limit then [digit value]
      else
        digit (limit + (value - limit) % (36 - limit)) ::
          distanceDigits bias fuel (place + 36) ((value - limit) / (36 - limit))

structure Progress where
  written : List Char
  distance : Nat
  bias : Nat
  placed : Nat

def isAscii (c : Char) : Bool := c.toNat < 0x80

def pass (basic point : Nat) (state : Progress) (c : Char) : Progress :=
  if c.toNat < point then { state with distance := state.distance + 1 }
  else if c.toNat = point then
    { written := state.written ++ distanceDigits state.bias state.distance 36 state.distance,
      distance := 0, bias := adapt state.distance (state.placed + 1) (state.placed == basic),
      placed := state.placed + 1 }
  else state

def foreignPoints (label : List Char) : List Nat :=
  (((label.filter (!isAscii ·)).map Char.toNat).mergeSort fun a b => a ≤ b).eraseDups

def encodePoints (label : List Char) (basic : Nat) : List Nat → Nat → Progress → Progress
  | [], _, state => state
  | point :: rest, last, state =>
      let start := { state with distance := state.distance + (point - last) * (state.placed + 1) }
      let after := label.foldl (pass basic point) start
      encodePoints label basic rest (point + 1) { after with distance := after.distance + 1 }

def encode (label : List Char) : List Char :=
  let basic := label.filter isAscii
  let start := basic ++ if basic.isEmpty then [] else ['-']
  (encodePoints label basic.length (foreignPoints label) 128 ⟨start, 0, 72, basic.length⟩).written

def readDistance (bias : Nat) : List Char → Nat → Nat → Nat → Option (Nat × List Char)
  | [], _, _, _ => none
  | c :: rest, place, weight, value =>
      match digitValue? c with
      | none => none
      | some d =>
          let limit := threshold place bias
          let value := value + d * weight
          if d < limit then some (value, rest) else readDistance bias rest (place + 36) (weight * (36 - limit)) value

def insertAt (c : Char) (index : Nat) (text : List Char) : List Char := text.take index ++ c :: text.drop index

def decodeDistances : Nat → List Char → Nat → Nat → Nat → List Char → Option (List Char)
  | 0, _, _, _, _, _ => none
  | fuel + 1, digits, point, index, bias, done =>
      if digits.isEmpty then some done
      else
        match readDistance bias digits 36 1 0 with
        | none => none
        | some (distance, rest) =>
            let total := index + distance
            let count := done.length + 1
            let point := point + total / count
            if 0x10FFFF < point || (0xD800 ≤ point && point < 0xE000) then none
            else
              decodeDistances fuel rest point (total % count + 1) (adapt distance count (index == 0))
                (insertAt (Char.ofNat point) (total % count) done)

def splitBasic (text : List Char) : List Char × List Char :=
  if text.contains '-' then
    let digits := (text.reverse.takeWhile (· != '-')).reverse
    (text.take (text.length - digits.length - 1), digits)
  else ([], text)

def decode? (text : List Char) : Option (List Char) :=
  let (basic, digits) := splitBasic text
  if basic.all isAscii then decodeDistances (digits.length + 1) digits 128 0 72 basic else none

end DeviceLogin.Url.Punycode
