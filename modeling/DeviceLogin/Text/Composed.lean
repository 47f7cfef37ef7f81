import DeviceLogin.Text.Composed.Table

set_option autoImplicit false

namespace DeviceLogin.Text

def combiningClass (c : Char) : Nat :=
  if c.toNat < 0x80 then 0
  else
    match entryFor? combiningClasses c with
    | some entry => (entry.valueFor c).headD 0
    | none => 0

def firstSyllable : Nat := 0xAC00

def leadingConsonant : Nat := 0x1100

def firstVowel : Nat := 0x1161

def noConsonant : Nat := 0x11A7

def syllableParts (index : Nat) : List Nat :=
  let last := index % 28
  [leadingConsonant + index / 588, firstVowel + index % 588 / 28] ++ if last = 0 then [] else [noConsonant + last]

def isSyllable (point : Nat) : Bool := firstSyllable ≤ point && point < firstSyllable + 11172

def joinSyllable? (first second : Nat) : Option Nat :=
  if leadingConsonant ≤ first && first < leadingConsonant + 19 && firstVowel ≤ second && second < firstVowel + 21 then
    some (firstSyllable + ((first - leadingConsonant) * 21 + (second - firstVowel)) * 28)
  else if isSyllable first && (first - firstSyllable) % 28 == 0 && noConsonant < second && second < noConsonant + 28 then
    some (first + (second - noConsonant))
  else none

def takeApart (c : Char) : List Char :=
  if c.toNat < 0x80 then [c]
  else if isSyllable c.toNat then (syllableParts (c.toNat - firstSyllable)).map Char.ofNat
  else
    match entryFor? composedPairs c with
    | some entry => entry.replace c
    | none => [c]

def decompose : Nat → List Char → List Char
  | 0, text => text
  | steps + 1, text => decompose steps (text.flatMap takeApart)

def placeMark (mark : Char) : List Char → List Char
  | [] => [mark]
  | next :: rest =>
      if combiningClass next ≠ 0 && combiningClass next < combiningClass mark then next :: placeMark mark rest
      else mark :: next :: rest

def orderMarks (text : List Char) : List Char := text.foldr placeMark []

def compositions : List (List Nat × Nat) :=
  composedPairs.flatMap fun entry =>
    entry.values.zipIdx.map fun (pair, index) => (pair, entry.range.first + index)

def join? (first second : Char) : Option Char :=
  match joinSyllable? first.toNat second.toNat with
  | some point => some (Char.ofNat point)
  | none => (compositions.lookup [first.toNat, second.toNat]).map Char.ofNat

-- Composes what follows a base character. `kept` holds the marks after it that stay, last mark first;
-- one of them keeps later characters from the base unless their class is higher.
def composeAfter (base : Char) (kept : List Char) : List Char → List Char
  | [] => base :: kept.reverse
  | c :: rest =>
      let isKeptOff := kept.head?.any fun mark => combiningClass c ≤ combiningClass mark
      match if isKeptOff then none else join? base c with
      | some joined => composeAfter joined kept rest
      | none =>
          if combiningClass c = 0 then base :: (kept.reverse ++ composeAfter c [] rest)
          else composeAfter base (c :: kept) rest

def composeAll : List Char → List Char
  | [] => []
  | c :: rest => if combiningClass c = 0 then composeAfter c [] rest else c :: composeAll rest

def composed (text : List Char) : List Char := composeAll (orderMarks (decompose 3 text))

end DeviceLogin.Text
