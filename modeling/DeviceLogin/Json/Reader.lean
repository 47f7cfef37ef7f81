import DeviceLogin.Json.Basic
import DeviceLogin.Text.Hex

set_option autoImplicit false

namespace DeviceLogin.Json

def isGap (c : Char) : Bool := c == ' ' || c == '\t' || c == '\n' || c == '\r'

def skipGap (text : List Char) : List Char := text.dropWhile isGap

def hexQuad? (a b c d : Char) : Option Nat := do
  let a ← Text.hexValue? a
  let b ← Text.hexValue? b
  let c ← Text.hexValue? c
  let d ← Text.hexValue? d
  return ((a * 16 + b) * 16 + c) * 16 + d

def isHighHalf (unit : Nat) : Bool := 0xD800 ≤ unit && unit < 0xDC00

def isLowHalf (unit : Nat) : Bool := 0xDC00 ≤ unit && unit < 0xE000

def ofUnit (unit : Nat) : Char :=
  if isHighHalf unit || isLowHalf unit then Char.ofNat 0xFFFD else Char.ofNat unit

def escaped? : Char → Option Char
  | '"' => some '"'
  | '\\' => some '\\'
  | '/' => some '/'
  | 'b' => some (Char.ofNat 8)
  | 'f' => some (Char.ofNat 12)
  | 'n' => some '\n'
  | 'r' => some '\r'
  | 't' => some '\t'
  | _ => none

def lowHalf? : List Char → Option (Nat × List Char)
  | '\\' :: 'u' :: a :: b :: c :: d :: rest =>
      match hexQuad? a b c d with
      | some unit => if isLowHalf unit then some (unit, rest) else none
      | none => none
  | _ => none

def readString : Nat → List Char → List Char → Option (String × List Char)
  | 0, _, _ => none
  | fuel + 1, done, text =>
      match text with
      | '"' :: rest => some (String.ofList done.reverse, rest)
      | '\\' :: 'u' :: a :: b :: c :: d :: rest =>
          match hexQuad? a b c d with
          | none => none
          | some unit =>
              match if isHighHalf unit then lowHalf? rest else none with
              | some (low, rest) =>
                  readString fuel (Char.ofNat (0x10000 + (unit - 0xD800) * 0x400 + (low - 0xDC00)) :: done) rest
              | none => readString fuel (ofUnit unit :: done) rest
      | '\\' :: c :: rest =>
          match escaped? c with
          | some meant => readString fuel (meant :: done) rest
          | none => none
      | c :: rest => if c.toNat < 0x20 then none else readString fuel (c :: done) rest
      | [] => none

def readExponent (text : List Char) : Option (Int × List Char) :=
  match text with
  | mark :: rest =>
      if mark == 'e' || mark == 'E' then
        let negative := rest.head? == some '-'
        let body := if negative || rest.head? == some '+' then rest.drop 1 else rest
        let digits := body.takeWhile Char.isDigit
        if digits.isEmpty then none
        else
          let size : Int := Number.valueOf digits
          some (if negative then -size else size, body.dropWhile Char.isDigit)
      else some (0, text)
  | [] => some (0, [])

def readFraction (text : List Char) : Option (List Char × List Char) :=
  match text with
  | '.' :: rest =>
      let digits := rest.takeWhile Char.isDigit
      if digits.isEmpty then none else some (digits, rest.dropWhile Char.isDigit)
  | _ => some ([], text)

def readNumber (text : List Char) : Option (Number × List Char) := do
  let negative := text.head? == some '-'
  let body := if negative then text.drop 1 else text
  let whole := if body.head? == some '0' then ['0'] else body.takeWhile Char.isDigit
  if whole.isEmpty then none
  let (fraction, rest) ← readFraction (body.drop whole.length)
  let (exponent, rest) ← readExponent rest
  return (Number.ofDecimal negative (Number.valueOf (whole ++ fraction)) (exponent - fraction.length), rest)

def readWord (word : List Char) (value : Json) (text : List Char) : Option (Json × List Char) :=
  if word.isPrefixOf text then some (value, text.drop word.length) else none

mutual

def readValue : Nat → List Char → Option (Json × List Char)
  | 0, _ => none
  | fuel + 1, text =>
      match text with
      | '"' :: rest => (readString fuel [] rest).map fun (value, rest) => (.str value, rest)
      | '[' :: rest =>
          match skipGap rest with
          | ']' :: rest => some (.arr [], rest)
          | rest => (readItems fuel rest).map fun (items, rest) => (.arr items, rest)
      | '\x7b' :: rest =>
          match skipGap rest with
          | '\x7d' :: rest => some (.obj [], rest)
          | rest => (readMembers fuel rest).map fun (members, rest) => (object members, rest)
      | 't' :: _ => readWord ['t', 'r', 'u', 'e'] (.bool true) text
      | 'f' :: _ => readWord ['f', 'a', 'l', 's', 'e'] (.bool false) text
      | 'n' :: _ => readWord ['n', 'u', 'l', 'l'] .null text
      | _ => (readNumber text).map fun (value, rest) => (.num value, rest)

def readItems : Nat → List Char → Option (List Json × List Char)
  | 0, _ => none
  | fuel + 1, text =>
      match readValue fuel (skipGap text) with
      | none => none
      | some (item, rest) =>
          match skipGap rest with
          | ']' :: rest => some ([item], rest)
          | ',' :: rest => (readItems fuel rest).map fun (items, rest) => (item :: items, rest)
          | _ => none

def readMembers : Nat → List Char → Option (List (String × Json) × List Char)
  | 0, _ => none
  | fuel + 1, text =>
      match skipGap text with
      | '"' :: rest =>
          match readString fuel [] rest with
          | none => none
          | some (name, rest) =>
              match skipGap rest with
              | ':' :: rest =>
                  match readValue fuel (skipGap rest) with
                  | none => none
                  | some (value, rest) =>
                      match skipGap rest with
                      | '\x7d' :: rest => some ([(name, value)], rest)
                      | ',' :: rest =>
                          (readMembers fuel rest).map fun (members, rest) => ((name, value) :: members, rest)
                      | _ => none
              | _ => none
      | _ => none

end

def read? (text : String) : Option Json :=
  let chars := skipGap text.toList
  match readValue (chars.length + 1) chars with
  | some (value, rest) => if (skipGap rest).isEmpty then some value else none
  | none => none

end DeviceLogin.Json
