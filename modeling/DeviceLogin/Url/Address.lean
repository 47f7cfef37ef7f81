import DeviceLogin.Number.Decimal
import DeviceLogin.Text.Hex
import DeviceLogin.Text.Split

set_option autoImplicit false

namespace DeviceLogin.Url

open Text (splitOn intercalate)

namespace FourByte

def isOctal (c : Char) : Bool := 48 ≤ c.toNat && c.toNat ≤ 55

def octalValue (digits : List Char) : Nat :=
  digits.foldl (fun value c => 8 * value + (c.toNat - 48)) 0

def part? (text : List Char) : Option Nat :=
  match text with
  | [] => none
  | '0' :: 'x' :: rest => if rest.all Text.isHexDigit then some (Text.numberOfHex rest) else none
  | '0' :: 'X' :: rest => if rest.all Text.isHexDigit then some (Text.numberOfHex rest) else none
  | '0' :: second :: rest =>
      if (second :: rest).all isOctal then some (octalValue (second :: rest)) else none
  | digits => if digits.all Char.isDigit then some (Number.valueOf digits) else none

def parts (host : List Char) : List (List Char) :=
  let pieces := splitOn '.' host
  if pieces.length ≠ 1 && pieces.getLast? == some [] then pieces.dropLast else pieces

def endsInNumber (host : List Char) : Bool :=
  match splitOn '.' host with
  | [[]] => false
  | _ =>
      match (parts host).getLast? with
      | some last => (!last.isEmpty && last.all Char.isDigit) || (part? last).isSome
      | none => false

def ofParts : List Nat → Nat → Option Nat
  | [], _ => none
  | [last], bytes => if last < Nat.pow 256 bytes then some last else none
  | _ :: _ :: _, 0 => none
  | part :: rest, bytes + 1 =>
      if part < 256 then (ofParts rest bytes).map fun low => part * Nat.pow 256 bytes + low else none

def read? (host : List Char) : Option Nat :=
  match (parts host).mapM part? with
  | some values => if values.length ≤ 4 then ofParts values 4 else none
  | none => none

def decimal (n : Nat) : List Char := Nat.toDigits 10 n

def write (value : Nat) : List Char :=
  intercalate ['.'] ([value / 16777216, value / 65536 % 256, value / 256 % 256, value % 256].map decimal)

end FourByte

namespace SixteenByte

def group? (text : List Char) : Option Nat :=
  if !text.isEmpty && text.length ≤ 4 && text.all Text.isHexDigit then some (Text.numberOfHex text)
  else none

def byte? (text : List Char) : Option Nat :=
  let value := Number.valueOf text
  if !text.isEmpty && text.all Char.isDigit && (text.length = 1 || text.head? != some '0') && value < 256 then
    some value
  else none

def bytePairs? (text : List Char) : Option (List Nat) :=
  match (splitOn '.' text).mapM byte? with
  | some [a, b, c, d] => some [a * 256 + b, c * 256 + d]
  | _ => none

def groups? (closing : Bool) : List (List Char) → Option (List Nat)
  | [] => some []
  | [last] =>
      if closing && last.contains '.' then bytePairs? last else (group? last).map fun value => [value]
  | piece :: rest => do
      let value ← group? piece
      let values ← groups? closing rest
      return value :: values

def list? (closing : Bool) (text : List Char) : Option (List Nat) :=
  if text.isEmpty then some [] else groups? closing (splitOn ':' text)

def splitGap : List Char → Option (List Char × List Char)
  | ':' :: ':' :: rest => some ([], rest)
  | c :: rest => (splitGap rest).map fun (before, after) => (c :: before, after)
  | [] => none

def read? (text : List Char) : Option (List Nat) :=
  match splitGap text with
  | none => do
      let values ← groups? true (splitOn ':' text)
      if values.length = 8 then some values else none
  | some (before, after) => do
      let first ← list? false before
      let last ← list? true after
      if first.length + last.length < 8 then
        some (first ++ List.replicate (8 - first.length - last.length) 0 ++ last)
      else none

def zeroRun (values : List Nat) : Nat := (values.takeWhile (· == 0)).length

def longestRun : List Nat → Nat → Nat × Nat
  | [], start => (start, 0)
  | value :: rest, start =>
      let here := zeroRun (value :: rest)
      let later := longestRun rest (start + 1)
      if later.2 ≤ here then (start, here) else later

def groupText (value : Nat) : List Char := Nat.toDigits 16 value

def write (values : List Nat) : List Char :=
  let run := longestRun values 0
  if 1 < run.2 then
    intercalate [':'] ((values.take run.1).map groupText) ++ [':', ':'] ++
      intercalate [':'] ((values.drop (run.1 + run.2)).map groupText)
  else intercalate [':'] (values.map groupText)

end SixteenByte

end DeviceLogin.Url
