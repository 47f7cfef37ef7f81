import DeviceLogin.Text.Hex
import DeviceLogin.Text.Split

set_option autoImplicit false

namespace DeviceLogin.Text

structure CodeRange where
  first : Nat
  last : Nat
deriving DecidableEq, Inhabited

namespace CodeRange

def covers (range : CodeRange) (c : Char) : Bool := range.first ≤ c.toNat && c.toNat ≤ range.last

def ofText (text : List Char) : CodeRange :=
  let first := text.takeWhile (· != '-')
  match text.drop first.length with
  | [] => ⟨numberOfHex first, numberOfHex first⟩
  | _ :: last => ⟨numberOfHex first, numberOfHex last⟩

end CodeRange

def prependToWords (c : Char) : List (List Char) → List (List Char)
  | [] => [[c]]
  | word :: rest => if c = ' ' || c = '\n' then [] :: word :: rest else (c :: word) :: rest

def words (text : List Char) : List (List Char) := (text.foldr prependToWords [[]]).filter (!·.isEmpty)

def codeRanges (table : String) : List CodeRange := (words table.toList).map CodeRange.ofText

def inCodeRanges (ranges : List CodeRange) (c : Char) : Bool := ranges.any (·.covers c)

structure CodeEntry where
  range : CodeRange
  mark : Char
  values : List (List Nat)
deriving DecidableEq, Inhabited

def codePoints (text : List Char) : List Nat :=
  if text.isEmpty then [] else (splitOn '.' text).map numberOfHex

namespace CodeEntry

def ofText (text : List Char) : CodeEntry :=
  let range := text.takeWhile fun c => isHexDigit c || c == '-'
  match text.drop range.length with
  | [] => ⟨CodeRange.ofText range, ' ', []⟩
  | mark :: values => ⟨CodeRange.ofText range, mark, (splitOn ',' values).map codePoints⟩

def offset (entry : CodeEntry) (c : Char) : Nat := c.toNat - entry.range.first

def valueFor (entry : CodeEntry) (c : Char) : List Nat :=
  (entry.values[entry.offset c % entry.values.length]?).getD []

def moved (entry : CodeEntry) (c : Char) : List Char :=
  (entry.valueFor c).map fun target => Char.ofNat (target + entry.offset c)

def replace (entry : CodeEntry) (c : Char) : List Char :=
  match entry.mark with
  | '>' => entry.moved c
  | '~' => if entry.offset c % 2 = 0 then entry.moved c else [c]
  | _ => (entry.valueFor c).map Char.ofNat

end CodeEntry

def readTable (table : String) : List CodeEntry := (words table.toList).map CodeEntry.ofText

def entryFor? (table : List CodeEntry) (c : Char) : Option CodeEntry := table.find? (·.range.covers c)

end DeviceLogin.Text
