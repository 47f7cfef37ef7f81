import DeviceLogin.Number.Decimal
import DeviceLogin.Ordered

set_option autoImplicit false

namespace DeviceLogin

inductive Json where
  | null
  | bool (value : Bool)
  | num (value : Number)
  | str (value : String)
  | arr (items : List Json)
  | obj (members : List (String × Json))
deriving Inhabited

-- The array index that a name spells: digits without a leading zero, below 2 ^ 32 - 1.
def indexName? (name : String) : Option Nat :=
  let digits := name.toList
  if digits.isEmpty || !digits.all Char.isDigit || (digits.head? == some '0' && digits.length != 1) then none
  else
    let index := Number.valueOf digits
    if index < 4294967295 then some index else none

namespace Ordered

variable {α : Type}

def indexEntries (entries : Ordered α) : List (Nat × String × α) :=
  entries.filterMap fun entry => (indexName? entry.1).map fun index => (index, entry)

def inMemberOrder (entries : Ordered α) : Ordered α :=
  ((indexEntries entries).mergeSort fun a b => a.1 ≤ b.1).map (·.2) ++
    entries.filter fun entry => (indexName? entry.1).isNone

def asMembers (entries : Ordered α) : Ordered α := inMemberOrder (putAll [] entries)

end Ordered

namespace Json

def object (members : List (String × Json)) : Json := .obj (Ordered.asMembers members)

def nat (n : Nat) : Json := .num (.ofNat n)

def member? (value : Json) (name : String) : Option Json :=
  match value with
  | .obj members => Ordered.get? members name
  | _ => none

def text? : Json → Option String
  | .str value => some value
  | _ => none

mutual

def same : Json → Json → Bool
  | .null, .null => true
  | .bool a, .bool b => a == b
  | .num a, .num b => a == b
  | .str a, .str b => a == b
  | .arr a, .arr b => sameItems a b
  | .obj a, .obj b => sameMembers a b
  | _, _ => false

def sameItems : List Json → List Json → Bool
  | [], [] => true
  | a :: left, b :: right => same a b && sameItems left right
  | _, _ => false

def sameMembers : List (String × Json) → List (String × Json) → Bool
  | [], [] => true
  | (name, a) :: left, (other, b) :: right => name == other && same a b && sameMembers left right
  | _, _ => false

end

instance : BEq Json := ⟨same⟩

def itemText (item : Json) (text : String) : String :=
  match item with
  | .null => ""
  | _ => text

mutual

def plainText : Json → String
  | .null => "null"
  | .bool value => if value then "true" else "false"
  | .num value => value.text
  | .str value => value
  | .arr items => plainItems items
  | .obj _ => "[object Object]"

def plainItems : List Json → String
  | [] => ""
  | [item] => itemText item (plainText item)
  | item :: rest => itemText item (plainText item) ++ "," ++ plainItems rest

end

end Json

end DeviceLogin
