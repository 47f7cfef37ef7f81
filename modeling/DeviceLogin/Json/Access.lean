import DeviceLogin.Json.Basic

set_option autoImplicit false

namespace DeviceLogin.Json

def items : Json → List Json
  | .arr items => items
  | _ => []

def members : Json → List (String × Json)
  | .obj members => members
  | _ => []

def textAt? (value : Json) (name : String) : Option String := (value.member? name).bind text?

def textAt (value : Json) (name : String) (fallback : String := "") : String := (value.textAt? name).getD fallback

def itemsAt (value : Json) (name : String) : List Json := ((value.member? name).map items).getD []

def membersAt (value : Json) (name : String) : List (String × Json) := ((value.member? name).map members).getD []

def textsAt (value : Json) (name : String) : List String := (value.itemsAt name).filterMap text?

def numberAt? (value : Json) (name : String) : Option Number :=
  match value.member? name with
  | some (.num n) => some n
  | _ => none

def natAt? (value : Json) (name : String) : Option Nat :=
  (value.numberAt? name).bind Number.toNat?

def boolAt? (value : Json) (name : String) : Option Bool :=
  match value.member? name with
  | some (.bool b) => some b
  | _ => none

def textMembers (members : List (String × Json)) : Ordered String :=
  members.filterMap fun member => member.2.text?.map fun value => (member.1, value)

end DeviceLogin.Json
