import DeviceLogin.Json.Basic

set_option autoImplicit false

namespace DeviceLogin.Json

inductive Finding where
  | value (value : Json)
  | function (name : String)
  | ancestor

def inherited : Ordered Finding :=
  [("constructor", .function "Object"), ("__proto__", .ancestor)] ++
    ["__defineGetter__", "__defineSetter__", "hasOwnProperty", "__lookupGetter__", "__lookupSetter__",
      "isPrototypeOf", "propertyIsEnumerable", "toString", "valueOf", "toLocaleString"].map
      fun name => (name, .function name)

def lookUp (members : List (String × Json)) (name : String) : Option Finding :=
  match Ordered.get? members name with
  | some value => some (.value value)
  | none => Ordered.get? inherited name

mutual

def find? (name : String) : Json → Option Finding
  | .obj members =>
      match lookUp members name with
      | some finding => some finding
      | none => findInMembers name members
  | .arr items => findInItems name items
  | _ => none

def findInItems (name : String) : List Json → Option Finding
  | [] => none
  | item :: rest =>
      match find? name item with
      | some finding => some finding
      | none => findInItems name rest

def findInMembers (name : String) : List (String × Json) → Option Finding
  | [] => none
  | (_, value) :: rest =>
      match find? name value with
      | some finding => some finding
      | none => findInMembers name rest

end

def findValue? (name : String) (tree : Json) : Option Json :=
  match find? name tree with
  | some (.value value) => some value
  | _ => none

def elementText? : Json → Option String
  | .str value => some value
  | .obj members => (Ordered.get? members "_").bind text?
  | _ => none

end DeviceLogin.Json
