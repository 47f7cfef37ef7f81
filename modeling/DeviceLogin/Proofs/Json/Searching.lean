import DeviceLogin.Json.Search

set_option autoImplicit false

namespace DeviceLogin.Json

mutual

def objects : Json → List (List (String × Json))
  | .obj members => members :: objectsInMembers members
  | .arr items => objectsInItems items
  | _ => []

def objectsInItems : List Json → List (List (String × Json))
  | [] => []
  | item :: rest => objects item ++ objectsInItems rest

def objectsInMembers : List (String × Json) → List (List (String × Json))
  | [] => []
  | (_, value) :: rest => objects value ++ objectsInMembers rest

end

def firstMember? (name : String) (tree : Json) : Option Json := tree.objects.findSome? (Ordered.get? · name)

theorem look_up_own (name : String) (own : Ordered.get? inherited name = none) (members : List (String × Json)) :
    lookUp members name = (Ordered.get? members name).map .value := by
  rw [lookUp, own]
  cases Ordered.get? members name <;> rfl

mutual

theorem find_first (name : String) (own : Ordered.get? inherited name = none) (tree : Json) :
    find? name tree = (firstMember? name tree).map .value := by
  cases tree with
  | obj members =>
      rw [find?, look_up_own name own, firstMember?, objects, List.findSome?_cons, find_first_in_members name own members]
      cases Ordered.get? members name <;> rfl
  | arr items => rw [find?, find_first_in_items name own items, firstMember?, objects]
  | _ => rfl

theorem find_first_in_items (name : String) (own : Ordered.get? inherited name = none) (items : List Json) :
    findInItems name items = ((objectsInItems items).findSome? (Ordered.get? · name)).map .value := by
  cases items with
  | nil => rfl
  | cons item rest =>
      rw [findInItems, find_first name own item, find_first_in_items name own rest, firstMember?, objectsInItems,
        List.findSome?_append]
      cases (objects item).findSome? (Ordered.get? · name) <;> rfl

theorem find_first_in_members (name : String) (own : Ordered.get? inherited name = none)
    (members : List (String × Json)) :
    findInMembers name members = ((objectsInMembers members).findSome? (Ordered.get? · name)).map .value := by
  cases members with
  | nil => rfl
  | cons member rest =>
      obtain ⟨key, value⟩ := member
      rw [findInMembers, find_first name own value, find_first_in_members name own rest, firstMember?, objectsInMembers,
        List.findSome?_append]
      cases (objects value).findSome? (Ordered.get? · name) <;> rfl

end

theorem find_value_first (name : String) (own : Ordered.get? inherited name = none) (tree : Json) :
    findValue? name tree = firstMember? name tree := by
  rw [findValue?, find_first name own]
  cases firstMember? name tree <;> rfl

end DeviceLogin.Json
