import Mathlib.Data.List.Lex
import DeviceLogin.Json.Reader
import DeviceLogin.Proofs.Json.Searching
import DeviceLogin.Proofs.MemberOrder

set_option autoImplicit false

namespace DeviceLogin.Json

def parts : Json → List Json
  | .obj members => members.map (·.2)
  | .arr items => items
  | _ => []

def at? (tree : Json) : List Nat → Option Json
  | [] => some tree
  | place :: way => tree.parts[place]?.bind (at? · way)

def memberAt? (name : String) (tree : Json) (way : List Nat) : Option Json := (tree.at? way).bind (·.member? name)

-- The first object in pre-order that has the member, by the way to it.
structure FirstAt (name : String) (tree : Json) (way : List Nat) (value : Json) : Prop where
  holds : memberAt? name tree way = some value
  before : ∀ earlier < way, memberAt? name tree earlier = none

def InOrder (tree : Json) : Prop := ∀ way members, tree.at? way = some (.obj members) → Ordered.asMembers members = members

theorem part_smaller {tree part : Json} (below : part ∈ tree.parts) : sizeOf part < sizeOf tree := by
  cases tree with
  | obj members =>
      obtain ⟨⟨name, value⟩, member, rfl⟩ := List.mem_map.mp below
      have inside := List.sizeOf_lt_of_mem member
      simp only [Prod.mk.sizeOf_spec, Json.obj.sizeOf_spec] at inside ⊢
      omega
  | arr items =>
      have inside := List.sizeOf_lt_of_mem (show part ∈ items from below)
      simp only [Json.arr.sizeOf_spec]
      omega
  | _ => cases below

theorem of_parts {property : Json → Prop} (step : ∀ tree : Json, (∀ part ∈ tree.parts, property part) → property tree)
    (tree : Json) : property tree :=
  step tree fun part _ => of_parts step part
termination_by sizeOf tree
decreasing_by exact part_smaller ‹_›

section FirstMember

variable (name : String) (tree : Json)

theorem objects_in_items (items : List Json) : objectsInItems items = items.flatMap objects := by
  induction items with
  | nil => rfl
  | cons item rest ih => rw [objectsInItems, ih, List.flatMap_cons]

theorem objects_in_members (members : List (String × Json)) :
    objectsInMembers members = (members.map (·.2)).flatMap objects := by
  induction members with
  | nil => rfl
  | cons member rest ih =>
      obtain ⟨key, value⟩ := member
      rw [objectsInMembers, ih, List.map_cons, List.flatMap_cons]

theorem first_in_all (values : List Json) :
    (values.flatMap objects).findSome? (Ordered.get? · name) = values.findSome? (firstMember? name) := by
  induction values with
  | nil => rfl
  | cons value rest ih =>
      rw [List.flatMap_cons, List.findSome?_append, ih, List.findSome?_cons, firstMember?]
      cases value.objects.findSome? (Ordered.get? · name) <;> rfl

theorem first_member_parts :
    firstMember? name tree = (tree.member? name).or (tree.parts.findSome? (firstMember? name)) := by
  cases tree with
  | obj members =>
      rw [firstMember?, objects, List.findSome?_cons, objects_in_members, first_in_all, member?]
      cases Ordered.get? members name <;> rfl
  | arr items =>
      rw [firstMember?, objects, objects_in_items, first_in_all]
      rfl
  | _ => rfl

theorem member_at_below (place : Nat) (way : List Nat) :
    memberAt? name tree (place :: way) = tree.parts[place]?.bind (memberAt? name · way) := by
  rw [memberAt?, at?, Option.bind_assoc]
  rfl

theorem member_at_iff (way : List Nat) (value : Json) :
    memberAt? name tree way = some value ↔
      ∃ members, tree.at? way = some (.obj members) ∧ Ordered.get? members name = some value := by
  rw [memberAt?, Option.bind_eq_some_iff]
  constructor
  · rintro ⟨found, there, held⟩
    cases found with
    | obj members => exact ⟨members, there, held⟩
    | _ => cases held
  · rintro ⟨members, there, held⟩
    exact ⟨.obj members, there, held⟩

theorem unfound_iff : firstMember? name tree = none ↔ ∀ way, memberAt? name tree way = none := by
  induction tree using of_parts with
  | step tree ih =>
      rw [first_member_parts, Option.or_eq_none_iff, List.findSome?_eq_none_iff]
      constructor
      · rintro ⟨root, below⟩ way
        cases way with
        | nil => exact root
        | cons place way =>
            rw [member_at_below]
            cases there : tree.parts[place]? with
            | none => rfl
            | some part =>
                have member := List.mem_of_getElem? there
                exact (ih part member).mp (below part member) way
      · intro nowhere
        refine ⟨nowhere [], fun part member => (ih part member).mpr fun way => ?_⟩
        obtain ⟨place, there⟩ := List.mem_iff_getElem?.mp member
        have missing := nowhere (place :: way)
        rwa [member_at_below, there] at missing

theorem first_at_below {value part : Json} {before after : List Json} {way : List Nat}
    (parts : tree.parts = before ++ part :: after) (root : tree.member? name = none)
    (passed : ∀ other ∈ before, firstMember? name other = none) (first : FirstAt name part way value) :
    FirstAt name tree (before.length :: way) value := by
  have there : tree.parts[before.length]? = some part := by simp [parts]
  refine ⟨?_, fun earlier lower => ?_⟩
  · rw [member_at_below, there]
    exact first.holds
  · cases earlier with
    | nil => exact root
    | cons place rest =>
        rw [member_at_below]
        rcases List.cons_lt_cons_iff.mp lower with left | ⟨rfl, rest_lower⟩
        · have inside : tree.parts[place]? = some before[place] := by
            rw [parts, List.getElem?_append_left left, List.getElem?_eq_getElem left]
          rw [inside]
          exact (unfound_iff name before[place]).mp (passed _ (List.getElem_mem left)) rest
        · rw [there]
          exact first.before rest rest_lower

theorem found_first {value : Json} (found : firstMember? name tree = some value) : ∃ way, FirstAt name tree way value := by
  induction tree using of_parts with
  | step tree ih =>
      rw [first_member_parts] at found
      cases root : tree.member? name with
      | some own =>
          rw [root, Option.some_or] at found
          exact ⟨[], root.trans found, fun earlier lower => absurd lower (List.not_lt_nil earlier)⟩
      | none =>
          rw [root, Option.none_or] at found
          obtain ⟨before, part, after, parts, there, passed⟩ := List.findSome?_eq_some_iff.mp found
          obtain ⟨way, first⟩ := ih part (by simp [parts]) there
          exact ⟨before.length :: way, first_at_below name tree parts root passed first⟩

theorem first_at_unique {one two : List Nat} {value other : Json} (first : FirstAt name tree one value)
    (second : FirstAt name tree two other) : value = other := by
  rcases lt_trichotomy one two with lower | rfl | upper
  · exact nomatch first.holds.symm.trans (second.before one lower)
  · exact Option.some.inj (first.holds.symm.trans second.holds)
  · exact nomatch second.holds.symm.trans (first.before two upper)

theorem first_member_iff (value : Json) : firstMember? name tree = some value ↔ ∃ way, FirstAt name tree way value := by
  constructor
  · exact found_first name tree
  · rintro ⟨way, first⟩
    cases found : firstMember? name tree with
    | none => exact nomatch first.holds.symm.trans ((unfound_iff name tree).mp found way)
    | some other =>
        obtain ⟨place, earliest⟩ := found_first name tree found
        rw [first_at_unique name tree earliest first]

end FirstMember

section Reading

theorem in_order_of_parts {tree : Json} (root : ∀ members, tree = .obj members → Ordered.asMembers members = members)
    (below : ∀ part ∈ tree.parts, part.InOrder) : tree.InOrder := by
  intro way members there
  cases way with
  | nil => exact root members (Option.some.inj there)
  | cons place way =>
      obtain ⟨part, member, inside⟩ := Option.bind_eq_some_iff.mp there
      exact below part (List.mem_of_getElem? member) way members inside

theorem in_order_leaf {tree : Json} (leaf : tree.parts = []) (other : ∀ members, tree ≠ .obj members) : tree.InOrder :=
  in_order_of_parts (fun members same => absurd same (other members)) (by simp [leaf])

theorem array_in_order (items : List Json) (each : ∀ item ∈ items, item.InOrder) : (Json.arr items).InOrder :=
  in_order_of_parts (fun _ same => nomatch same) each

theorem object_in_order (members : List (String × Json)) (each : ∀ member ∈ members, member.2.InOrder) :
    (object members).InOrder := by
  refine in_order_of_parts (fun listed same => ?_) fun part below => ?_
  · rw [← Json.obj.inj same]
    exact Ordered.as_members_twice members
  · obtain ⟨member, listed, rfl⟩ := List.mem_map.mp below
    exact each member (Ordered.mem_of_as_members members member listed)

structure ReadsInOrder (fuel : Nat) : Prop where
  value : ∀ {text rest value}, readValue fuel text = some (value, rest) → value.InOrder
  items : ∀ {text rest items}, readItems fuel text = some (items, rest) → ∀ item ∈ items, item.InOrder
  members : ∀ {text rest members}, readMembers fuel text = some (members, rest) → ∀ member ∈ members, member.2.InOrder

theorem word_in_order {word text rest : List Char} {value tree : Json}
    (read : readWord word value text = some (tree, rest)) (simple : value.InOrder) : tree.InOrder := by
  unfold readWord at read
  split at read
  · rw [← (Prod.mk.inj (Option.some.inj read)).1]
    exact simple
  · cases read

theorem value_read_in_order {fuel : Nat} (smaller : ReadsInOrder fuel) {text rest : List Char} {value : Json}
    (read : readValue (fuel + 1) text = some (value, rest)) : value.InOrder := by
  unfold readValue at read
  split at read
  · obtain ⟨found, -, same⟩ := Option.map_eq_some_iff.mp read
    obtain ⟨rfl, -⟩ := Prod.mk.inj same
    exact in_order_leaf rfl nofun
  · split at read
    · obtain ⟨rfl, -⟩ := Prod.mk.inj (Option.some.inj read)
      exact array_in_order [] nofun
    · obtain ⟨found, items, same⟩ := Option.map_eq_some_iff.mp read
      obtain ⟨rfl, -⟩ := Prod.mk.inj same
      exact array_in_order _ (smaller.items items)
  · split at read
    · obtain ⟨rfl, -⟩ := Prod.mk.inj (Option.some.inj read)
      exact in_order_of_parts (fun members same => Json.obj.inj same ▸ Ordered.as_members_nil) nofun
    · obtain ⟨found, members, same⟩ := Option.map_eq_some_iff.mp read
      obtain ⟨rfl, -⟩ := Prod.mk.inj same
      exact object_in_order _ (smaller.members members)
  · exact word_in_order read (in_order_leaf rfl nofun)
  · exact word_in_order read (in_order_leaf rfl nofun)
  · exact word_in_order read (in_order_leaf rfl nofun)
  · obtain ⟨found, -, same⟩ := Option.map_eq_some_iff.mp read
    obtain ⟨rfl, -⟩ := Prod.mk.inj same
    exact in_order_leaf rfl nofun

theorem items_read_in_order {fuel : Nat} (smaller : ReadsInOrder fuel) {text rest : List Char} {items : List Json}
    (read : readItems (fuel + 1) text = some (items, rest)) : ∀ item ∈ items, item.InOrder := by
  unfold readItems at read
  split at read
  · cases read
  · next item _ first =>
    split at read
    · obtain ⟨rfl, -⟩ := Prod.mk.inj (Option.some.inj read)
      exact List.forall_mem_singleton.mpr (smaller.value first)
    · obtain ⟨found, later, same⟩ := Option.map_eq_some_iff.mp read
      obtain ⟨rfl, -⟩ := Prod.mk.inj same
      exact List.forall_mem_cons.mpr ⟨smaller.value first, smaller.items later⟩
    · cases read

theorem members_read_in_order {fuel : Nat} (smaller : ReadsInOrder fuel) {text rest : List Char}
    {members : List (String × Json)} (read : readMembers (fuel + 1) text = some (members, rest)) :
    ∀ member ∈ members, member.2.InOrder := by
  unfold readMembers at read
  split at read
  · split at read
    · cases read
    · split at read
      · split at read
        · cases read
        · next value _ first =>
          split at read
          · obtain ⟨rfl, -⟩ := Prod.mk.inj (Option.some.inj read)
            exact List.forall_mem_singleton.mpr (smaller.value first)
          · obtain ⟨found, later, same⟩ := Option.map_eq_some_iff.mp read
            obtain ⟨rfl, -⟩ := Prod.mk.inj same
            exact List.forall_mem_cons.mpr ⟨smaller.value first, smaller.members later⟩
          · cases read
      · cases read
  · cases read

theorem reads_in_order (fuel : Nat) : ReadsInOrder fuel := by
  induction fuel with
  | zero => exact ⟨nofun, nofun, nofun⟩
  | succ fuel ih => exact ⟨value_read_in_order ih, items_read_in_order ih, members_read_in_order ih⟩

theorem read_in_order (text : String) (tree : Json) (read : read? text = some tree) : tree.InOrder := by
  dsimp only [read?] at read
  split at read
  · next value rest found =>
    split at read
    · rw [← Option.some.inj read]
      exact (reads_in_order _).value found
    · cases read
  · cases read

end Reading

-- Any member that is not inherited is found wherever it is: a search finds something exactly if some object of the tree,
-- however deep in objects and lists, has a member of that name, and it finds the value, be it null, that the first such
-- object has. First is the object before those in it, and what comes earlier in an object or list before what comes later;
-- in a tree that was read, the members of each object stand by their names: array indices by size, and the others as they
-- were given.
theorem search_finds_first (name : String) (own : name ∉ Ordered.keys inherited) (tree : Json) :
    ((find? name tree).isSome = true ↔ ∃ way members value,
      tree.at? way = some (.obj members) ∧ Ordered.get? members name = some value) ∧
    (∀ finding, find? name tree = some finding ↔ ∃ way value, finding = .value value ∧ FirstAt name tree way value) ∧
    ∀ text, read? text = some tree → tree.InOrder := by
  have plain : Ordered.get? inherited name = none := (Ordered.get_none_iff inherited name).mpr own
  have same := find_first name plain tree
  refine ⟨?_, fun finding => ?_, fun text => read_in_order text tree⟩
  · rw [same, Option.isSome_map, ← Option.ne_none_iff_isSome, Ne, unfound_iff, not_forall]
    constructor
    · rintro ⟨way, there⟩
      obtain ⟨value, held⟩ := Option.ne_none_iff_exists'.mp there
      obtain ⟨members, object, here⟩ := (member_at_iff name tree way value).mp held
      exact ⟨way, members, value, object, here⟩
    · rintro ⟨way, members, value, object, here⟩
      refine ⟨way, fun missing => ?_⟩
      exact nomatch missing.symm.trans ((member_at_iff name tree way value).mpr ⟨members, object, here⟩)
  · rw [same, Option.map_eq_some_iff]
    constructor
    · rintro ⟨value, found, rfl⟩
      obtain ⟨way, first⟩ := (first_member_iff name tree value).mp found
      exact ⟨way, value, rfl, first⟩
    · rintro ⟨way, value, rfl, first⟩
      exact ⟨value, (first_member_iff name tree value).mpr ⟨way, first⟩, rfl⟩

theorem search_finds_first_null :
    let tree : Json := .arr [.obj [("x", .arr [.str "", .obj [("name", .null)]])], .obj [("name", .bool true)]]
    "name" ∉ Ordered.keys inherited ∧ find? "name" tree = some (.value .null) ∧ ∃ way, FirstAt "name" tree way .null := by
  intro tree
  have own : "name" ∉ Ordered.keys inherited := by decide
  have found : find? "name" tree = some (.value .null) := rfl
  obtain ⟨way, value, same, first⟩ := ((search_finds_first "name" own tree).2.1 (.value .null)).mp found
  obtain rfl := Finding.value.inj same
  exact ⟨own, found, way, first⟩

end DeviceLogin.Json
