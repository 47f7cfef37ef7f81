import DeviceLogin.Json.Basic
import DeviceLogin.Url.Reader

set_option autoImplicit false

namespace DeviceLogin

inductive Shape.TextRule where
  | address
  | macAddress
  | nonEmpty
deriving DecidableEq

inductive Shape where
  | text (rules : List Shape.TextRule)
  | number
  | anything
  | list (item : Shape)
  | tuple (items : List Shape)
  | record (value : Shape)
  | object (fields : List (String × Shape)) (keepsOthers : Bool)
  | oneOf (options : List Shape)
  | optional (inner : Shape)
  | nullable (inner : Shape)

namespace Shape

inductive Step where
  | member (name : String)
  | item (index : Nat)

def Step.text : Step → String
  | .member name => name
  | .item index => String.ofList (Nat.toDigits 10 index)

inductive Fault where
  | missing
  | wrongKind (expected received : String)
  | tooFewItems (least : Nat)
  | tooManyItems (most : Nat)
  | tooShort (least : Nat)
  | noAddress
  | badFormat
  | noOption

def Fault.text : Fault → String
  | .missing => "Required"
  | .wrongKind expected received => "Expected " ++ expected ++ ", received " ++ received
  | .tooFewItems least =>
      "Array must contain at least " ++ String.ofList (Nat.toDigits 10 least) ++ " element(s)"
  | .tooManyItems most =>
      "Array must contain at most " ++ String.ofList (Nat.toDigits 10 most) ++ " element(s)"
  | .tooShort least =>
      "String must contain at least " ++ String.ofList (Nat.toDigits 10 least) ++ " character(s)"
  | .noAddress => "Invalid url"
  | .badFormat => "Invalid"
  | .noOption => "Invalid input"

structure Issue where
  path : List Step
  fault : Fault

def Issue.text (issue : Issue) : String :=
  String.intercalate "." (issue.path.map Step.text) ++ ": " ++ issue.fault.text

def kindOf : Json → String
  | .null => "null"
  | .bool _ => "boolean"
  | .num _ => "number"
  | .str _ => "string"
  | .arr _ => "array"
  | .obj _ => "object"

def mismatch (expected : String) : Option Json → List Issue
  | none => [⟨[], .missing⟩]
  | some value => [⟨[], .wrongKind expected (kindOf value)⟩]

def under (step : Step) (issues : List Issue) : List Issue :=
  issues.map fun issue => { issue with path := step :: issue.path }

def spellsMac : Nat → List Char → Bool
  | 0, [a, b] => Text.isHexDigit a && Text.isHexDigit b
  | 0, _ => false
  | pairs + 1, a :: b :: rest =>
      Text.isHexDigit a && Text.isHexDigit b &&
        match rest with
        | ':' :: tail => spellsMac pairs tail
        | '-' :: tail => spellsMac pairs tail
        | _ => spellsMac pairs rest
  | _ + 1, _ => false

def TextRule.fault? (rule : TextRule) (value : String) : Option Fault :=
  match rule with
  | .address => if (Url.read? value).isSome then none else some .noAddress
  | .macAddress => if spellsMac 5 value.toList then none else some .badFormat
  | .nonEmpty => if value.isEmpty then some (.tooShort 1) else none

abbrev Checked (α : Type) := Except (List Issue) α

def both {α β : Type} (first : Checked α) (second : Checked β) : Checked (α × β) :=
  match first, second with
  | .ok a, .ok b => .ok (a, b)
  | .error issues, .ok _ => .error issues
  | .ok _, .error issues => .error issues
  | .error issues, .error more => .error (issues ++ more)

def mapChecked {α β : Type} (f : α → β) : Checked α → Checked β
  | .ok a => .ok (f a)
  | .error issues => .error issues

def atStep {α : Type} (step : Step) : Checked α → Checked α
  | .ok a => .ok a
  | .error issues => .error (under step issues)

def checkEach (check : Json → Checked Json) : Nat → List Json → Checked (List Json)
  | _, [] => .ok []
  | index, item :: rest =>
      mapChecked (fun (a, b) => a :: b) (both (atStep (.item index) (check item)) (checkEach check (index + 1) rest))

def checkMembers (check : Json → Checked Json) : List (String × Json) → Checked (List (String × Json))
  | [] => .ok []
  | (name, value) :: rest =>
      mapChecked (fun (a, b) => (name, a) :: b) (both (atStep (.member name) (check value)) (checkMembers check rest))

def dropped (name : String) : Bool := name == "__proto__"

def keepMembers (members : List (String × Json)) : List (String × Json) :=
  members.filter fun member => !dropped member.1

def present (value : Json) (checked : Checked (Option Json)) : Checked Json :=
  mapChecked (·.getD value) checked

mutual

def check : Shape → Option Json → Checked (Option Json)
  | .text rules, value =>
      match value with
      | some (.str found) =>
          match rules.filterMap (·.fault? found) with
          | [] => .ok value
          | faults => .error (faults.map (⟨[], ·⟩))
      | _ => .error (mismatch "string" value)
  | .number, value =>
      match value with
      | some (.num _) => .ok value
      | _ => .error (mismatch "number" value)
  | .anything, value => .ok value
  | .list item, value =>
      match value with
      | some (.arr items) =>
          mapChecked (fun items => some (.arr items)) (checkEach (fun v => present v (check item (some v))) 0 items)
      | _ => .error (mismatch "array" value)
  | .tuple shapes, value =>
      match value with
      | some (.arr items) =>
          if items.length < shapes.length then .error [⟨[], .tooFewItems shapes.length⟩]
          else
            let excess : Checked Unit :=
              if shapes.length < items.length then .error [⟨[], .tooManyItems shapes.length⟩] else .ok ()
            mapChecked (fun (_, items) => some (.arr items)) (both excess (checkTuple shapes 0 items))
      | _ => .error (mismatch "array" value)
  | .record item, value =>
      match value with
      | some (.obj members) =>
          mapChecked (fun members => some (.obj (keepMembers members)))
            (checkMembers (fun v => present v (check item (some v))) members)
      | _ => .error (mismatch "object" value)
  | .object fields keepsOthers, value =>
      match value with
      | some (.obj members) =>
          let others :=
            if keepsOthers then members.filter fun member => !(fields.map (·.1)).contains member.1 else []
          mapChecked (fun known => some (Json.object (keepMembers (known ++ others)))) (checkFields fields members)
      | _ => .error (mismatch "object" value)
  | .oneOf options, value =>
      match checkOptions options value with
      | some found => .ok found
      | none => .error [⟨[], .noOption⟩]
  | .optional inner, value =>
      match value with
      | none => .ok none
      | some _ => check inner value
  | .nullable inner, value =>
      match value with
      | some .null => .ok value
      | _ => check inner value

def checkTuple : List Shape → Nat → List Json → Checked (List Json)
  | [], _, _ => .ok []
  | _ :: _, _, [] => .ok []
  | shape :: shapes, index, item :: rest =>
      mapChecked (fun (a, b) => a :: b)
        (both (atStep (.item index) (present item (check shape (some item)))) (checkTuple shapes (index + 1) rest))

def checkFields : List (String × Shape) → List (String × Json) → Checked (List (String × Json))
  | [], _ => .ok []
  | (name, shape) :: fields, members =>
      mapChecked (fun (value, rest) =>
          match value with
          | some value => (name, value) :: rest
          | none => rest)
        (both (atStep (.member name) (check shape (Ordered.get? members name))) (checkFields fields members))

def checkOptions : List Shape → Option Json → Option (Option Json)
  | [], _ => none
  | shape :: shapes, value =>
      match check shape value with
      | .ok found => some found
      | .error _ => checkOptions shapes value

end

def accept? (shape : Shape) (value : Option Json) : Option Json :=
  match check shape value with
  | .ok found => found
  | .error _ => none

def report (issues : List Issue) : String := String.intercalate ", " (issues.map Issue.text)

end Shape

end DeviceLogin
