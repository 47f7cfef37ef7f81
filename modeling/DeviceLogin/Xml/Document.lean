import DeviceLogin.Json.Search
import DeviceLogin.Text.Blank
import DeviceLogin.Xml.Token

set_option autoImplicit false

namespace DeviceLogin.Xml

def localName (name : String) : String :=
  let text := name.toList
  if "xmlns".toList.isPrefixOf text || !text.contains ':' then name
  else String.ofList (text.reverse.takeWhile (· != ':')).reverse

structure Element where
  name : String
  members : List (String × Json)

namespace Element

-- Adds a member; a name that is taken, also by what every object inherits, gets a list.
def add (members : List (String × Json)) (name : String) (value : Json) : List (String × Json) :=
  match Ordered.get? members name with
  | some (.arr items) => Ordered.put members name (.arr (items ++ [value]))
  | some old => Ordered.put members name (.arr [old, value])
  | none =>
      if Ordered.has Json.inherited name then members ++ [(name, .arr [.null, value])]
      else members ++ [(name, value)]

def opened (name : String) (attributes : List (String × String)) : Element :=
  { name := localName name
    members := attributes.foldl (fun members entry => add members entry.1 (.str entry.2)) [("_", .str "")] }

def textOf (members : List (String × Json)) : String :=
  match Ordered.get? members "_" with
  | some value => value.plainText
  | none => ""

def addText (element : Element) (text : String) : Element :=
  { element with members := Ordered.put element.members "_" (.str (textOf element.members ++ text)) }

def addCdata (element : Element) (text : String) : Element :=
  let extended := element.addText text
  { extended with members := Ordered.put extended.members "cdata" (.bool true) }

-- The value of an element that is closed. Blank text counts only when nothing else is there, or as
-- marked text.
def value (element : Element) : Json :=
  let marked := Ordered.get? element.members "cdata" == some (.bool true)
  let members := if marked then Ordered.erase element.members "cdata" else element.members
  let text := textOf members
  if Text.isBlank text && !marked then
    match Ordered.erase members "_" with
    | [] => .str text
    | rest => Json.object rest
  else if members.length = 1 then .str (Text.trim text)
  else Json.object (Ordered.put members "_" (.str (Text.trim text)))

-- Whether an element can be closed: besides its text, nothing else is held under the name of its text.
def hasOneText (element : Element) : Bool :=
  match Ordered.get? element.members "_" with
  | some (.str _) => true
  | _ => false

end Element

structure Marks where
  faulty : Bool := false
  ended : Bool := false
deriving DecidableEq, Inhabited

-- Why a document has no tree: it breaks a rule, or an element holds more than its text under the name
-- of its text.
inductive Fault where
  | broken (message : String)
  | crowdedText
deriving DecidableEq

structure Reading where
  marks : Marks
  elements : List Element := []
  answer : Option (Except Fault Json) := none
  aborted : Bool := false

namespace Reading

def settle (reading : Reading) (answer : Except Fault Json) : Reading :=
  { reading with marks := {}, answer := some answer }

-- The first fault is the answer, and a later one ends the reading, but a reader that met a fault
-- before passes over them.
def fault (reading : Reading) (message : String) : Reading :=
  if reading.marks.faulty then reading
  else if reading.answer.isNone then reading.settle (.error (.broken message))
  else { reading with marks := { reading.marks with faulty := true }, aborted := true }

def root (reading : Reading) (tree : Json) : Reading :=
  if reading.answer.isNone then reading.settle (.ok tree)
  else { reading with marks := { reading.marks with ended := true } }

-- An element that cannot be closed ends the reading. It is the answer if there was none, except for a
-- reader that met a fault before and reached no end since.
def crowd (reading : Reading) : Reading :=
  let stopped := { reading with aborted := true }
  if reading.answer.isSome then stopped
  else if reading.marks.ended then { stopped with answer := some (.error .crowdedText) }
  else if reading.marks.faulty then stopped
  else { stopped with answer := some (.error .crowdedText), marks := { faulty := true } }

def closeTop (reading : Reading) : Reading :=
  match reading.elements with
  | [] => reading
  | [element] => { reading with elements := [] }.root (.obj [(element.name, element.value)])
  | element :: parent :: rest =>
      let grown := { parent with members := Element.add parent.members element.name element.value }
      { reading with elements := grown :: rest }

def close (reading : Reading) : Reading :=
  if (reading.elements.head?.map Element.hasOneText).getD true then reading.closeTop else reading.crowd

def onTop (reading : Reading) (change : Element → Element) : Reading :=
  match reading.elements with
  | [] => reading
  | element :: rest => { reading with elements := change element :: rest }

def step (reading : Reading) (token : Token) : Reading :=
  if reading.aborted then reading
  else
    match token with
    | .opened name attributes =>
        { reading with elements := Element.opened name attributes :: reading.elements }
    | .closed => reading.close
    | .text content => reading.onTop (·.addText content)
    | .cdata content => reading.onTop (·.addCdata content)
    | .fault message => reading.fault message

def finish (reading : Reading) : Reading :=
  if reading.aborted || reading.marks.ended then reading
  else if reading.answer.isNone then reading.settle (.ok .null)
  else { reading with marks := { reading.marks with ended := true } }

end Reading

def read (marks : Marks) (source : String) : Option (Except Fault Json) × Marks :=
  if Text.isBlank source then (some (.ok .null), {})
  else
    let text :=
      match source.toList with
      | c :: rest => if c.toNat = 0xFEFF then rest else c :: rest
      | [] => []
    let reading := ((tokens text).foldl Reading.step { marks := marks }).finish
    (reading.answer, reading.marks)

end DeviceLogin.Xml
