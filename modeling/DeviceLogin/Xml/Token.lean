import DeviceLogin.Ordered
import DeviceLogin.Text.Hex
import DeviceLogin.Text.Lowercase
import DeviceLogin.Xml.EntityTable

set_option autoImplicit false

namespace DeviceLogin.Xml

inductive Token where
  | opened (name : String) (attributes : List (String × String))
  | closed
  | text (content : String)
  | cdata (content : String)
  | fault (message : String)

def isGap (c : Char) : Bool := c == ' ' || c == '\n' || c == '\r' || c == '\t'

def isQuote (c : Char) : Bool := c == '"' || c == '\''

def nameStarts : List Text.CodeRange :=
  [⟨0x3A, 0x3A⟩, ⟨0x41, 0x5A⟩, ⟨0x5F, 0x5F⟩, ⟨0x61, 0x7A⟩, ⟨0xC0, 0xD6⟩, ⟨0xD8, 0xF6⟩, ⟨0xF8, 0x2FF⟩,
    ⟨0x370, 0x37D⟩, ⟨0x37F, 0x1FFF⟩, ⟨0x200C, 0x200D⟩, ⟨0x2070, 0x218F⟩, ⟨0x2C00, 0x2FEF⟩, ⟨0x3001, 0xD7FF⟩,
    ⟨0xF900, 0xFDCF⟩, ⟨0xFDF0, 0xFFFD⟩]

def namePieces : List Text.CodeRange :=
  [⟨0xB7, 0xB7⟩, ⟨0x300, 0x36F⟩, ⟨0x203F, 0x2040⟩, ⟨0x2E, 0x2E⟩, ⟨0x30, 0x39⟩, ⟨0x2D, 0x2D⟩]

def startsName (c : Char) : Bool := Text.inCodeRanges nameStarts c

def isInName (c : Char) : Bool := startsName c || Text.inCodeRanges namePieces c

inductive Mode where
  | start
  | beforeRoot
  | text
  | textEntity
  | angle
  | declaration
  | declarationQuoted
  | doctype
  | doctypeQuoted
  | subset
  | subsetQuoted
  | comment
  | commentDash
  | commentDashes
  | cdata
  | cdataBracket
  | cdataBrackets
  | instruction
  | instructionBody
  | instructionMark
  | tagName
  | tagSlash
  | attributes
  | attributeName
  | afterAttributeName
  | beforeValue
  | quotedValue
  | quotedEntity
  | afterValue
  | bareValue
  | bareEntity
  | closingName
  | afterClosingName
deriving DecidableEq

inductive Doctype where
  | unread
  | reading (empty : Bool)
  | read
deriving DecidableEq

-- The state of the reader. Texts that are being read are held last character first, and so are the
-- tokens.
structure Scan where
  mode : Mode := .start
  line : Nat := 0
  column : Nat := 0
  here : List Char := []
  sawRoot : Bool := false
  closedRoot : Bool := false
  doctype : Doctype := .unread
  openNames : List (List Char) := []
  text : List Char := []
  name : List Char := []
  attributeName : List Char := []
  value : List Char := []
  attributes : List (String × String) := []
  word : List Char := []
  entity : List Char := []
  quote : Char := ' '
  sinceAngle : Nat := 0
  tokens : List Token := []

namespace Scan

def into (scan : Scan) (mode : Mode) : Scan := { scan with mode := mode }

def flush (scan : Scan) : Scan :=
  if scan.text.isEmpty then scan
  else { scan with text := [], tokens := .text (String.ofList scan.text.reverse) :: scan.tokens }

def emit (scan : Scan) (token : Token) : Scan :=
  let flushed := scan.flush
  { flushed with tokens := token :: flushed.tokens }

def number (n : Nat) : String := String.ofList (Nat.toDigits 10 n)

def fault (scan : Scan) (message : String) : Scan :=
  scan.emit (.fault (message ++ "\nLine: " ++ number scan.line ++ "\nColumn: " ++ number scan.column ++
    "\nChar: " ++ String.ofList scan.here))

def expect (scan : Scan) (condition : Bool) (message : String) : Scan :=
  if condition then scan else scan.fault message

def addText (scan : Scan) (text : List Char) : Scan := { scan with text := text.reverse ++ scan.text }

def beginTag (scan : Scan) : Scan := { scan with attributes := [] }

def openTag (scan : Scan) : Scan :=
  let opened := { scan with sawRoot := true, openNames := scan.name.reverse :: scan.openNames }
  let emitted := opened.emit (.opened (String.ofList scan.name.reverse) scan.attributes)
  { emitted with mode := .text, attributeName := [], value := [] }

def keepAttribute (scan : Scan) (value : List Char) : Scan :=
  let name := String.ofList scan.attributeName.reverse
  let kept :=
    if scan.attributes.any (·.1 == name) || name == "__proto__" then scan.attributes
    else scan.attributes ++ [(name, String.ofList value)]
  { scan with attributes := kept, attributeName := [], value := [] }

def keepBare (scan : Scan) : Scan :=
  let name := String.ofList scan.attributeName.reverse
  let kept :=
    if name == "__proto__" then scan.attributes
    else if scan.attributes.any (·.1 == name) then
      scan.attributes.map fun entry => if entry.1 == name then (name, "") else entry
    else scan.attributes ++ [(name, "")]
  { scan with attributes := kept, attributeName := [], value := [] }

def skipUnclosed (name : List Char) : Scan → List (List Char) → Scan
  | scan, [] => scan
  | scan, top :: rest => if top == name then scan else skipUnclosed name (scan.fault "Unexpected close tag") rest

def closeUpTo (name : List Char) : Scan → List (List Char) → Scan
  | scan, [] => scan
  | scan, top :: rest =>
      let closed := { scan.emit .closed with openNames := rest }
      if top == name then closed else closeUpTo name closed rest

def closeTag (scan : Scan) : Scan :=
  let name := scan.name.reverse
  let checked := skipUnclosed name scan scan.openNames
  if scan.openNames.contains name then
    let closed := closeUpTo name checked scan.openNames
    { closed with
      closedRoot := closed.closedRoot || closed.openNames.isEmpty
      name := [], attributeName := [], value := [], mode := .text }
  else
    let unmatched := checked.fault ("Unmatched closing tag: " ++ String.ofList name)
    (unmatched.addText ('<' :: '/' :: (name ++ ['>']))).into .text

def numeral? (base : Nat) (digits : List Char) : Option Nat :=
  digits.foldl
    (fun value c => do
      let value ← value
      let digit ← Text.hexValue? c
      if digit < base then some (base * value + digit) else none)
    (some 0)

def isDocumentChar (point : Nat) : Bool :=
  point == 0x9 || point == 0xA || point == 0xD || (0x20 ≤ point && point < 0xD800) ||
    (0xE000 ≤ point && point < 0xFFFE) || (0x10000 ≤ point && point < 0x110000)

def numbered? (text : List Char) : Option Char :=
  let (base, digits) :=
    match text with
    | 'x' :: rest => (16, rest)
    | _ => (10, text)
  match digits.dropWhile (· == '0') with
  | [] => none
  | significant => ((numeral? base significant).filter isDocumentChar).map Char.ofNat

def named? (name : String) : Option Char := (Ordered.get? namedCharacters name).map Char.ofNat

def referenced? (entity : List Char) : Option Char :=
  let name := String.ofList entity
  let lower := Text.lowercase name
  match named? name <|> named? lower with
  | some c => some c
  | none =>
      match lower.toList with
      | '#' :: rest => numbered? rest
      | _ => none

def inEntity (scan : Scan) (add : Scan → List Char → Scan) (back : Mode) (c : Char) : Scan :=
  if c == ';' then
    let entity := scan.entity.reverse
    let done := { scan with entity := [], mode := back }
    match referenced? entity with
    | some found => add done [found]
    | none => add (done.fault "Invalid character entity") ('&' :: (entity ++ [';']))
  else if (if scan.entity.isEmpty then startsName c else isInName c) || c == '#' then
    { scan with entity := c :: scan.entity }
  else
    let failed := scan.fault "Invalid character in entity name"
    add { failed with entity := [], mode := back } ('&' :: (scan.entity.reverse ++ [c]))

def addValue (scan : Scan) (text : List Char) : Scan := { scan with value := text.reverse ++ scan.value }

def beforeRootStep (scan : Scan) (c : Char) : Scan :=
  if c == '<' then { scan with mode := .angle, sinceAngle := 0 }
  else if isGap c then scan.into .beforeRoot
  else { scan.fault "Non-whitespace before first tag." with text := [c], mode := .text }

def textStep (scan : Scan) (c : Char) : Scan :=
  if c == '<' then { scan with mode := .angle, sinceAngle := 0 }
  else
    let checked := scan.expect (isGap c || (scan.sawRoot && !scan.closedRoot)) "Text data outside of root node."
    if c == '&' then checked.into .textEntity else checked.addText [c]

def angleStep (scan : Scan) (c : Char) : Scan :=
  if c == '!' then { scan with mode := .declaration, word := [] }
  else if isGap c then scan
  else if startsName c then { scan with mode := .tagName, name := [c] }
  else if c == '/' then { scan with mode := .closingName, name := [] }
  else if c == '?' then { scan with mode := .instruction, word := [] }
  else
    let failed := scan.fault "Unencoded <"
    (failed.addText ('<' :: (List.replicate (scan.sinceAngle - 1) ' ' ++ [c]))).into .text

def upperAscii (text : List Char) : List Char := text.map Char.toUpper

def declarationStep (scan : Scan) (c : Char) : Scan :=
  let word := (c :: scan.word).reverse
  if word == ['-', '-'] then { scan with mode := .comment, word := [] }
  else if scan.doctype == .reading false && !scan.word.isEmpty then { scan with mode := .subset, word := [] }
  else if upperAscii word == "[CDATA[".toList then { scan.flush with mode := .cdata, word := [] }
  else if upperAscii word == "DOCTYPE".toList then
    let checked := scan.expect (scan.doctype != .reading false && scan.doctype != .read && !scan.sawRoot)
      "Inappropriately located doctype declaration"
    { checked with mode := .doctype, doctype := .reading true, word := [] }
  else if c == '>' then { scan.flush with mode := .text, word := [] }
  else if isQuote c then { scan with mode := .declarationQuoted, word := c :: scan.word }
  else { scan with word := c :: scan.word }

def doctypeStep (scan : Scan) (c : Char) : Scan :=
  if c == '>' then { scan.flush with mode := .text, doctype := .read }
  else
    let reading := { scan with doctype := .reading false }
    if c == '[' then reading.into .subset
    else if isQuote c then { reading with mode := .doctypeQuoted, quote := c }
    else reading

def subsetStep (scan : Scan) (c : Char) : Scan :=
  if c == ']' then scan.into .doctype
  else if c == '<' then { scan with mode := .angle, sinceAngle := 0 }
  else if isQuote c then { scan with mode := .subsetQuoted, quote := c }
  else scan

def commentEnd (scan : Scan) (c : Char) : Scan :=
  if c != '>' then (scan.fault "Malformed comment").into .comment
  else if scan.doctype == .reading false then scan.into .subset
  else scan.into .text

def cdataEnd (scan : Scan) (c : Char) : Scan :=
  if c == '>' then
    let emitted :=
      if scan.word.isEmpty then scan.flush else scan.emit (.cdata (String.ofList scan.word.reverse))
    { emitted with mode := .text, word := [] }
  else if c == ']' then { scan with word := ']' :: scan.word }
  else { scan with mode := .cdata, word := c :: ']' :: ']' :: scan.word }

def tagNameStep (scan : Scan) (c : Char) : Scan :=
  if isInName c then { scan with name := c :: scan.name }
  else
    let begun := scan.beginTag
    if c == '>' then { begun.openTag with name := [] }
    else if c == '/' then begun.into .tagSlash
    else (begun.expect (isGap c) "Invalid character in tag name").into .attributes

def attributesStep (scan : Scan) (c : Char) : Scan :=
  if isGap c then scan
  else if c == '>' then { scan.openTag with name := [] }
  else if c == '/' then scan.into .tagSlash
  else if startsName c then { scan with mode := .attributeName, attributeName := [c], value := [] }
  else scan.fault "Invalid attribute name"

def attributeNameStep (scan : Scan) (c : Char) : Scan :=
  if c == '=' then scan.into .beforeValue
  else if c == '>' then
    let failed := scan.fault "Attribute without value"
    { (failed.keepAttribute scan.attributeName.reverse).openTag with name := [] }
  else if isGap c then scan.into .afterAttributeName
  else if isInName c then { scan with attributeName := c :: scan.attributeName }
  else scan.fault "Invalid attribute name"

def afterAttributeNameStep (scan : Scan) (c : Char) : Scan :=
  if c == '=' then scan.into .beforeValue
  else if isGap c then scan
  else
    let kept := (scan.fault "Attribute without value").keepBare
    if c == '>' then { kept.openTag with name := [] }
    else if startsName c then { kept with mode := .attributeName, attributeName := [c] }
    else (kept.fault "Invalid attribute name").into .attributes

def beforeValueStep (scan : Scan) (c : Char) : Scan :=
  if isGap c then scan
  else if isQuote c then { scan with mode := .quotedValue, quote := c }
  else { scan.fault "Unquoted attribute value" with mode := .bareValue, value := [c] }

def afterValueStep (scan : Scan) (c : Char) : Scan :=
  if isGap c then scan.into .attributes
  else if c == '>' then { scan.openTag with name := [] }
  else if c == '/' then scan.into .tagSlash
  else if startsName c then
    { scan.fault "No whitespace between attributes" with mode := .attributeName, attributeName := [c], value := [] }
  else scan.fault "Invalid attribute name"

def bareValueStep (scan : Scan) (c : Char) : Scan :=
  if c == '>' then { (scan.keepAttribute scan.value.reverse).openTag with name := [] }
  else if isGap c then (scan.keepAttribute scan.value.reverse).into .attributes
  else if c == '&' then scan.into .bareEntity
  else scan.addValue [c]

def closingNameStep (scan : Scan) (c : Char) : Scan :=
  if scan.name.isEmpty then
    if isGap c then scan
    else if startsName c then { scan with name := [c] }
    else scan.fault "Invalid tagname in closing tag."
  else if c == '>' then scan.closeTag
  else if isInName c then { scan with name := c :: scan.name }
  else (scan.expect (isGap c) "Invalid tagname in closing tag").into .afterClosingName

def dispatch (scan : Scan) (c : Char) : Scan :=
  match scan.mode with
  | .start => if c.toNat = 0xFEFF then scan.into .beforeRoot else scan.beforeRootStep c
  | .beforeRoot => scan.beforeRootStep c
  | .text => scan.textStep c
  | .textEntity => scan.inEntity addText .text c
  | .angle => scan.angleStep c
  | .declaration => scan.declarationStep c
  | .declarationQuoted => scan
  | .doctype => scan.doctypeStep c
  | .doctypeQuoted => if c == scan.quote then scan.into .doctype else scan
  | .subset => scan.subsetStep c
  | .subsetQuoted => if c == scan.quote then scan.into .subset else scan
  | .comment => if c == '-' then scan.into .commentDash else scan
  | .commentDash => if c == '-' then scan.into .commentDashes else scan.into .comment
  | .commentDashes => scan.commentEnd c
  | .cdata => if c == ']' then scan.into .cdataBracket else { scan with word := c :: scan.word }
  | .cdataBracket =>
      if c == ']' then scan.into .cdataBrackets
      else { scan with mode := .cdata, word := c :: ']' :: scan.word }
  | .cdataBrackets => scan.cdataEnd c
  | .instruction =>
      if c == '?' then scan.into .instructionMark
      else if isGap c then scan.into .instructionBody
      else scan
  | .instructionBody => if c == '?' then scan.into .instructionMark else scan
  | .instructionMark => if c == '>' then scan.flush.into .text else scan.into .instructionBody
  | .tagName => scan.tagNameStep c
  | .tagSlash =>
      if c == '>' then scan.openTag.closeTag
      else (scan.fault "Forward-slash in opening tag not followed by >").into .attributes
  | .attributes => scan.attributesStep c
  | .attributeName => scan.attributeNameStep c
  | .afterAttributeName => scan.afterAttributeNameStep c
  | .beforeValue => scan.beforeValueStep c
  | .quotedValue =>
      if c == scan.quote then (scan.keepAttribute scan.value.reverse).into .afterValue
      else if c == '&' then scan.into .quotedEntity
      else scan.addValue [c]
  | .quotedEntity => scan.inEntity addValue .quotedValue c
  | .afterValue => scan.afterValueStep c
  | .bareValue => scan.bareValueStep c
  | .bareEntity => scan.inEntity addValue .bareValue c
  | .closingName => scan.closingNameStep c
  | .afterClosingName =>
      if isGap c then scan
      else if c == '>' then scan.closeTag
      else scan.fault "Invalid characters in closing tag"

def width (c : Char) : Nat := if c.toNat < 0x10000 then 1 else 2

def step (scan : Scan) (c : Char) : Scan :=
  let moved :=
    if c == '\n' then { scan with line := scan.line + 1, column := 0 }
    else { scan with column := scan.column + width c }
  { moved with here := [c], sinceAngle := scan.sinceAngle + width c }.dispatch c

def finish (scan : Scan) : Scan :=
  let atEnd := { scan with here := [] }
  let closed := atEnd.expect (!scan.sawRoot || scan.closedRoot) "Unclosed root tag"
  let calm := scan.mode == .start || scan.mode == .beforeRoot || scan.mode == .text
  (closed.expect calm "Unexpected end").flush

end Scan

def tokens (text : List Char) : List Token := (text.foldl Scan.step {}).finish.tokens.reverse

end DeviceLogin.Xml
