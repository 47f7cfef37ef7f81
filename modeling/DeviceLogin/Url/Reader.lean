import DeviceLogin.Url.Basic

set_option autoImplicit false

namespace DeviceLogin.Url

def isEdge (c : Char) : Bool := c.toNat ≤ 0x20

def cleaned (text : List Char) : List Char :=
  ((text.dropWhile isEdge).reverse.dropWhile isEdge).reverse.filter fun c => !oneOf [0x09, 0x0A, 0x0D] c

def isSchemeChar (c : Char) : Bool := c.isAlphanum || c == '+' || c == '-' || c == '.'

def splitScheme? (text : List Char) : Option (String × List Char) :=
  let name := text.takeWhile isSchemeChar
  match name, text.drop name.length with
  | first :: _, ':' :: rest =>
      if first.isAlpha then some (String.ofList (name.map Char.toLower), rest) else none
  | _, _ => none

def isSlash (special : Bool) (c : Char) : Bool := c == '/' || (special && c == '\\')

def endsLocation (special : Bool) (c : Char) : Bool := isSlash special c || c == '?' || c == '#'

def splitTail (special : Bool) (text : List Char) : List Char × Option (List Char) × Option (List Char) :=
  let body := text.takeWhile (· != '#')
  let fragment :=
    match text.drop body.length with
    | _ :: rest => some (percentEncode encodesInFragment rest)
    | [] => none
  let path := body.takeWhile (· != '?')
  let query :=
    match body.drop path.length with
    | _ :: rest => some (percentEncode (if special then encodesInSpecialQuery else encodesInQuery) rest)
    | [] => none
  (path, query, fragment)

def withTail (url : Url) (path : Path) (query fragment : Option (List Char)) : Url :=
  { url with path := path, query := query, fragment := fragment }

def lowerAscii (text : List Char) : List Char := text.map Char.toLower

def isHere (name : List Char) : Bool :=
  name == ['.'] || lowerAscii name == ['%', '2', 'e']

def isParent (name : List Char) : Bool :=
  name == ['.', '.'] || lowerAscii name == ['.', '%', '2', 'e'] || lowerAscii name == ['%', '2', 'e', '.'] ||
    lowerAscii name == ['%', '2', 'e', '%', '2', 'e']

def isDrive (name : List Char) : Bool :=
  match name with
  | [letter, mark] => letter.isAlpha && (mark == ':' || mark.toNat == 0x7C)
  | _ => false

def atDrive : List (List Char) → Bool
  | [letter :: ':' :: _] => letter.isAlpha
  | _ => false

def leave (isFile : Bool) (names : List (List Char)) : List (List Char) :=
  if isFile && atDrive names then names else names.dropLast

def enter (isFile : Bool) (names : List (List Char)) (name : List Char) : List (List Char) :=
  if isFile && names.isEmpty && isDrive name then names ++ [name.take 1 ++ [':']] else names ++ [name]

-- Resolves the names of a path one after the other. A path that ends in a dot segment ends in a slash;
-- only below no segment at all two dots need a well-known scheme for that.
def resolve (scheme : String) : List (List Char) → List (List Char) → List (List Char)
  | names, [] => names
  | names, [last] =>
      let isFile := scheme == "file"
      if isParent last then
        if names.isEmpty && !isSpecial scheme then [] else leave isFile names ++ [[]]
      else if isHere last then names ++ [[]]
      else enter isFile names last
  | names, name :: rest =>
      let isFile := scheme == "file"
      if isParent name then resolve scheme (leave isFile names) rest
      else if isHere name then resolve scheme names rest
      else resolve scheme (enter isFile names name) rest

def splitNames (special : Bool) : List Char → List (List Char)
  | [] => [[]]
  | c :: rest =>
      match splitNames special rest with
      | [] => [[c]]
      | name :: names => if isSlash special c then [] :: name :: names else (c :: name) :: names

def segments (scheme : String) (text : List Char) : List (List Char) :=
  resolve scheme [] ((splitNames (isSpecial scheme) text).map (percentEncode encodesInPath))

def pathAfterHost (scheme : String) (text : List Char) : Path :=
  match text with
  | c :: rest => .segments (segments scheme (if isSlash (isSpecial scheme) c then rest else text))
  | [] => if isSpecial scheme then .segments [[]] else .segments []

def splitCredentials (text : List Char) : Option (List Char × List Char) :=
  if text.contains '@' then
    let place := (text.reverse.takeWhile (· != '@')).reverse
    some (text.take (text.length - place.length - 1), place)
  else none

def splitPort : Bool → List Char → List Char × Option (List Char)
  | _, [] => ([], none)
  | inBrackets, c :: rest =>
      if c = ':' && !inBrackets then ([], some rest)
      else
        let (host, port) := splitPort (c == '[' || (inBrackets && c != ']')) rest
        (c :: host, port)

def port? (scheme : String) (digits : List Char) : Option (Option Nat) :=
  let value := Number.valueOf digits
  if !digits.all Char.isDigit || 65535 < value then none
  else if digits.isEmpty || impliedPort? scheme == some value then some none
  else some (some value)

def location? (scheme : String) (text : List Char) : Option Url := do
  let parts := splitCredentials text
  let credentials := (parts.map (·.1)).getD []
  let place := (parts.map (·.2)).getD text
  let (name, digits) := splitPort false place
  if name.isEmpty && (isSpecial scheme || parts.isSome || digits.isSome) then none
  let host ← if name.isEmpty then some [] else host? (isSpecial scheme) name
  let port ← port? scheme (digits.getD [])
  let username := credentials.takeWhile (· != ':')
  let password := (credentials.drop username.length).drop 1
  return {
    scheme := scheme, host := some host, port := port,
    username := percentEncode encodesInCredentials username,
    password := percentEncode encodesInCredentials password }

def located? (scheme : String) (text : List Char) : Option Url := do
  let special := isSpecial scheme
  let location := text.takeWhile (!endsLocation special ·)
  let url ← location? scheme location
  let (path, query, fragment) := splitTail special (text.drop location.length)
  return withTail url (pathAfterHost scheme path) query fragment

def localFile (text : List Char) : Url :=
  let (path, query, fragment) := splitTail true text
  withTail { scheme := "file", host := some [] } (.segments (segments "file" path)) query fragment

def remoteFile? (text : List Char) : Option Url := do
  let name := text.takeWhile (!endsLocation true ·)
  if isDrive name then return localFile text
  let host ← if name.isEmpty then some [] else host? true name
  let host := if host == "localhost".toList then [] else host
  let (path, query, fragment) := splitTail true (text.drop name.length)
  return withTail { scheme := "file", host := some host } (pathAfterHost "file" path) query fragment

def file? (text : List Char) : Option Url :=
  match text with
  | a :: rest =>
      if isSlash true a then
        match rest with
        | b :: after => if isSlash true b then remoteFile? after else some (localFile rest)
        | [] => some (localFile rest)
      else some (localFile text)
  | [] => some (localFile text)

def generic? (scheme : String) (text : List Char) : Option Url :=
  match text with
  | '/' :: '/' :: rest => located? scheme rest
  | '/' :: rest =>
      let (path, query, fragment) := splitTail false rest
      some (withTail { scheme := scheme } (.segments (segments scheme path)) query fragment)
  | _ =>
      let (path, query, fragment) := splitTail false text
      some (withTail { scheme := scheme } (.opaqueText (percentEncode encodesInOpaque path)) query fragment)

def read? (source : String) : Option Url := do
  let (scheme, rest) ← splitScheme? (cleaned source.toList)
  if scheme == "file" then file? rest
  else if isSpecial scheme then located? scheme (rest.dropWhile (isSlash true))
  else generic? scheme rest

end DeviceLogin.Url
