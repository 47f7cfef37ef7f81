import DeviceLogin.Ordered
import DeviceLogin.Url.Host

set_option autoImplicit false

namespace DeviceLogin

inductive Url.Path where
  | opaqueText (text : List Char)
  | segments (names : List (List Char))
deriving DecidableEq, Inhabited

structure Url where
  scheme : String
  username : List Char := []
  password : List Char := []
  host : Option (List Char) := none
  port : Option Nat := none
  path : Url.Path := .segments []
  query : Option (List Char) := none
  fragment : Option (List Char) := none
deriving DecidableEq, Inhabited

namespace Url

def wellKnown : Ordered (Option Nat) :=
  [("http", some 80), ("https", some 443), ("ws", some 80), ("wss", some 443), ("ftp", some 21), ("file", none)]

def isSpecial (scheme : String) : Bool := Ordered.has wellKnown scheme

def impliedPort? (scheme : String) : Option Nat := (Ordered.get? wellKnown scheme).join

def pathChars (url : Url) : List Char :=
  match url.path with
  | .opaqueText text => text
  | .segments names => names.flatMap fun name => '/' :: name

def searchChars (url : Url) : List Char :=
  match url.query with
  | some (c :: rest) => '?' :: c :: rest
  | _ => []

def requestPath (url : Url) : String := String.ofList (url.pathChars ++ url.searchChars)

def hostName (url : Url) : String := String.ofList (url.host.getD [])

def credentialChars (url : Url) : List Char :=
  if url.username.isEmpty && url.password.isEmpty then []
  else url.username ++ (if url.password.isEmpty then [] else ':' :: url.password) ++ ['@']

def portChars (url : Url) : List Char :=
  match url.port with
  | some port => ':' :: Nat.toDigits 10 port
  | none => []

def locationChars (url : Url) : List Char :=
  match url.host, url.path with
  | some host, _ => '/' :: '/' :: (url.credentialChars ++ host ++ url.portChars)
  | none, .segments ([] :: _ :: _) => ['/', '.']
  | none, _ => []

def marked (mark : Char) : Option (List Char) → List Char
  | some text => mark :: text
  | none => []

def text (url : Url) : String :=
  String.ofList
    (url.scheme.toList ++ ':' :: (url.locationChars ++ url.pathChars ++ marked '?' url.query ++ marked '#' url.fragment))

end Url

end DeviceLogin
