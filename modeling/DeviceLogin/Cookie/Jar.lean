import DeviceLogin.Cookie.Basic
import DeviceLogin.Files.Access
import DeviceLogin.Json.Reader
import DeviceLogin.Log.Logger
import DeviceLogin.Shape.Messages

set_option autoImplicit false

namespace DeviceLogin

namespace CookieJar

def header? (jar : CookieJar) : Option String :=
  if jar.cookies.isEmpty then none
  else some (String.intercalate "; " (jar.cookies.map fun cookie => cookie.1 ++ "=" ++ cookie.2))

def fileText (cookies : Ordered String) : String :=
  let line (cookie : String × String) : String :=
    "  " ++ String.ofList (Json.quote cookie.1) ++ ": " ++ String.ofList (Json.quote cookie.2)
  match Ordered.inMemberOrder cookies with
  | [] => "\x7b\x7d"
  | members => "\x7b\n" ++ String.intercalate ",\n" (members.map line) ++ "\n\x7d"

def ofFileText? (text : String) : Option (Ordered String) :=
  match Shape.accept? Shape.cookies (Json.read? text) with
  | some (.obj members) => some (members.filterMap fun member => member.2.text?.map fun value => (member.1, value))
  | _ => none

end CookieJar

namespace World

def loadCookies (path : String) : StateM World (Option (Ordered String)) :=
  Act.recover
    (do
      if ← fileExists path then return CookieJar.ofFileText? (← readFile path)
      else return none)
    fun _ => pure none

def saveCookies (path : String) (cookies : Ordered String) : Act World Unit :=
  writeFile path (CookieJar.fileText cookies) .replacePrivately

def dropCookieFile (path : String) : StateM World Unit :=
  Act.recover (do if ← fileExists path then removeFile path) fun _ => pure ()

def jar (number : Nat) (world : World) : CookieJar := world.jars.getD number ({} : CookieJar)

def updateJar (number : Nat) (change : CookieJar → CookieJar) : StateM World Unit :=
  modify fun world => { world with jars := world.jars.modify number change }

def openJar (file : Option String) (alarm : Alarm) : StateM World Nat := do
  let path := file.filter (!·.isEmpty)
  let stored ←
    match path with
    | some path => loadCookies path
    | none => pure none
  let opened : CookieJar := { cookies := stored.getD [], file := path, alarm := alarm }
  let world ← get
  set { world with jars := world.jars ++ [opened] }
  return world.jars.length

def raise (alarm : Alarm) (message : String) : StateM World Unit :=
  match alarm with
  | .silent => pure ()
  | .report => record (.jarFailed message)
  | .warn context => Logger.warn ⟨context⟩ message

def saveJar (number : Nat) : StateM World Unit := do
  let jar := (← get).jar number
  match jar.file with
  | none => pure ()
  | some path =>
      Act.recover (saveCookies path jar.cookies) fun failure =>
        raise jar.alarm ("Failed to save cookie file: " ++ failure.message)

def storeCookies (number : Nat) (settings : List String) : StateM World Unit := do
  let before := ((← get).jar number).cookies
  let (cookies, changed) := Cookie.applyAll before settings
  if changed then
    updateJar number fun jar => { jar with cookies := cookies }
    saveJar number

def settingsIn (headers : Ordered Http.HeaderValue) : List String :=
  match headers.get? "set-cookie" with
  | some (.many settings) => settings
  | _ => []

def clearJar (number : Nat) : StateM World Unit := do
  updateJar number fun jar => { jar with cookies := [] }
  match ((← get).jar number).file with
  | some path => dropCookieFile path
  | none => pure ()

end World

end DeviceLogin
