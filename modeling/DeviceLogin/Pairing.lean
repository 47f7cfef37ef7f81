import DeviceLogin.Outcome
import DeviceLogin.Service
import DeviceLogin.Settings
import DeviceLogin.Text.Base64

set_option autoImplicit false

namespace DeviceLogin.Pairing

def message (clientId : String) : Message :=
  { method := "actRegister"
    body := .obj
      [("method", .str "actRegister"),
        ("params", .arr
          [.obj [("clientid", .str clientId), ("nickname", .str Settings.nickname), ("level", .str "private")],
            .arr [.obj [("value", .str "yes"), ("function", .str "WOL")]]]),
        ("id", Json.nat 8), ("version", .str "1.0")] }

def basic (pin : String) : String := "Basic " ++ Text.Base64.encode (Text.utf8 (":" ++ pin))

def headers (pin : Option String) : Ordered String :=
  match pin with
  | some pin => [("Authorization", basic pin)]
  | none => []

def judge (pin : Option String) (reply : Reply) : Outcome × Option String :=
  if reply.status = 401 || reply.faultKind? = some .unauthorized then
    match pin with
    | none => (.pending, some "Registration requested - a PIN is now shown on the device")
    | some _ => (.needsPairing, some "Registration rejected - the PIN was not accepted")
  else if reply.faultKind? = some .displayOff then (.displayOff, none)
  else if reply.isError then (.other ("Registration failed: " ++ reply.describe), none)
  else (.ok, some "Registration accepted")

def request (clientId : String) (jar : Nat) (parent : Logger) (pin : Option String) :
    Act (Scene Service) Outcome := do
  let logger := parent.child (.about "Auth")
  let onCredentials (f : Credentials → Credentials) : Scene Service → Scene Service :=
    Scene.change (Service.changeChannel (Channel.change f))
  modify (onCredentials (·.withJar jar))
  let response ← Act.ensuring (Service.onChannel (Channel.send (message clientId) (headers pin)))
    (onCredentials Credentials.withoutJar)
  let (outcome, line) := judge pin (Reply.ofResponse response)
  match line with
  | some line => Act.always (Scene.inWorld (logger.info line))
  | none => pure ()
  return outcome

end DeviceLogin.Pairing
