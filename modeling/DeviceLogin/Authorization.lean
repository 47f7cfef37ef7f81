import DeviceLogin.Outcome
import DeviceLogin.Service
import DeviceLogin.Settings

set_option autoImplicit false

namespace DeviceLogin.Authorization

def changeCredentials (f : Credentials → Credentials) : Scene Service → Scene Service :=
  Scene.change (Service.changeChannel (Channel.change f))

def attempt (before after : Credentials → Credentials) (probe : Act (Scene Service) Outcome) :
    Act (Scene Service) Outcome := do
  modify (changeCredentials before)
  Act.ensuring probe (changeCredentials after)

def key? (code : Option String) : Option String :=
  (Text.present? code).filter fun code => !Settings.isRequest code

def tryKey (code : Option String) (logger : Logger) (probe : Act (Scene Service) Outcome) :
    Act (Scene Service) Bool := do
  match key? code with
  | none => return false
  | some key =>
      let outcome ← attempt (·.withHeader keyHeader key) (·.withoutHeader keyHeader) probe
      let line :=
        if outcome = .ok then "Device accepted the pre-shared key"
        else "Pre-shared key not accepted: " ++ outcome.kind
      Act.always (Scene.inWorld (logger.debug line))
      return outcome == .ok

def tryCookies (jar : Nat) (logger : Logger) (probe : Act (Scene Service) Outcome) :
    Act (Scene Service) Outcome := do
  let outcome ← attempt (·.withJar jar) Credentials.withoutJar probe
  if outcome = .ok then
    Act.always (Scene.inWorld (logger.debug "Device accepted the session cookie"))
  return outcome

def check (code : Option String) (jar : Nat) (parent : Logger) (probe : Act (Scene Service) Outcome) :
    Act (Scene Service) Verdict := do
  let logger := parent.child (.about "Auth")
  if ← tryKey code logger probe then return .byKey
  else
    let outcome ← tryCookies jar logger probe
    if outcome = .ok then return .byCookie else return .none outcome

end DeviceLogin.Authorization
