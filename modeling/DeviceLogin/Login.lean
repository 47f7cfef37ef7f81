import DeviceLogin.Authorization
import DeviceLogin.Client
import DeviceLogin.Pairing
import DeviceLogin.Probe
import DeviceLogin.Provisioning
import DeviceLogin.WakeOnLan

set_option autoImplicit false

namespace DeviceLogin

inductive Waker where
  | packet (target : WakeOnLan.Target)
  | supplied (answer : Option String → Option String → Option Failure)

structure Login where
  settings : Settings
  logger : Logger
  jar : Nat
  waker : Waker := .packet {}
  source : CommandSource := .documents {}
  refusals : Service.Refusals := fun _ _ _ _ => none

namespace Login

def scope : String := "Session"

def reportSettings (settings : Settings) (parent : Logger) : StateM World Unit := do
  let logger := parent.child (.about "Config")
  settings.errors.forM fun error => logger.error ("Invalid configuration: " ++ error)
  settings.warnings.forM fun warning => logger.warn warning

def prepare (settings : Settings) (jar : Option Nat) (waker : Waker) (source : CommandSource)
    (refusals : Service.Refusals) : StateM World Login := do
  let logger := Logger.forDevice settings.deviceAddress.value? "Session"
  reportSettings settings logger
  let jar ←
    match jar with
    | some jar => pure jar
    | none => World.openJar settings.cookieFile? (.warn logger.context)
  return { settings := settings, logger := logger, jar := jar, waker := waker, source := source, refusals := refusals }

def guarded {σ α : Type} (login : Login) (operation : String) (stage : Act (Scene σ) α) : Act (Scene σ) α := do
  match ← Act.always stage.run with
  | .ok value => pure value
  | .error failure =>
      let about : Incident.About :=
        { category := some .device, operation := some operation, device := login.settings.deviceAddress.value? }
      let _ ← Act.always (Scene.inWorld (Incident.report scope failure.message about))
      throw failure.asError

def wake (login : Login) : Act World Unit := do
  let ip := login.settings.hostName?
  let mac := login.settings.macAddress?
  match login.waker with
  | .packet target => Act.always (WakeOnLan.wake login.logger target ip mac)
  | .supplied answer =>
      match answer ip mac with
      | some failure => throw failure
      | none => Act.always (World.record (.waking ip mac))

def changeAll (f : Credentials → Credentials) : Act (Scene Client) Unit :=
  modify (Scene.change (Client.changeChannels (Channel.change f)))

def pair (login : Login) (accessControl : Service) : Act (Scene Client) Outcome := do
  match Text.present? login.settings.code? with
  | none => return Outcome.blankCode
  | some code =>
      let pin := if login.settings.requestsPin then none else some code
      let outcome ← Client.onService accessControl
        (Pairing.request login.settings.client login.jar login.logger pin)
      if outcome = .ok then changeAll (·.withJar login.jar)
      return outcome

def authorize (login : Login) (accessControl : Service) (verdict : Verdict) : Act (Scene Client) Outcome := do
  match verdict with
  | .byKey =>
      match Text.present? login.settings.code? with
      | none => return Outcome.blankCode
      | some code =>
          changeAll (·.withHeader keyHeader code)
          return .ok
  | .byCookie =>
      changeAll (·.withJar login.jar)
      return .ok
  | .none .needsPairing => login.pair accessControl
  | .none outcome => return outcome

def settle (login : Login) (accessControl system : Service) : Act (Scene Client) Outcome := do
  let verdict ← Client.onService system
    (Authorization.check login.settings.code? login.jar login.logger (Probe.run login.refusals))
  Act.always (Scene.inWorld (login.logger.debug ("Authorization check: " ++ verdict.describe)))
  login.authorize accessControl verdict

def plan (login : Login) : Provisioning.Plan :=
  { settings := login.settings, refusals := login.refusals, parent := login.logger, scope := scope }

def provision (login : Login) (system : Service) : Act (Scene Client) Unit :=
  Client.onService system <|
    Scene.zoom (fun service => ({ service := service, source := login.source } : Site))
      (fun site _ => site.service) (Provisioning.run login.plan)

def conclude (login : Login) (system : Service) (outcome : Outcome) : Act (Scene Client) Outcome := do
  if outcome = .ok then
    Act.always (Scene.inWorld (login.logger.debug "Scalar web device now connected"))
    login.guarded "postLogin" (login.provision system)
    return .ok
  else
    Act.always (Scene.inWorld (login.logger.info ("Login did not complete: " ++ outcome.describe)))
    return outcome

def proceed (login : Login) (accessControl system : Service) : Act (Scene Client) Outcome := do
  Scene.onWorld login.wake
  let outcome ← login.guarded "authorize" (login.settle accessControl system)
  login.conclude system outcome

def run (login : Login) : Act (Scene Client) Outcome := do
  let client := (← get).focus
  match client.service? "accessControl", client.service? "system" with
  | some accessControl, some system =>
      changeAll fun credentials => { credentials with autoAuth := false }
      login.proceed accessControl system
  | _, _ => return .serviceMissing

end Login

end DeviceLogin
