import DeviceLogin.Outcome
import DeviceLogin.Service

set_option autoImplicit false

namespace DeviceLogin.Probe

def judge (reply : Reply) : Outcome :=
  if reply.faultKind? = some .displayOff then .displayOff
  else if reply.status = 200 || reply.faultKind? = some .illegalArgument then .ok
  else if reply.faultKind? = some .notImplemented || reply.status = 401 || reply.status = 403 ||
      reply.faultKind? = some .forbidden then .needsPairing
  else .other reply.describe

def run (refusals : Service.Refusals) : Act (Scene Service) Outcome := do
  let mode ← Service.ask refusals "getDeviceMode"
  if mode.faultKind? = some .notImplemented then
    return judge (← Service.ask refusals "getPowerStatus")
  else return judge mode

end DeviceLogin.Probe
