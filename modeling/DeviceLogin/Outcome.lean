set_option autoImplicit false

namespace DeviceLogin

inductive Outcome where
  | ok
  | serviceMissing
  | displayOff
  | needsPairing
  | pending
  | other (message : String)
deriving DecidableEq, Inhabited

inductive Verdict where
  | byKey
  | byCookie
  | none (outcome : Outcome)
deriving DecidableEq, Inhabited

def Outcome.kind : Outcome → String
  | .ok => "ok"
  | .serviceMissing => "serviceMissing"
  | .displayOff => "displayOff"
  | .needsPairing => "needsPairing"
  | .pending => "pending"
  | .other _ => "other"

def Outcome.describe : Outcome → String
  | .ok => "OK"
  | .serviceMissing => "Device is missing a required service"
  | .displayOff => "Display is off - turn the device on and retry"
  | .needsPairing => "Device needs pairing - supply a PIN or request one"
  | .pending => "Enter the PIN shown on the device as the access code"
  | .other message => message

def Verdict.kind : Verdict → String
  | .byKey => "useHeaderAuth"
  | .byCookie => "useCookieAuth"
  | .none outcome => outcome.kind

def Verdict.describe : Verdict → String
  | .byKey => "Authorized by pre-shared key"
  | .byCookie => "Authorized by session cookie"
  | .none outcome => outcome.describe

def Outcome.blankCode : Outcome := .other "Access code cannot be blank"

end DeviceLogin
