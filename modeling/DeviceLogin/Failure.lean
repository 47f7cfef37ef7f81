import DeviceLogin.Json.Basic

set_option autoImplicit false

namespace DeviceLogin

inductive Failure where
  | error (message : String)
  | badAddress
  | crowdedText
  | other (value : Json)
  | noAnswer
deriving Inhabited

def Failure.message : Failure → String
  | .error message => message
  | .badAddress => "Invalid URL"
  | .crowdedText => "obj[charkey].match is not a function"
  | .other value => value.plainText
  | .noAnswer => ""

def Failure.asError : Failure → Failure
  | .other value => .error value.plainText
  | failure => failure

end DeviceLogin
