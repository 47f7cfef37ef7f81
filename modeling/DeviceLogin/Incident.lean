import DeviceLogin.Log.Logger
import DeviceLogin.Text.Lowercase
import DeviceLogin.Text.Split

set_option autoImplicit false

namespace DeviceLogin

namespace Incident

inductive Category where
  | authentication
  | network
  | validation
  | device
  | persistence
  | configuration
  | unknown
  | other (name : String)
deriving DecidableEq, Inhabited

namespace Category

def name : Category → String
  | .authentication => "AUTHENTICATION"
  | .network => "NETWORK"
  | .validation => "VALIDATION"
  | .device => "DEVICE"
  | .persistence => "PERSISTENCE"
  | .configuration => "CONFIGURATION"
  | .unknown => "UNKNOWN"
  | .other name => name

def known : List Category :=
  [.authentication, .network, .validation, .device, .persistence, .configuration, .unknown]

def ofName (text : String) : Category := (known.find? (·.name == text)).getD (.other text)

def words : List (Category × List String) :=
  [(.authentication, ["access code", "unauthorized", "forbidden"]),
    (.network, ["econnreset", "econnrefused", "ehostunreach", "etimedout", "timed out", "socket"]),
    (.persistence, ["enoent", "eacces", "eperm", "eisdir"]),
    (.validation, ["validation", "invalid"]),
    (.device, ["device", "display"]),
    (.configuration, ["config"])]

end Category

inductive Severity where
  | info
  | warning
  | error
  | fatal
  | other (name : String)
deriving DecidableEq, Inhabited

namespace Severity

def name : Severity → String
  | .info => "INFO"
  | .warning => "WARNING"
  | .error => "ERROR"
  | .fatal => "FATAL"
  | .other name => name

def known : List Severity := [.info, .warning, .error, .fatal]

def ofName (text : String) : Severity := (known.find? (·.name == text)).getD (.other text)

end Severity

def mentions (message : List Char) (word : String) : Bool := Text.occurs word.toList message

def categorize (message : String) : Category :=
  let text := (Text.lowercase message).toList
  match Category.words.find? fun entry => entry.2.any (mentions text) with
  | some (category, _) => category
  | none => .unknown

def severityOf : Category → Severity
  | .authentication | .configuration => .fatal
  | .network | .persistence => .warning
  | _ => .error

def passingWords : List String :=
  ["econnreset", "econnrefused", "ehostunreach", "etimedout", "socket hang up", "timed out", "display is off"]

def mayPass (message : String) : Bool := passingWords.any (mentions (Text.lowercase message).toList)

end Incident

structure Incident.About where
  category : Option Incident.Category := none
  severity : Option Incident.Severity := none
  retryable : Option Bool := none
  operation : Option String := none
  device : Option String := none

structure Incident where
  message : String
  category : Incident.Category
  severity : Incident.Severity
  retryable : Bool
  stack : Option String := none

namespace Incident

def of (message : String) (about : About) (stack : Option String := none) : Incident :=
  let category := about.category.getD (categorize message)
  { message := message
    category := category
    severity := about.severity.getD (severityOf category)
    retryable := about.retryable.getD (mayPass message)
    stack := stack }

def aside (opening : String) (text : Option String) (closing : String) : String :=
  match text with
  | some text => if text.isEmpty then "" else opening ++ text ++ closing
  | none => ""

def line (scope : String) (about : About) (incident : Incident) : String :=
  aside "[" (some scope) "] " ++ incident.category.name ++ aside " (" about.operation ")" ++
    aside " [" about.device "]" ++ ": " ++ incident.message ++
    (if incident.retryable then " (retryable)" else "")

def log (scope : String) (about : About) (incident : Incident) : StateM World Unit := do
  let line := incident.line scope about
  match incident.severity with
  | .fatal =>
      World.record (.logged .error line)
      match incident.stack with
      | some stack => if stack.isEmpty then pure () else World.record (.logged .error stack)
      | none => pure ()
  | .error => World.record (.logged .error line)
  | .warning => World.record (.logged .warn line)
  | .info => World.record (.logged .info line)
  | .other _ => pure ()

def report (scope message : String) (about : About) (stack : Option String := none) :
    StateM World Incident := do
  let incident := Incident.of message about stack
  incident.log scope about
  return incident

end Incident

end DeviceLogin
