import DeviceLogin.Http.Exchange
import DeviceLogin.Json.Reader
import DeviceLogin.Shape.Messages

set_option autoImplicit false

namespace DeviceLogin

inductive FaultKind where
  | notImplemented
  | displayOff
  | illegalArgument
  | unauthorized
  | forbidden
  | other
deriving DecidableEq, Repr

namespace FaultKind

def name : FaultKind → String
  | .notImplemented => "NOT_IMPLEMENTED"
  | .displayOff => "DISPLAY_IS_OFF"
  | .illegalArgument => "ILLEGAL_ARGUMENT"
  | .unauthorized => "UNAUTHORIZED"
  | .forbidden => "FORBIDDEN"
  | .other => "OTHER"

def ofCode (code : Number) : FaultKind :=
  match code.toInt? with
  | some 12 | some 501 => .notImplemented
  | some 40005 => .displayOff
  | some 3 => .illegalArgument
  | some 401 => .unauthorized
  | some 403 => .forbidden
  | _ => .other

end FaultKind

structure DeviceFault where
  kind : FaultKind
  code : Number
  message : String

structure Reply where
  status : Number
  results : Option (List Json) := none
  fault : Option DeviceFault := none
  note : String := ""

namespace Reply

def codeOf : Json → Number
  | .num code => code
  | .str text => Number.leadingInteger text
  | _ => .nan

def faultOf? : List Json → Option DeviceFault
  | [] => none
  | code :: rest =>
      some ⟨FaultKind.ofCode (codeOf code), codeOf code, (rest.head?.map Json.plainText).getD ""⟩

def items? (value : Json) : Option (List Json) :=
  match value with
  | .arr items => some items
  | _ => none

def ofEnvelope (status : Number) (envelope : Json) : Reply :=
  match ((envelope.member? "error").bind items?).bind faultOf? with
  | some fault => { status := status, fault := some fault }
  | none =>
      { status := status
        results := ((envelope.member? "result").bind items?) <|> ((envelope.member? "results").bind items?) }

def ofBody (status : Number) (body : String) : Reply :=
  if body.isEmpty then { status := status }
  else
    match (Json.read? body).bind fun value => Shape.accept? Shape.envelope (some value) with
    | some envelope => ofEnvelope status envelope
    | none => { status := status, note := body }

def ofResponse (response : Http.Response) : Reply := ofBody response.status response.body

def notImplemented (method : String) : Reply :=
  { status := 501
    fault := some ⟨.notImplemented, 501, "Method " ++ method ++ " is not implemented"⟩ }

def faultKind? (reply : Reply) : Option FaultKind := reply.fault.map (·.kind)

def isError (reply : Reply) : Bool := reply.fault.isSome || reply.status != 200

def hasResults (reply : Reply) : Bool :=
  match reply.results with
  | some (_ :: _) => true
  | _ => false

def first? (reply : Reply) : Option Json := reply.results.bind (·.head?)

def describe (reply : Reply) : String :=
  let message := (reply.fault.map (·.message)).getD ""
  let message := if message.isEmpty then reply.note else message
  if message.isEmpty then reply.status.text else reply.status.text ++ " " ++ message

end Reply

end DeviceLogin
