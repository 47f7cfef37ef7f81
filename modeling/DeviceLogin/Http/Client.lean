import DeviceLogin.Url.Reader
import DeviceLogin.World.Basic

set_option autoImplicit false

namespace DeviceLogin

namespace Http

structure Order where
  method : String := "GET"
  headers : Ordered String := []
  body : Option String := none
  timeout : Option Number := none

def defaultTimeout : Number := 30000

def requestOf (url : Url) (order : Order) : Request :=
  { secure := url.scheme == "https"
    host := url.hostName
    port := url.port.map fun port => String.ofList (Nat.toDigits 10 port)
    path := url.requestPath
    method := order.method
    headers := order.headers
    bodyLength := order.body.map fun body => (Text.utf8 body).length
    body := order.body
    timeout := order.timeout.getD defaultTimeout }

end Http

namespace World

def answers (world : World) (asked : List Http.Request) (request : Http.Request) : Http.Exchange :=
  match world.sender.refusal? request with
  | some message => .failed message
  | none => world.device (asked.filter world.sender.sends) request

def exchange (request : Http.Request) : StateM World Http.Exchange := do
  let world ← get
  set { world with asked := world.asked ++ [request], trace := world.trace ++ [Event.requested request] }
  return world.answers world.asked request

def request (address : String) (order : Http.Order) : Act World Http.Response := do
  match Url.read? address with
  | none => throw .badAddress
  | some url =>
      let exchange ← Act.always (exchange (Http.requestOf url order))
      match exchange.outcome address (order.timeout.getD Http.defaultTimeout) with
      | .ok response => pure response
      | .error message => throw (.error message)

end World

end DeviceLogin
