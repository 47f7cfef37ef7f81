import DeviceLogin.Channel
import DeviceLogin.Reply
import DeviceLogin.Version

set_option autoImplicit false

namespace DeviceLogin

abbrev MethodTable := Ordered (List String)

structure Call where
  method : String
  params : List Json
  id : Nat
  version : String

def Call.message (call : Call) : Message :=
  { method := call.method
    body := .obj
      [("method", .str call.method), ("params", .arr call.params), ("id", Json.nat call.id),
        ("version", .str call.version)] }

structure Service where
  name : String
  channel : Channel
  methods : Option MethodTable := none
  lastId : Nat := 0

namespace MethodTable

def entry? (line : Json) : Option (String × String) :=
  match Shape.accept? Shape.methodEntry (some line) with
  | some (.arr [.str name, _, _, .str version]) => some (name, version)
  | _ => none

def addEntry (table : MethodTable) (entry : String × String) : MethodTable :=
  let versions := (table.get? entry.1).getD []
  table.put entry.1 (if versions.contains entry.2 then versions else versions ++ [entry.2])

def ofReply (reply : Reply) : MethodTable :=
  ((reply.results.getD []).filterMap entry?).foldl addEntry []

end MethodTable

namespace Service

def listMethods : String := "getMethodTypes"

def defaultVersion : String := "1.0"

def knowsMethods (service : Service) : Bool := service.methods.isSome

def offers (service : Service) (method : String) : Bool :=
  match service.methods with
  | some table => table.has method
  | none => false

def versionOf (service : Service) (method : String) : String :=
  (((service.methods.bind (·.get? method)).bind Version.latest?).getD defaultVersion)

def nextCall (method : String) (params : List Json) (service : Service) : Call × Service :=
  (⟨method, params, service.lastId + 1, service.versionOf method⟩, { service with lastId := service.lastId + 1 })

def lacks (service : Service) (method : String) : Bool :=
  service.knowsMethods && method != listMethods && !service.offers method

def onChannel {α : Type} (act : Act (Scene Channel) α) : Act (Scene Service) α :=
  Scene.zoom (·.channel) (fun channel service => { service with channel := channel }) act

def changeChannel (f : Channel → Channel) (service : Service) : Service :=
  { service with channel := f service.channel }

def execute (method : String) (params : List Json) : Act (Scene Service) Reply := do
  let scene ← get
  if scene.focus.lacks method then return Reply.notImplemented method
  let (call, service) := scene.focus.nextCall method params
  set { scene with focus := service }
  return Reply.ofResponse (← onChannel (Channel.send call.message))

def readMethods (name : String) : Act (Scene Channel) (Option MethodTable × Reply) := do
  let reply ← Scene.zoom (fun channel => ({ name := name, channel := channel } : Service))
    (fun service _ => service.channel) (execute listMethods [.str ""])
  return (if reply.isError then none else some (MethodTable.ofReply reply), reply)

def load : Act (Scene Service) Reply := do
  let (methods, reply) ← onChannel (readMethods (← get).focus.name)
  modify (Scene.change fun service => { name := service.name, channel := service.channel, methods := methods })
  return reply

-- Which calls of services fail before they reach the service: by the requests so far, the service, the
-- method and the parameters.
abbrev Refusals := List Http.Request → String → String → List Json → Option Failure

def ask (refusals : Refusals) (method : String) (params : List Json := []) : Act (Scene Service) Reply := do
  let scene ← get
  match refusals scene.world.asked scene.focus.name method params with
  | some failure => throw failure
  | none => execute method params

end Service

end DeviceLogin
