import DeviceLogin.CommandMap.Writer

set_option autoImplicit false

namespace DeviceLogin.Provisioning

structure Plan where
  settings : Settings
  refusals : Service.Refusals := fun _ _ _ _ => none
  parent : Logger := {}
  scope : String := "Session"

def Plan.logger (plan : Plan) : Logger := plan.parent.child (.about "Provision")

def say (plan : Plan) (message : String) : Act (Scene Site) Unit :=
  Act.always (Scene.inWorld (plan.logger.debug message))

def placeholders : List String := ["NA", "N/A"]

def isModelName (name : String) : Bool :=
  !Text.isBlank name && !placeholders.any fun placeholder => Text.sameCaseless placeholder (Text.trim name)

structure Fact where
  property : String
  field : String

def systemFacts : List Fact :=
  [⟨"product", "product"⟩, ⟨"name", "name"⟩, ⟨"model", "model"⟩, ⟨"generation", "generation"⟩,
    ⟨"serial", "serial"⟩, ⟨"macAddr", "macAddr"⟩, ⟨"area", "area"⟩, ⟨"region", "region"⟩]

def interfaceFacts : List Fact :=
  [⟨"interfaceVersion", "interfaceVersion"⟩, ⟨"productCategory", "productCategory"⟩, ⟨"serverName", "serverName"⟩]

def networkFacts : List Fact :=
  [⟨"netif", "netif"⟩, ⟨"hwAddress", "hwAddr"⟩, ⟨"ipv4Address", "ipAddrV4"⟩, ⟨"ipv6Address", "ipAddrV6"⟩,
    ⟨"netmask", "netmask"⟩, ⟨"gateway", "gateway"⟩]

def properties (facts : List Fact) (data : Json) : List (String × Option String) :=
  facts.filterMap fun fact =>
    let value := (data.member? fact.field).bind Json.text?
    if fact.property == "model" && !(value.map isModelName).getD false then none
    else some (fact.property, value)

def pushAll : List (String × Option String) → Act World Unit
  | [] => pure ()
  | (key, value) :: rest => do
      World.push key value
      pushAll rest

def askOptional (plan : Plan) (method : String) : Act (Scene Site) (Option Reply) := do
  if !(← Site.offers method) then
    say plan ("No " ++ method ++ " method found")
    return none
  let reply ← Site.onService (Service.ask plan.refusals method)
  if reply.isError || !reply.hasResults then
    say plan (method ++ " skipped: " ++ reply.describe)
    return none
  return some reply

def readFacts (plan : Plan) (method : String) (shape : Shape) (facts : List Fact) : Act (Scene Site) Unit := do
  match ← askOptional plan method with
  | none => pure ()
  | some reply =>
      match Shape.accept? shape reply.first? with
      | none => say plan ("Unexpected " ++ method ++ " payload")
      | some data => Scene.onWorld (pushAll (properties facts data))

def readSystem (plan : Plan) : Act (Scene Site) Unit :=
  readFacts plan "getSystemInformation" Shape.systemInformation systemFacts

def readInterface (plan : Plan) : Act (Scene Site) Unit :=
  readFacts plan "getInterfaceInformation" Shape.interfaceInformation interfaceFacts

def networkMethod : String := "getNetworkSettings"

def interfaces : List String := ["eth0", "wlan0", "eth1", "wlan1"]

def setting? (reply : Reply) : Option Json :=
  if reply.isError || !reply.hasResults then none
  else
    match reply.first? with
    | some (.arr items) => Shape.accept? Shape.networkSetting items.head?
    | first => Shape.accept? Shape.networkSetting first

def firstSetting (plan : Plan) : List String → Act (Scene Site) (Option Json)
  | [] => return none
  | netif :: rest => do
      let reply ← Site.onService (Service.ask plan.refusals networkMethod [.obj [("netif", .str netif)]])
      match setting? reply with
      | some setting => return some setting
      | none => firstSetting plan rest

def readNetwork (plan : Plan) : Act (Scene Site) Unit := do
  if !(← Site.offers networkMethod) then say plan ("No " ++ networkMethod ++ " method found")
  else
    match ← firstSetting plan interfaces with
    | some setting => Scene.onWorld (pushAll (properties networkFacts setting))
    | none => say plan "No network interface reported its settings"

def writeMap (plan : Plan) : Act (Scene Site) (Option String) :=
  CommandMap.write plan.scope plan.settings plan.refusals plan.parent

def run (plan : Plan) : Act (Scene Site) Unit := do
  readSystem plan
  readInterface plan
  readNetwork plan
  let _ ← writeMap plan

end DeviceLogin.Provisioning
