import DeviceLogin.Service
import DeviceLogin.Settings

set_option autoImplicit false

namespace DeviceLogin

structure Client where
  services : Ordered Service := []
  named : ∀ entry ∈ services, entry.1 = entry.2.name := by simp
  distinct : (Ordered.keys services).Nodup := by simp [Ordered.keys]

namespace Client

def usualServices : List String := ["guide", "accessControl", "system", "avContent", "audio", "appControl"]

def put (client : Client) (service : Service) : Client where
  services := Ordered.put client.services service.name service
  named := by
    intro entry member
    rcases Ordered.mem_put _ _ _ _ member with same | old
    · rw [same]
    · exact client.named entry old
  distinct := Ordered.nodup_keys_put _ _ _ client.distinct

def ofServices (services : List Service) : Client := services.foldl put {}

def service? (client : Client) (name : String) : Option Service := client.services.get? name

def channels (client : Client) : List Channel := client.services.map fun entry => entry.2.channel

def changeChannels (f : Channel → Channel) (client : Client) : Client where
  services := client.services.map fun entry => (entry.1, entry.2.changeChannel f)
  named := by
    intro entry member
    obtain ⟨old, known, rfl⟩ := List.mem_map.mp member
    exact client.named old known
  distinct := by simpa [Ordered.keys, Function.comp_def] using client.distinct

theorem keys_replaced (services : Ordered Service) (service : Service) :
    Ordered.keys (services.map fun entry => if entry.1 == service.name then (entry.1, service) else entry) =
      Ordered.keys services := by
  simp only [Ordered.keys, List.map_map]
  refine List.map_congr_left fun entry _ => ?_
  simp only [Function.comp_apply]
  split <;> rfl

def replace (client : Client) (service : Service) : Client where
  services := client.services.map fun entry => if entry.1 == service.name then (entry.1, service) else entry
  named := by
    intro entry member
    obtain ⟨old, known, rfl⟩ := List.mem_map.mp member
    split
    · next same => exact beq_iff_eq.mp same
    · exact client.named old known
  distinct := by rw [keys_replaced]; exact client.distinct

def onService {α : Type} (service : Service) (act : Act (Scene Service) α) : Act (Scene Client) α :=
  Scene.zoom (fun client => (client.service? service.name).getD service)
    (fun changed client => client.replace changed) act

structure ChannelOptions where
  autoAuth : Bool := true
  timeout : Option Number := none
  reauthorize : Option Reauthorize := none

def channelTo (url : String) (logger : Logger) (options : ChannelOptions) : Channel :=
  { url := url
    logger := logger.child (.about "Transport")
    timeout := options.timeout
    reauthorize := options.reauthorize
    credentials := { autoAuth := options.autoAuth } }

def connectService (settings : Settings) (logger : Logger) (options : ChannelOptions) (name : String) :
    Act (Scene Client) Unit := do
  let url := settings.serviceUrl name
  let ((methods, reply), found) ←
    Act.ofFunction fun scene =>
      let (result, after) := (Service.readMethods name).perform ⟨channelTo url logger options, scene.world⟩
      (result.map fun value => (value, after.focus), ({ scene with world := after.world } : Scene Client))
  if reply.status == 404 then
    Act.always (Scene.inWorld (logger.debug ("Service " ++ name ++ " not found on device")))
  else
    if methods.isNone then
      Act.always (Scene.inWorld (logger.debug ("Could not read methods of " ++ name ++ ": " ++ reply.describe)))
    let service : Service := { name := name, channel := found, methods := methods }
    modify (Scene.change (·.put service))

def connectAll (settings : Settings) (logger : Logger) (options : ChannelOptions) :
    List String → Act (Scene Client) Unit
  | [] => pure ()
  | name :: rest => do
      connectService settings logger options name
      connectAll settings logger options rest

def connect (settings : Settings) (names : List String) (options : ChannelOptions) : Act World Client := do
  let logger := Logger.forDevice settings.deviceAddress.value? "Transport"
  Act.ofFunction fun world =>
    let (result, scene) := (connectAll settings logger options names).perform ⟨{}, world⟩
    (result.map fun _ => scene.focus, scene.world)

end Client

end DeviceLogin
