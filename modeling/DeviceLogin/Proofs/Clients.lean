import DeviceLogin.Client
import DeviceLogin.Proofs.Lookups

set_option autoImplicit false

namespace DeviceLogin

open Act

namespace Client

theorem ext_services (client other : Client) (same : client.services = other.services) : client = other := by
  obtain ⟨services, named, distinct⟩ := client
  obtain ⟨others, _, _⟩ := other
  cases same
  rfl

theorem service_named (client : Client) (name : String) (service : Service) (found : client.service? name = some service) :
    service.name = name :=
  (client.named (name, service) (Ordered.mem_of_get _ _ _ found)).symm

theorem service_changed (client : Client) (f : Channel → Channel) (name : String) :
    (client.changeChannels f).service? name = (client.service? name).map (Service.changeChannel f) :=
  Ordered.get_map client.services (Service.changeChannel f) name

theorem service_replaced (client : Client) (service : Service) (name : String) :
    (client.replace service).service? name =
      if service.name = name then (client.service? name).map fun _ => service else client.service? name :=
  Ordered.get_replace client.services service.name name service

theorem channels_changed (client : Client) (f : Channel → Channel) :
    (client.changeChannels f).channels = client.channels.map f := by
  simp [channels, changeChannels, Service.changeChannel, Function.comp_def]

theorem changed_changed (client : Client) (f g : Channel → Channel) :
    (client.changeChannels f).changeChannels g = client.changeChannels (g ∘ f) := by
  apply ext_services
  simp [changeChannels, Service.changeChannel, Function.comp_def]

theorem changed_id (client : Client) : client.changeChannels id = client := by
  apply ext_services
  simp [changeChannels, Service.changeChannel]

theorem channels_replaced (client : Client) (old service : Service) (found : client.service? service.name = some old)
    (same : service.channel = old.channel) : (client.replace service).channels = client.channels := by
  simp only [channels, replace, List.map_map]
  refine List.map_congr_left fun entry member => ?_
  by_cases here : entry.1 = service.name
  · have held := Ordered.get_of_mem client.services entry.1 entry.2 client.distinct member
    rw [here] at held
    have equal : entry.2 = old := Option.some.inj (held.symm.trans found)
    simp [here, same, equal]
  · simp [here]

theorem on_service_perform {α : Type} (client : Client) (world : World) (service found : Service)
    (act : Act (Scene Service) α) (known : client.service? service.name = some found) :
    (onService service act).perform ⟨client, world⟩ =
      ((act.perform ⟨found, world⟩).1,
        ⟨client.replace (act.perform ⟨found, world⟩).2.focus, (act.perform ⟨found, world⟩).2.world⟩) := by
  simp only [onService, Scene.zoom, perform_inside, known, Option.getD_some]

end Client

end DeviceLogin
