import DeviceLogin.Ircc
import DeviceLogin.Service

set_option autoImplicit false

namespace DeviceLogin

inductive CommandSource where
  | documents (marks : Xml.Marks)
  | supplied (answer : String → Except Failure (List RemoteCommand))

structure Site where
  service : Service
  source : CommandSource

namespace Site

def onService {α : Type} (act : Act (Scene Service) α) : Act (Scene Site) α :=
  Scene.zoom (·.service) (fun service site => { site with service := service }) act

def offers (method : String) : Act (Scene Site) Bool := return (← get).focus.service.offers method

def fetch (logger : Logger) (url : String) : Act (Scene Site) (List RemoteCommand) := do
  match (← get).focus.source with
  | .documents marks =>
      Scene.zoom (fun _ => marks) (fun marks site => { site with source := .documents marks })
        (Ircc.fetch logger url)
  | .supplied answer =>
      Act.always (Scene.inWorld (World.record (.fetching url)))
      MonadExcept.ofExcept (answer url)

end Site

end DeviceLogin
