import Mathlib.Data.List.Induction
import DeviceLogin.Proofs.Clients
import DeviceLogin.Proofs.Repetitions
import DeviceLogin.Proofs.Replies
import DeviceLogin.Proofs.Sending

set_option autoImplicit false

namespace DeviceLogin

open Act

def Service.listing : Message := Call.message ⟨listMethods, [.str ""], 1, defaultVersion⟩

namespace Service

theorem read_methods_sent (name : String) {channel : Channel} {world : World} {response : Http.Response}
    {after : Scene Channel} (sent : (Channel.send listing).perform ⟨channel, world⟩ = (.ok response, after)) :
    let reply := Reply.ofResponse response
    (readMethods name).perform ⟨channel, world⟩ =
      (.ok (if reply.isError then none else some (MethodTable.ofReply reply), reply), after) := by
  have executed := execute_sent { name := name, channel := channel } listMethods [.str ""] rfl sent
  simp only [readMethods, perform_bind, Scene.zoom, perform_inside, executed]
  rfl

end Service

namespace Client

section

variable (settings : Settings) (logger : Logger) (options : ChannelOptions)

def Noted (posted noted : World) : Prop :=
  ∃ lines : List String, noted = { posted with trace := posted.trace ++ lines.map (Event.logged .debug) }

def question (name : String) : StateM World Http.Response :=
  (channelTo (settings.serviceUrl name) logger options).post Service.listing []

-- The services are asked for their methods, one after the other and each once.
inductive Asked : World → List (String × Http.Response) → World → Prop
  | nobody (world : World) : Asked world [] world
  | next {world posted noted final : World} {name : String} {response : Http.Response}
      {rest : List (String × Http.Response)}
      (answered : (question settings logger options name).run world = (response, posted)) (told : Noted posted noted)
      (later : Asked noted rest final) : Asked world ((name, response) :: rest) final

end

end Client

end DeviceLogin
