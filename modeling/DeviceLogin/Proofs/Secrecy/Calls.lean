import DeviceLogin.Proofs.Calls
import DeviceLogin.Proofs.Secrecy.Worlds

set_option autoImplicit false

namespace DeviceLogin

open Act

variable {mask : String → String}

namespace World

theorem answers_alike (world : World) (asked : List Http.Request) (request twin : Http.Request)
    (history : world.asked.map (Http.Request.masked mask) = asked.map (Http.Request.masked mask))
    (same : request.masked mask = twin.masked mask) (blind : Blind world.device) (overlooks : world.sender.Overlooks mask) :
    world.answers world.asked request = world.answers asked twin := by
  have sent : (world.asked.filter world.sender.sends).map (Http.Request.masked mask) =
      (asked.filter world.sender.sends).map (Http.Request.masked mask) := by
    rw [Http.Sender.sent_masked overlooks, Http.Sender.sent_masked overlooks, history]
  rw [answers, answers, Http.Sender.refusal_alike overlooks same]
  cases world.sender.refusal? twin with
  | some message => rfl
  | none => exact blind _ _ request twin (requests_redacted sent) (Http.Request.redacted_of_masked same)

theorem exchange_agreeing (request twin : Http.Request) (same : request.masked mask = twin.masked mask) :
    Agreeing (World.Alike mask) (exchange request) (exchange twin) := by
  rintro world _ ⟨asked, trace, rfl, history, events, blind, overlooks⟩
  refine ⟨answers_alike world asked request twin history same blind overlooks, asked ++ [twin],
    trace ++ [Event.requested twin], rfl, ?_, ?_, blind, overlooks⟩
  · change (world.asked ++ [request]).map (Http.Request.masked mask) = _
    rw [List.map_append, List.map_append, history]
    exact congrArg (_ ++ [·]) same
  · change (world.trace ++ [Event.requested request]).map (Event.masked mask) = _
    rw [List.map_append, List.map_append, events]
    exact congrArg (fun request => _ ++ [Event.requested request]) same

theorem request_agrees (address : String) (order twin : Http.Order) (timeout : order.timeout = twin.timeout)
    (same : ∀ url, (Http.requestOf url order).masked mask = (Http.requestOf url twin).masked mask) :
    Agrees (World.Alike mask) (request address order) (request address twin) := by
  unfold request
  cases Url.read? address with
  | none => exact Agrees.throw _
  | some url =>
      refine (Agrees.always (exchange_agreeing _ _ (same url))).bind fun exchange => ?_
      rw [timeout]
      cases exchange.outcome address (twin.timeout.getD Http.defaultTimeout) with
      | ok response => exact Agrees.pure response
      | error message => exact Agrees.throw _

end World

namespace Channel

theorem keep_agreeing (channel twin : Channel) (same : channel.masked mask = twin.masked mask) (response : Http.Response) :
    Agreeing (World.Alike mask) (channel.keep response) (twin.keep response) := by
  have jar : channel.credentials.jar = twin.credentials.jar := congrArg (·.credentials.jar) same
  rw [keep, keep, jar]
  cases twin.credentials.jar with
  | none => exact Agreeing.pure ()
  | some number => exact World.store_cookies_agreeing number _

theorem order_masked (channel twin : Channel) (same : channel.masked mask = twin.masked mask) (message : Message)
    (extra other : Ordered String) (extras : Ordered.masked mask extra = Ordered.masked mask other) (world : World) (url : Url) :
    (Http.requestOf url (channel.order message extra world)).masked mask =
      (Http.requestOf url (twin.order message other world)).masked mask := by
  have jar : channel.credentials.jar = twin.credentials.jar := congrArg (·.credentials.jar) same
  have timeout : channel.timeout = twin.timeout := congrArg (·.timeout) same
  have cookies : channel.cookies? world = twin.cookies? world := by rw [cookies?, cookies?, jar]
  have headers : Ordered.masked mask (channel.headersFor extra (channel.cookies? world)) =
      Ordered.masked mask (twin.headersFor other (twin.cookies? world)) := by
    rw [headers_for_masked, headers_for_masked, same, extras, cookies]
  simp only [order, Http.requestOf, Http.Request.masked, headers, timeout]

theorem post_agreeing (channel twin : Channel) (same : channel.masked mask = twin.masked mask) (message : Message)
    (extra other : Ordered String) (extras : Ordered.masked mask extra = Ordered.masked mask other) :
    Agreeing (World.Alike mask) (channel.post message extra) (twin.post message other) := by
  have url : channel.url = twin.url := congrArg (·.url) same
  have logger : channel.logger = twin.logger := congrArg (·.logger) same
  have timeout : channel.timeout = twin.timeout := congrArg (·.timeout) same
  refine Agreeing.get_bind fun world reached alike => ?_
  obtain ⟨asked, trace, equal, -⟩ := id alike
  have view : twin.order message other reached = twin.order message other world := equal ▸ rfl
  have sent : Agrees (World.Alike mask) (World.request channel.url (channel.order message extra world))
      (World.request twin.url (twin.order message other reached)) := by
    rw [view, url]
    exact World.request_agrees _ _ _ timeout (order_masked channel twin same message extra other extras world)
  refine sent.run.bind (fun result => ?_) world reached alike
  cases result with
  | ok response => exact (keep_agreeing channel twin same response).bind fun _ => Agreeing.pure response
  | error failure =>
      rw [logger, url]
      exact (World.write_log_agreeing _ _ _ _).bind fun _ => Agreeing.pure _

theorem send_agrees (message : Message) (extra other : Ordered String) (extras : Ordered.masked mask extra = Ordered.masked mask other) :
    Agrees (Scene.Alike (Channel.Alike mask) (World.Alike mask)) (send message extra) (send message other) := by
  rintro ⟨channel, world⟩ ⟨twin, reached⟩ ⟨⟨same, muted⟩, alike⟩
  have off : twin.credentials.autoAuth = false := (congrArg (·.credentials.autoAuth) same).symm.trans muted
  rw [send_muted channel message extra world muted, send_muted twin message other reached off]
  obtain ⟨answer, after⟩ := post_agreeing channel twin same message extra other extras world reached alike
  exact ⟨congrArg Except.ok answer, ⟨same, muted⟩, after⟩

end Channel

namespace Service

structure Alike (mask : String → String) (service twin : Service) : Prop where
  same : service.masked mask = twin.masked mask
  muted : service.channel.Muted

theorem on_channel_agrees {α : Type} {act other : Act (Scene Channel) α}
    (agrees : Agrees (Scene.Alike (Channel.Alike mask) (World.Alike mask)) act other) :
    Agrees (Scene.Alike (Service.Alike mask) (World.Alike mask)) (onChannel act) (onChannel other) := by
  refine agrees.zoom (fun service twin alike => ⟨congrArg (·.channel) alike.same, alike.muted⟩) ?_
  intro service twin part other alike parts
  have rebuilt (service : Service) (channel : Channel) :
      ({ service with channel := channel } : Service).masked mask = { service.masked mask with channel := channel.masked mask } := rfl
  refine ⟨(rebuilt service part).trans ?_, parts.muted⟩
  rw [alike.same, parts.same]
  rfl

theorem execute_agrees (method : String) (params : List Json) :
    Agrees (Scene.Alike (Service.Alike mask) (World.Alike mask)) (execute method params) (execute method params) := by
  rintro ⟨service, world⟩ ⟨twin, reached⟩ ⟨⟨same, muted⟩, alike⟩
  have autoAuth : service.channel.credentials.autoAuth = twin.channel.credentials.autoAuth :=
    congrArg (·.channel.credentials.autoAuth) same
  have off : twin.channel.Muted := autoAuth.symm.trans muted
  have lacks : service.lacks method = twin.lacks method := congrArg (fun service => service.lacks method) same
  have call : (service.nextCall method params).1 = (twin.nextCall method params).1 :=
    congrArg (fun service => (service.nextCall method params).1) same
  have channel : service.channel.masked mask = twin.channel.masked mask := congrArg (·.channel) same
  rw [execute_muted service method params world muted, execute_muted twin method params reached off, lacks, call]
  split
  · exact ⟨rfl, ⟨same, muted⟩, alike⟩
  · obtain ⟨answer, after⟩ := Channel.post_agreeing service.channel twin.channel channel
      (twin.nextCall method params).1.message [] [] rfl world reached alike
    have counted (service : Service) : ({ service with lastId := service.lastId + 1 } : Service).masked mask =
        { service.masked mask with lastId := (service.masked mask).lastId + 1 } := rfl
    exact ⟨congrArg (fun answer => Except.ok (Reply.ofResponse answer)) answer, ⟨by rw [counted, counted, same], muted⟩, after⟩

theorem ask_agrees (refusals : Refusals) (blind : refusals.Blind) (method : String) (params : List Json) :
    Agrees (Scene.Alike (Service.Alike mask) (World.Alike mask)) (ask refusals method params) (ask refusals method params) := by
  refine Agrees.get_bind fun scene twin alike => ?_
  obtain ⟨asked, trace, equal, history, -⟩ := id alike.world
  have name : scene.focus.name = twin.focus.name := congrArg (·.name) alike.focus.same
  have requests : twin.world.asked = asked := congrArg World.asked equal
  rw [name, requests, blind _ _ (requests_redacted history)]
  cases refusals asked twin.focus.name method params with
  | some failure => exact Agrees.throw failure _ _ alike
  | none => exact execute_agrees method params _ _ alike

theorem changed_alike {f g : Credentials → Credentials} (twins : Credentials.Twins mask f g) {service twin : Service}
    (alike : service.Alike mask twin) :
    (service.changeChannel (Channel.change f)).Alike mask (twin.changeChannel (Channel.change g)) := by
  obtain ⟨⟨common, left, right⟩, quiet⟩ := twins
  have rebuilt (f : Credentials → Credentials) (service : Service)
      (same : ∀ credentials, (f credentials).masked mask = common (credentials.masked mask)) :
      (service.changeChannel (Channel.change f)).masked mask = (service.masked mask).changeChannel (Channel.change common) := by
    simp only [Service.masked, Service.changeChannel, Channel.masked, Channel.change, same]
  refine ⟨?_, (quiet _).trans alike.muted⟩
  rw [rebuilt f service left, rebuilt g twin right, alike.same]

end Service

end DeviceLogin
