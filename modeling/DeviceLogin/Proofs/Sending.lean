import DeviceLogin.Client
import DeviceLogin.Proofs.Calls

set_option autoImplicit false

namespace DeviceLogin

open Act

theorem Act.perform_of_function {σ α : Type} (step : σ → Except Failure α × σ) (state : σ) :
    (ofFunction step).perform state = step state := rfl

theorem in_world_run {σ α : Type} (step : StateM World α) (scene : Scene σ) :
    (Scene.inWorld step).run scene = ((step.run scene.world).1, { scene with world := (step.run scene.world).2 }) := rfl

def Reauthorize.Replies (reauthorize : Reauthorize) : Prop :=
  ∀ url before, ∃ again after, (reauthorize url).perform before = (.ok again, after)

def Http.answer : Except Failure Http.Response → Http.Response
  | .ok response => response
  | .error failure => { status := 503, body := failure.message, headers := [] }

namespace Channel

def exchanged (channel : Channel) (message : Message) (extra : Ordered String) (world : World) :
    Except Failure Http.Response :=
  ((World.request channel.url (channel.order message extra world)).perform world).1

def Asks (channel : Channel) (response : Http.Response) (reauthorize : Reauthorize) : Prop :=
  channel.credentials.autoAuth = true ∧ isDenied response.status = true ∧ channel.reauthorize = some reauthorize

def asking (channel : Channel) (message : Message) (response : Http.Response) (world : World) : Scene Credentials :=
  ⟨channel.credentials, ((channel.logger.debug
    (message.method ++ " answered " ++ response.status.text ++ " - re-authorizing")
    { service := some channel.url }).run world).2⟩

def renewed (channel : Channel) (credentials : Credentials) : Channel := { channel with credentials := credentials }

-- The ways through the sending of a message.
inductive Course (channel : Channel) (message : Message) (extra : Ordered String) (world : World) :
    Except Failure Http.Response → Scene Channel → Prop
  | once {response : Http.Response} {after : World} (posted : (channel.post message extra).run world = (response, after))
      (unasked : ∀ reauthorize, ¬ channel.Asks response reauthorize) :
      Course channel message extra world (.ok response) ⟨channel, after⟩
  | denied {response : Http.Response} {after : World} {reauthorize : Reauthorize} {told : Scene Credentials}
      (posted : (channel.post message extra).run world = (response, after)) (asks : channel.Asks response reauthorize)
      (refused : (reauthorize channel.url).perform (channel.asking message response after) = (.ok false, told)) :
      Course channel message extra world (.ok response) ⟨channel.renewed told.focus, told.world⟩
  | repeated {response second : Http.Response} {after final : World} {reauthorize : Reauthorize}
      {told : Scene Credentials} (posted : (channel.post message extra).run world = (response, after))
      (asks : channel.Asks response reauthorize)
      (granted : (reauthorize channel.url).perform (channel.asking message response after) = (.ok true, told))
      (again : ((channel.renewed told.focus).post message extra).run told.world = (second, final)) :
      Course channel message extra world (.ok second) ⟨channel.renewed told.focus, final⟩
  | failed {response : Http.Response} {after : World} {reauthorize : Reauthorize} {failure : Failure}
      {told : Scene Credentials} (posted : (channel.post message extra).run world = (response, after))
      (asks : channel.Asks response reauthorize)
      (thrown : (reauthorize channel.url).perform (channel.asking message response after) = (.error failure, told)) :
      Course channel message extra world (.error failure) ⟨channel.renewed told.focus, told.world⟩

variable (channel : Channel) (message : Message) (extra : Ordered String) (world : World)

theorem post_answer : ((channel.post message extra).run world).1 = Http.answer (channel.exchanged message extra world) := by
  rw [post_run, exchanged]
  cases (World.request channel.url (channel.order message extra world)).perform world with
  | mk result after => cases result <;> rfl

theorem send_once {response : Http.Response} {after : World}
    (posted : (channel.post message extra).run world = (response, after))
    (unasked : ∀ reauthorize, ¬ channel.Asks response reauthorize) :
    (send message extra).perform ⟨channel, world⟩ = (.ok response, ⟨channel, after⟩) := by
  have sent : (Scene.inWorld (channel.post message extra)).run (⟨channel, world⟩ : Scene Channel) =
      (response, ⟨channel, after⟩) := by
    rw [in_world_run, posted]
  simp only [send, perform_bind, perform_get, perform_always, sent]
  split
  · next wanted hook =>
      have both := Bool.and_eq_true_iff.mp wanted
      exact absurd ⟨both.1, both.2, hook⟩ (unasked _)
  · rfl

theorem send_asking {response : Http.Response} {after : World} {reauthorize : Reauthorize}
    (posted : (channel.post message extra).run world = (response, after)) (asks : channel.Asks response reauthorize) :
    (send message extra).perform ⟨channel, world⟩ =
      match (reauthorize channel.url).perform (channel.asking message response after) with
      | (.ok true, told) =>
          (.ok (((channel.renewed told.focus).post message extra).run told.world).1,
            ⟨channel.renewed told.focus, (((channel.renewed told.focus).post message extra).run told.world).2⟩)
      | (.ok false, told) => (.ok response, ⟨channel.renewed told.focus, told.world⟩)
      | (.error failure, told) => (.error failure, ⟨channel.renewed told.focus, told.world⟩) := by
  obtain ⟨on, denied, hook⟩ := asks
  have sent : (Scene.inWorld (channel.post message extra)).run (⟨channel, world⟩ : Scene Channel) =
      (response, ⟨channel, after⟩) := by
    rw [in_world_run, posted]
  have noted : (Scene.inWorld (channel.logger.debug
        (message.method ++ " answered " ++ response.status.text ++ " - re-authorizing")
        { service := some channel.url })).run (⟨channel, after⟩ : Scene Channel) =
      ((), ⟨channel, (channel.asking message response after).world⟩) := rfl
  have asked : (⟨channel.credentials, (channel.asking message response after).world⟩ : Scene Credentials) =
      channel.asking message response after := rfl
  simp only [send, perform_bind, perform_get, perform_always, sent, on, denied, hook, Bool.and_self, noted, Scene.zoom,
    perform_inside, asked, renewed]
  rcases (reauthorize channel.url).perform (channel.asking message response after) with ⟨result, told⟩
  cases result with
  | error failure => rfl
  | ok again => cases again <;> rfl

theorem send_course :
    channel.Course message extra world ((send message extra).perform ⟨channel, world⟩).1
      ((send message extra).perform ⟨channel, world⟩).2 := by
  rcases posted : (channel.post message extra).run world with ⟨response, after⟩
  by_cases asks : ∃ reauthorize, channel.Asks response reauthorize
  · obtain ⟨reauthorize, asks⟩ := asks
    rw [send_asking channel message extra world posted asks]
    rcases told : (reauthorize channel.url).perform (channel.asking message response after) with ⟨result, scene⟩
    cases result with
    | error failure => exact .failed posted asks told
    | ok again =>
        cases again with
        | false => exact .denied posted asks told
        | true => exact .repeated posted asks told rfl
  · have unasked : ∀ reauthorize, ¬ channel.Asks response reauthorize := fun reauthorize asked => asks ⟨reauthorize, asked⟩
    rw [send_once channel message extra world posted unasked]
    exact .once posted unasked

def AskingFails (failure : Failure) : Prop :=
  ∃ response after reauthorize told, (channel.post message extra).run world = (response, after) ∧
    channel.Asks response reauthorize ∧
    (reauthorize channel.url).perform (channel.asking message response after) = (.error failure, told)

def Replying : Prop := ∀ reauthorize, channel.reauthorize = some reauthorize → reauthorize.Replies

theorem send_failed_iff (failure : Failure) :
    (∃ after, (send message extra).perform ⟨channel, world⟩ = (.error failure, after)) ↔
      channel.AskingFails message extra world failure := by
  constructor
  · rintro ⟨after, ended⟩
    have course := send_course channel message extra world
    rw [ended] at course
    cases course with
    | failed posted asks thrown => exact ⟨_, _, _, _, posted, asks, thrown⟩
  · rintro ⟨response, after, reauthorize, told, posted, asks, thrown⟩
    rw [send_asking channel message extra world posted asks, thrown]
    exact ⟨_, rfl⟩

theorem send_resolves (replying : channel.Replying) :
    ∃ response after, (send message extra).perform ⟨channel, world⟩ = (.ok response, after) := by
  rcases ended : (send message extra).perform ⟨channel, world⟩ with ⟨result, after⟩
  cases result with
  | ok response => exact ⟨response, after, rfl⟩
  | error failure =>
      obtain ⟨response, posted, reauthorize, told, -, asks, thrown⟩ :=
        (send_failed_iff channel message extra world failure).mp ⟨after, ended⟩
      obtain ⟨again, other, replied⟩ := replying reauthorize asks.2.2 channel.url (channel.asking message response posted)
      rw [replied] at thrown
      exact nomatch thrown

theorem send_answered {response : Http.Response} {after : Scene Channel}
    (ended : (send message extra).perform ⟨channel, world⟩ = (.ok response, after)) :
    ∃ (sender : Channel) (before : World), sender.url = channel.url ∧
      response = Http.answer (sender.exchanged message extra before) := by
  have course := send_course channel message extra world
  rw [ended] at course
  cases course with
  | once posted unasked => exact ⟨channel, world, rfl, by rw [← post_answer, posted]⟩
  | denied posted asks refused => exact ⟨channel, world, rfl, by rw [← post_answer, posted]⟩
  | @repeated _ _ _ _ _ told posted asks granted again =>
      exact ⟨channel.renewed told.focus, told.world, rfl, by rw [← post_answer, again]⟩

theorem unavailable_let_in : isDenied (Http.answer (.error .noAnswer)).status = false := by decide +kernel

theorem send_unavailable (failure : Failure) (failed : channel.exchanged message extra world = .error failure) :
    ∃ after, (send message extra).perform ⟨channel, world⟩ = (.ok (Http.answer (.error failure)), ⟨channel, after⟩) := by
  rcases posted : (channel.post message extra).run world with ⟨response, after⟩
  have answered : response = Http.answer (.error failure) := by
    rw [← failed, ← post_answer, posted]
  subst answered
  refine ⟨after, send_once channel message extra world posted fun reauthorize asks => ?_⟩
  exact Bool.false_ne_true (unavailable_let_in.symm.trans asks.2.1)

end Channel

def Traffic.answer (traffic : Traffic) (url : String) (sent : Sent) : Http.Response :=
  match (traffic.answers traffic.asked sent.request).outcome url sent.request.timeout with
  | .ok response => response
  | .error message => Channel.unavailable message

theorem post_sent (channel : Channel) (message : Message) (extra : Ordered String) (world : World) (url : Url)
    (read : Url.read? channel.url = some url) :
    ((channel.post message extra).run world).1 =
      world.traffic.answer channel.url (Sent.posted channel message extra url world.traffic) := by
  rw [Channel.post_answer, Channel.exchanged, World.request_sent _ _ _ url read, Traffic.answer]
  have same : (world.answers world.asked (Http.requestOf url (channel.order message extra world))).outcome channel.url
      ((channel.order message extra world).timeout.getD Http.defaultTimeout) =
    (world.traffic.answers world.traffic.asked (Sent.posted channel message extra url world.traffic).request).outcome
      channel.url (Sent.posted channel message extra url world.traffic).request.timeout := rfl
  rw [same]
  cases (world.traffic.answers world.traffic.asked (Sent.posted channel message extra url world.traffic).request).outcome
    channel.url (Sent.posted channel message extra url world.traffic).request.timeout <;> rfl

theorem Service.execute_resolves (service : Service) (method : String) (params : List Json) (world : World)
    (replying : service.channel.Replying) :
    ∃ reply after, (execute method params).perform ⟨service, world⟩ = (.ok reply, after) := by
  by_cases lacks : service.lacks method
  · exact ⟨_, _, execute_lacking service method params world lacks⟩
  · obtain ⟨response, after, sent⟩ :=
      Channel.send_resolves service.channel (service.nextCall method params).1.message [] world replying
    exact ⟨_, _, execute_sent service method params (Bool.eq_false_iff.mpr lacks) sent⟩

namespace Client

variable (settings : Settings) (logger : Logger) (options : ChannelOptions)

def ChannelOptions.Replying (options : ChannelOptions) : Prop :=
  ∀ reauthorize, options.reauthorize = some reauthorize → reauthorize.Replies

theorem read_methods_resolves (name : String) (channel : Channel) (world : World) (replying : channel.Replying) :
    ∃ read after, (Service.readMethods name).perform ⟨channel, world⟩ = (.ok read, after) := by
  obtain ⟨reply, after, executed⟩ := Service.execute_resolves { name := name, channel := channel } Service.listMethods
    [.str ""] world replying
  simp only [Service.readMethods, perform_bind, Scene.zoom, perform_inside, executed, perform_pure]
  exact ⟨_, _, rfl⟩

theorem connect_service_resolves (replying : options.Replying) (name : String) (client : Client) (world : World) :
    ∃ after, (connectService settings logger options name).perform ⟨client, world⟩ = (.ok (), after) := by
  obtain ⟨⟨methods, reply⟩, after, read⟩ :=
    read_methods_resolves name (channelTo (settings.serviceUrl name) logger options) world replying
  simp only [connectService, perform_bind, perform_of_function, read, Except.map]
  split
  · exact ⟨_, rfl⟩
  · cases methods <;> exact ⟨_, rfl⟩

theorem connect_all_resolves (replying : options.Replying) (names : List String) (client : Client) (world : World) :
    ∃ after, (connectAll settings logger options names).perform ⟨client, world⟩ = (.ok (), after) := by
  induction names generalizing client world with
  | nil => exact ⟨_, rfl⟩
  | cons name rest ih =>
      obtain ⟨after, connected⟩ := connect_service_resolves settings logger options replying name client world
      obtain ⟨final, ended⟩ := ih after.focus after.world
      refine ⟨final, ?_⟩
      rw [connectAll, perform_bind, connected]
      exact ended

theorem connect_resolves (replying : options.Replying) (names : List String) (world : World) :
    ∃ client after, (connect settings names options).perform world = (.ok client, after) := by
  obtain ⟨after, connected⟩ := connect_all_resolves settings
    (Logger.forDevice settings.deviceAddress.value? "Transport") options replying names {} world
  refine ⟨after.focus, after.world, ?_⟩
  simp only [connect, perform_of_function, connected]
  rfl

end Client

-- A message fails only where the one whom its channel asks for credentials fails, and with the very same failure; any
-- other message is answered, by the response of an exchange or, where the exchange failed, by status 503 with the
-- message of its error. So calls and connecting fail for no other reason either.
theorem send_fails_only_by_asking (channel : Channel) (message : Message) (extra : Ordered String) (world : World) :
    (∀ failure, channel.exchanged message extra world = .error failure →
      ∃ after, (Channel.send message extra).perform ⟨channel, world⟩ =
        (.ok { status := 503, body := failure.message, headers := [] }, ⟨channel, after⟩)) ∧
    (∀ response after, (Channel.send message extra).perform ⟨channel, world⟩ = (.ok response, after) →
      ∃ (sender : Channel) (before : World), sender.url = channel.url ∧
        response = Http.answer (sender.exchanged message extra before)) ∧
    (∀ failure, (∃ after, (Channel.send message extra).perform ⟨channel, world⟩ = (.error failure, after)) ↔
      channel.AskingFails message extra world failure) ∧
    (channel.Replying →
      ∃ response after, (Channel.send message extra).perform ⟨channel, world⟩ = (.ok response, after)) ∧
    (∀ (service : Service) (method : String) (params : List Json), service.channel.Replying →
      ∃ reply after, (Service.execute method params).perform ⟨service, world⟩ = (.ok reply, after)) ∧
    ∀ (settings : Settings) (names : List String) (options : Client.ChannelOptions), options.Replying →
      ∃ client after, (Client.connect settings names options).perform world = (.ok client, after) := by
  refine ⟨Channel.send_unavailable channel message extra world,
    fun response after => Channel.send_answered channel message extra world,
    Channel.send_failed_iff channel message extra world, Channel.send_resolves channel message extra world, ?_, ?_⟩
  · exact fun service method params replying => service.execute_resolves method params world replying
  · exact fun settings names options replying => Client.connect_resolves settings options replying names world

theorem send_fails_only_by_asking_unaddressed :
    let channel : Channel := { url := "", reauthorize := some fun _ => throw (.error "no credentials") }
    let message : Message := ⟨"getPowerStatus", .obj []⟩
    let world : World := { device := fun _ _ => .timedOut }
    channel.exchanged message [] world = .error .badAddress ∧
      ∃ after, (Channel.send message).perform ⟨channel, world⟩ =
        (.ok { status := 503, body := "Invalid URL", headers := [] }, ⟨channel, after⟩) := by
  intro channel message world
  have failed : channel.exchanged message [] world = .error .badAddress := by
    rw [Channel.exchanged, World.request_bad_address]
    decide +kernel
  exact ⟨failed, (send_fails_only_by_asking channel message [] world).1 .badAddress failed⟩

theorem send_fails_without_credentials :
    let channel : Channel :=
      { url := "http://tv/sony/system", reauthorize := some fun _ => throw (.error "no credentials") }
    let message : Message := ⟨"getPowerStatus", .obj []⟩
    let world : World :=
      { device := fun _ _ =>
          .answered { status := some 401, headers := [], chunks := [], streamError := none, truncated := false } }
    ∃ after, (Channel.send message).perform ⟨channel, world⟩ = (.error (.error "no credentials"), after) := by
  intro channel message world
  rw [Channel.send_failed_iff]
  rcases posted : (channel.post message []).run world with ⟨response, after⟩
  refine ⟨response, after, fun _ => throw (.error "no credentials"), _, posted, ⟨rfl, ?_, rfl⟩, rfl⟩
  have denied : Channel.isDenied ((channel.post message []).run world).1.status = true := by decide +kernel
  rwa [posted] at denied

end DeviceLogin
