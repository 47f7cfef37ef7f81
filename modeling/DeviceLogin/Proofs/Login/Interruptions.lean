import DeviceLogin.Proofs.Files
import DeviceLogin.Proofs.Login.Settling
import DeviceLogin.Proofs.Occasions

set_option autoImplicit false

namespace DeviceLogin

open Act Service

def probingMethods : List String := ["getDeviceMode", "getPowerStatus"]

def readingMethods : List String := ["getSystemInformation", "getInterfaceInformation", "getNetworkSettings"]

theorem Probe.run_consults : Consults CommandMap.keysMethod Silenced probingMethods Probe.run := by
  refine (ask_consults "getDeviceMode" [] (by decide)).bind fun mode => Consults.ite ?_ (Consults.pure _)
  exact (ask_consults "getPowerStatus" [] (by decide)).bind fun power => Consults.pure _

namespace Authorization

variable {probe : Refusals → Act (Scene Service) Outcome} {spared : String} {methods : List String}

theorem attempt_consults (consults : Consults spared Silenced methods probe) (put back : Credentials → Credentials)
    (quiet : ∀ credentials, (put credentials).autoAuth = credentials.autoAuth)
    (still : ∀ credentials, (back credentials).autoAuth = credentials.autoAuth) :
    Consults spared Silenced methods fun refusals => attempt put back (probe refusals) := by
  have silenced {f : Credentials → Credentials} (kept : ∀ credentials, (f credentials).autoAuth = credentials.autoAuth)
      (service : Service) (silent : service.Silenced) : (service.changeChannel (Channel.change f)).Silenced :=
    (kept service.channel.credentials).trans silent
  exact (Consults.changing (silenced quiet)).bind fun _ => consults.ensuring (silenced still)

theorem try_key_consults (consults : Consults spared Silenced methods probe) (code : Option String) (logger : Logger) :
    Consults spared Silenced methods fun refusals => tryKey code logger (probe refusals) := by
  unfold tryKey
  cases key? code with
  | none => exact Consults.pure false
  | some key =>
      refine (attempt_consults consults (·.withHeader keyHeader key) (·.withoutHeader keyHeader) (fun _ => rfl)
        (fun _ => rfl)).bind fun outcome => ?_
      exact (Consults.debug logger _).bind fun _ => Consults.pure _

theorem try_cookies_consults (consults : Consults spared Silenced methods probe) (jar : Nat) (logger : Logger) :
    Consults spared Silenced methods fun refusals => tryCookies jar logger (probe refusals) := by
  refine (attempt_consults consults (·.withJar jar) Credentials.withoutJar (fun _ => rfl) (fun _ => rfl)).bind
    fun outcome => ?_
  by_cases accepted : outcome = .ok
  · simp only [accepted, if_true]
    exact (Consults.debug logger _).bind fun _ => Consults.pure _
  · simp only [accepted, if_false]
    exact Consults.pure _

theorem check_consults (consults : Consults spared Silenced methods probe) (code : Option String) (jar : Nat)
    (parent : Logger) : Consults spared Silenced methods fun refusals => check code jar parent (probe refusals) := by
  refine (try_key_consults consults code _).bind fun accepted => Consults.ite (Consults.pure _) ?_
  exact (try_cookies_consults consults jar _).bind fun outcome => Consults.ite (Consults.pure _) (Consults.pure _)

end Authorization

namespace Provisioning

def Plan.refusing (plan : Plan) (refusals : Refusals) : Plan := { plan with refusals := refusals }

def Quiet (site : Site) : Prop := site.service.Silenced

variable {plan : Plan} {spared : String} {methods : List String}

theorem asking_consults (method : String) (params : List Json) (listed : method ∈ methods) :
    Consults spared Quiet methods fun refusals => Site.onService (Service.ask refusals method params) :=
  (ask_consults method params listed).zoom (fun _ silenced => silenced) fun _ _ _ silenced => silenced

theorem offers_consults (method : String) : Consults spared Quiet methods fun _ => Site.offers method :=
  Consults.steady (fun _ _ _ => rfl) fun _ _ => Keeps.get_bind fun _ going => ⟨going, fun _ failed => nomatch failed⟩

theorem say_consults (message : String) :
    Consults spared Quiet methods fun refusals => say (plan.refusing refusals) message :=
  Consults.debug plan.logger message

theorem pushing_consults (pairs : List (String × Option String)) :
    Consults spared Quiet methods fun _ => Scene.onWorld (pushAll pairs) := by
  refine Consults.on_world fun start => ?_
  induction pairs with
  | nil => exact Keeps.pure ()
  | cons pair rest ih =>
      refine ((World.push_reached pair.1 pair.2).weaken fun _ _ _ refused => ?_).bind fun _ => ih
      exact refused.elim fun key refused => .property key refused

theorem ask_optional_consults (method : String) (listed : method ∈ methods) :
    Consults spared Quiet methods fun refusals => askOptional (plan.refusing refusals) method := by
  refine (offers_consults method).bind fun offered => Consults.ite ?_ ?_
  · exact (say_consults _).bind fun _ => Consults.pure _
  · refine (asking_consults method [] listed).bind fun reply => Consults.ite ?_ (Consults.pure _)
    exact (say_consults _).bind fun _ => Consults.pure _

theorem read_facts_consults (method : String) (listed : method ∈ methods) (shape : Shape) (facts : List Fact) :
    Consults spared Quiet methods fun refusals => readFacts (plan.refusing refusals) method shape facts := by
  refine (ask_optional_consults method listed).bind fun answer => ?_
  cases answer with
  | none => exact Consults.pure ()
  | some reply =>
      cases accepted : Shape.accept? shape reply.first? with
      | none =>
          simp only [accepted]
          exact say_consults _
      | some data =>
          simp only [accepted]
          exact pushing_consults _

theorem first_setting_consults (listed : networkMethod ∈ methods) (names : List String) :
    Consults spared Quiet methods fun refusals => firstSetting (plan.refusing refusals) names := by
  induction names with
  | nil => exact Consults.pure none
  | cons netif rest ih =>
      refine (asking_consults networkMethod _ listed).bind fun reply => ?_
      cases setting? reply with
      | none => exact ih
      | some setting => exact Consults.pure _

theorem read_network_consults (listed : networkMethod ∈ methods) :
    Consults spared Quiet methods fun refusals => readNetwork (plan.refusing refusals) := by
  refine (offers_consults networkMethod).bind fun offered => Consults.ite (say_consults _) ?_
  refine (first_setting_consults listed interfaces).bind fun found => ?_
  cases found with
  | none => exact say_consults _
  | some setting => exact pushing_consults _

theorem kept_onward (refusals : Refusals) (service : Service) (start : World) :
    Kept refusals service (World.Onward start) (fun _ _ => True) where
  recorded event ordinary := World.record_reached event ordinary
  posted call _ := posting_onward service.channel start call.message
  fetched url _ onward :=
    ⟨World.reached_trans onward (World.reached_mono (fun _ _ _ => trivial) (World.fetch_reached url _)), fun _ _ => trivial⟩
  written path content := World.write_file_reached path content .createOnly
  refused _ _ _ _ := trivial
  pushed key value := (World.push_reached key value).weaken fun _ _ _ _ => trivial
  probed path := (World.file_exists_reached path).weaken fun _ _ _ _ => trivial

theorem going_quiet {α : Type} {act : Act (Scene Site) α} {start : World} {thrown : Scene Site → Failure → Prop}
    (keeps : ∀ service : Service, service.Silenced → Keeps (At service (World.Onward start)) thrown act) :
    Keeps (Going Quiet start) thrown act := by
  intro scene going
  obtain ⟨⟨⟨number, same⟩, onward⟩, failing⟩ := keeps scene.focus.service going.1 scene
    ⟨⟨scene.focus.service.lastId, rfl⟩, going.2⟩
  refine ⟨⟨?_, onward⟩, failing⟩
  have left : (act.perform scene).2.focus.service = { scene.focus.service with lastId := number } := same
  rw [Quiet, left]
  exact going.1

theorem device_commands_consults (log : Logger) :
    Consults CommandMap.keysMethod Quiet methods fun refusals => CommandMap.deviceCommands refusals log := by
  refine Consults.steady (fun refusals other spares => ?_) fun refusals start => going_quiet fun service silenced =>
    device_commands_keeps (kept_onward refusals service start) silenced log
  unfold CommandMap.deviceCommands
  rw [ask_same spares]

theorem write_map_consults :
    Consults CommandMap.keysMethod Quiet methods fun refusals => writeMap (plan.refusing refusals) := by
  have fetching (refusals : Refusals) (map : CommandMap) (start : World) {thrown : Scene Site → Failure → Prop} :
      Keeps (Going Quiet start) thrown (always (CommandMap.addFetched plan.settings plan.parent map)) :=
    going_quiet fun service _ =>
      Keeps.always (add_fetched_keeps (kept_onward refusals service start) plan.settings plan.parent map)
  have saving (refusals : Refusals) (log : Logger) (path : String) (map : CommandMap) (start : World)
      {thrown : Scene Site → Failure → Prop} :
      Keeps (Going Quiet start) thrown (always (Scene.inWorld (CommandMap.save plan.scope log path map))) :=
    going_quiet fun service _ =>
      Keeps.always (in_world_keeps (save_keeps (kept_onward refusals service start) plan.scope log path map))
  unfold writeMap CommandMap.write
  dsimp only [Plan.refusing]
  cases plan.settings.mapFolder? with
  | none => exact (Consults.debug _ _).bind fun _ => Consults.pure _
  | some folder =>
      cases plan.settings.mapFile? with
      | none => exact (Consults.debug _ _).bind fun _ => Consults.pure _
      | some file =>
          refine (Consults.on_world fun start => ?_).bind fun present => Consults.ite ?_ ?_
          · refine (World.file_exists_reached (Files.join folder file)).weaken ?_
            rintro _ _ _ ⟨count, message, -, unanswered, rfl⟩
            exact .existence count _ unanswered
          · exact (Consults.in_world fun start => World.write_log_reached _ .info _ {} (by decide)).bind
              fun _ => Consults.pure _
          · refine (device_commands_consults _).bind fun commands => ?_
            refine (Consults.steady (fun _ _ _ => rfl) fun refusals start => fetching refusals _ start).bind fun map => ?_
            by_cases empty : map.size = 0
            · simp only [empty, if_true]
              exact (Consults.debug _ _).bind fun _ => Consults.pure _
            · simp only [empty, if_false]
              exact Consults.steady (fun _ _ _ => rfl) fun refusals start => saving refusals _ _ map start

theorem run_consults :
    Consults CommandMap.keysMethod Quiet readingMethods fun refusals => run (plan.refusing refusals) := by
  refine (read_facts_consults _ (by decide) _ _).bind fun _ => ?_
  refine (read_facts_consults _ (by decide) _ _).bind fun _ => ?_
  refine (read_network_consults (by decide)).bind fun _ => ?_
  exact write_map_consults.bind fun _ => Consults.pure _

end Provisioning

def Client.Hushed (services : List Service) (client : Client) : Prop :=
  ∀ given ∈ services, ∃ found, client.service? given.name = some found ∧ found.Silenced

namespace Client

variable {services : List Service} {spared : String} {methods : List String}

theorem hushed_replaced (client : Client) (service : Service) (hushed : client.Hushed services)
    (silenced : service.Silenced) : (client.replace service).Hushed services := by
  intro given member
  obtain ⟨found, known, quiet⟩ := hushed given member
  rw [service_replaced, known]
  split
  · exact ⟨service, rfl, silenced⟩
  · exact ⟨found, rfl, quiet⟩

theorem hushed_changed (client : Client) (f : Credentials → Credentials) (hushed : client.Hushed services)
    (kept : ∀ credentials, (f credentials).autoAuth = credentials.autoAuth) :
    (client.changeChannels (Channel.change f)).Hushed services := by
  intro given member
  obtain ⟨found, known, quiet⟩ := hushed given member
  rw [service_changed, known]
  exact ⟨_, rfl, (kept found.channel.credentials).trans quiet⟩

theorem on_service_consults {α : Type} {given : Service} {acts : Refusals → Act (Scene Service) α} (member : given ∈ services)
    (consults : Consults spared Silenced methods acts) :
    Consults spared (Hushed services) methods fun refusals => onService given (acts refusals) := by
  refine consults.zoom (fun client hushed => ?_) fun client part hushed silenced => hushed_replaced client part hushed silenced
  obtain ⟨found, known, quiet⟩ := hushed given member
  rw [known]
  exact quiet

end Client

namespace Login

def refusing (login : Login) (refusals : Refusals) : Login := { login with refusals := refusals }

variable (login : Login) (accessControl system : Service) {spared : String} {methods : List String}

theorem change_all_consults {services : List Service} (f : Credentials → Credentials)
    (kept : ∀ credentials, (f credentials).autoAuth = credentials.autoAuth) :
    Consults spared (Client.Hushed services) methods fun _ => changeAll f :=
  Consults.changing fun client hushed => Client.hushed_changed client f hushed kept

theorem request_consults (pin : Option String) :
    Consults spared Silenced methods fun _ => Pairing.request login.settings.client login.jar login.logger pin := by
  refine Consults.steady (fun _ _ _ => rfl) fun _ start scene going => ?_
  obtain ⟨service, world⟩ := scene
  obtain ⟨outcome, after, ended, response, posted, sent, -, logged⟩ := request_perform login service world going.1 pin
  have onward : world.Onward _ := World.reached_mono (fun _ _ _ => trivial)
    (Channel.post_reached (service.carrying (·.withJar login.jar)).channel (Pairing.message login.settings.client)
      (Pairing.headers pin) world).1
  rw [sent] at onward
  rw [ended]
  exact ⟨⟨going.1, World.reached_trans going.2 (World.reached_trans onward (logged_reached logged))⟩,
    fun _ failed => nomatch failed⟩

theorem pair_consults :
    Consults spared (Client.Hushed [accessControl, system]) methods fun refusals =>
      (login.refusing refusals).pair accessControl := by
  unfold pair
  dsimp only [refusing]
  cases Text.present? login.settings.code? with
  | none => exact Consults.pure _
  | some code =>
      have asking : Consults spared Silenced methods fun _ => Pairing.request login.settings.client login.jar login.logger
          (if login.settings.requestsPin then none else some code) := request_consults login _
      refine (Client.on_service_consults List.mem_cons_self asking).bind fun outcome => ?_
      by_cases accepted : outcome = .ok
      · simp only [accepted, if_true]
        exact (change_all_consults (·.withJar login.jar) fun _ => rfl).bind fun _ => Consults.pure _
      · simp only [accepted, if_false]
        exact Consults.pure _

theorem authorize_consults (verdict : Verdict) :
    Consults spared (Client.Hushed [accessControl, system]) methods
      fun refusals => (login.refusing refusals).authorize accessControl verdict := by
  cases verdict with
  | byKey =>
      unfold authorize
      dsimp only [refusing]
      cases Text.present? login.settings.code? with
      | none => exact Consults.pure _
      | some code => exact (change_all_consults (·.withHeader keyHeader code) fun _ => rfl).bind fun _ => Consults.pure _
  | byCookie => exact (change_all_consults (·.withJar login.jar) fun _ => rfl).bind fun _ => Consults.pure _
  | none outcome =>
      cases outcome with
      | needsPairing => exact pair_consults login accessControl system
      | _ => exact Consults.pure _

theorem settle_consults :
    Consults CommandMap.keysMethod (Client.Hushed [accessControl, system]) probingMethods
      fun refusals => (login.refusing refusals).settle accessControl system := by
  have checking := Authorization.check_consults Probe.run_consults login.settings.code? login.jar login.logger
  refine (Client.on_service_consults (by simp) checking).bind fun verdict => ?_
  exact (Consults.debug _ _).bind fun _ => authorize_consults login accessControl system verdict

theorem provision_consults :
    Consults CommandMap.keysMethod (Client.Hushed [accessControl, system]) readingMethods
      fun refusals => (login.refusing refusals).provision system := by
  have reading : Consults CommandMap.keysMethod Provisioning.Quiet readingMethods
      fun refusals => Provisioning.run (login.plan.refusing refusals) := Provisioning.run_consults
  have zoomed : Consults CommandMap.keysMethod Silenced readingMethods fun refusals =>
      Scene.zoom (fun service => ({ service := service, source := login.source } : Site)) (fun site _ => site.service)
        (Provisioning.run (login.plan.refusing refusals)) :=
    reading.zoom (fun _ silenced => silenced) fun _ _ _ quiet => quiet
  exact Client.on_service_consults (by simp) zoomed

end Login

end DeviceLogin
