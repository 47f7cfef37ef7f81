import DeviceLogin.Proofs.CommandMap.Course
import DeviceLogin.Proofs.Readings

set_option autoImplicit false

namespace DeviceLogin

open Act

def Event.property? : Event → Option (String × Option String)
  | .property key value => some (key, value)
  | _ => none

namespace World

def pushed (world : World) : List (String × Option String) := world.trace.filterMap Event.property?

def Took (pairs : List (String × Option String)) (world : World) : Prop := world.pushed = pairs

variable {pairs : List (String × Option String)}

theorem took_traced {before after : World} (event : Event) (took : before.Took pairs) (other : event.property? = none)
    (trace : after.trace = before.trace ++ [event]) : after.Took pairs := by
  rw [Took, pushed, trace, List.filterMap_append, List.filterMap_cons_none other, List.filterMap_nil, List.append_nil]
  exact took

theorem record_took (event : Event) (other : event.property? = none) : Holding (Took pairs) (record event) :=
  fun _ took => took_traced event took other rfl

theorem request_took (address : String) (order : Http.Order) :
    Keeps (Took pairs) (fun _ _ => True) (request address order) := by
  intro world took
  refine ⟨?_, fun _ _ => trivial⟩
  cases read : Url.read? address with
  | none =>
      rw [request_bad_address _ _ _ read]
      exact took
  | some url =>
      rw [request_sent _ _ _ url read]
      exact took_traced (.requested _) took rfl rfl

theorem access_took (call : FileCall) (path : String) : Keeps (Took pairs) (fun _ _ => True) (access call path) := by
  intro world took
  refine ⟨?_, fun _ _ => trivial⟩
  rw [access_perform]
  cases world.fault? call path <;> exact took

theorem file_exists_took (path : String) : Keeps (Took pairs) (fun _ _ => True) (fileExists path) :=
  (access_took .probe path).bind fun _ => Keeps.get_bind fun _ took => ⟨took, fun _ _ => trivial⟩

theorem write_file_took (path content : String) (mode : WriteMode) :
    Keeps (Took pairs) (fun _ _ => True) (writeFile path content mode) := by
  intro world took
  have put (kept : String) : Took pairs (world.accessed.withFile path kept mode) :=
    took_traced (.wrote path kept mode) took rfl rfl
  refine ⟨?_, fun _ _ => trivial⟩
  rw [write_file_perform]
  cases world.barred? path mode with
  | some message => exact took
  | none => cases world.fault? .write path <;> exact put _

theorem raise_took (alarm : Alarm) (message : String) : Holding (Took pairs) (raise alarm message) := by
  cases alarm with
  | silent => exact Holding.pure ()
  | report => exact record_took _ rfl
  | warn context => exact record_took _ rfl

theorem save_jar_took (number : Nat) : Holding (Took pairs) (saveJar number) := by
  refine Holding.get_bind fun world took => ?_
  cases file : (world.jar number).file with
  | none =>
      simp only [file]
      exact took
  | some path =>
      simp only [file]
      exact Keeps.recover (write_file_took path _ .replacePrivately) (fun _ => raise_took _ _) world took

theorem store_cookies_took (number : Nat) (settings : List String) :
    Holding (Took pairs) (storeCookies number settings) := by
  intro world took
  rw [store_cookies_run]
  split
  · exact save_jar_took number _ took
  · exact took

end World

theorem Channel.post_took {pairs : List (String × Option String)} (channel : Channel) (message : Message)
    (extra : Ordered String) : Holding (World.Took pairs) (channel.post message extra) := by
  intro world took
  have requested := (World.request_took channel.url (channel.order message extra world) world took).1
  rw [post_run]
  generalize (World.request channel.url (channel.order message extra world)).perform world = ended at requested
  obtain ⟨result, after⟩ := ended
  cases result with
  | error failure => exact World.record_took _ rfl after requested
  | ok response =>
      dsimp only
      rw [keep]
      cases channel.credentials.jar with
      | none => exact requested
      | some number => exact World.store_cookies_took number _ after requested

namespace Service

-- A service as it was but for its credentials and the number of its last call.
structure Like (system service : Service) : Prop where
  name : service.name = system.name
  methods : service.methods = system.methods
  reauthorize : service.channel.reauthorize = system.channel.reauthorize

theorem like_refl (system : Service) : system.Like system := ⟨rfl, rfl, rfl⟩

variable {inv : World → Prop} {faults : World → Failure → Prop}

structure Calling (system : Service) (refusals : Refusals) (inv : World → Prop) (faults : World → Failure → Prop) :
    Prop where
  posted : ∀ (channel : Channel) (message : Message), Holding inv (channel.post message [])
  noted : ∀ (logger : Logger) (message : String) (context : Log.Context), Holding inv (logger.debug message context)
  hooked : ∀ reauthorize, system.channel.reauthorize = some reauthorize → ∀ url,
    Keeps (fun scene : Scene Credentials => inv scene.world) (fun scene => faults scene.world) (reauthorize url)
  refused : ∀ world method params failure, inv world → refusals world.asked system.name method params = some failure →
    faults world failure

theorem send_calling {system : Service} {refusals : Refusals} (calling : system.Calling refusals inv faults)
    (channel : Channel) (hook : channel.reauthorize = system.channel.reauthorize) (message : Message) (world : World)
    (holds : inv world) {result : Except Failure Http.Response} {last : Scene Channel}
    (sent : (Channel.send message).perform ⟨channel, world⟩ = (result, last)) :
    last.focus.reauthorize = channel.reauthorize ∧ inv last.world ∧
      ∀ failure, result = .error failure → faults last.world failure := by
  have course := channel.send_course message [] world
  rw [sent] at course
  have posting := calling.posted channel message world holds
  have asking {response : Http.Response} {after : World} {reauthorize : Reauthorize}
      (posted : (channel.post message []).run world = (response, after)) (asks : channel.Asks response reauthorize) :=
    calling.hooked reauthorize (hook.symm.trans asks.2.2) channel.url (channel.asking message response after)
      (calling.noted _ _ _ after (by rwa [posted] at posting))
  cases course with
  | once posted unasked =>
      rw [posted] at posting
      exact ⟨rfl, posting, fun _ failed => nomatch failed⟩
  | denied posted asks refused =>
      have told := asking posted asks
      rw [refused] at told
      exact ⟨rfl, told.1, fun _ failed => nomatch failed⟩
  | @repeated _ _ _ _ _ told posted asks granted again =>
      have answered := asking posted asks
      rw [granted] at answered
      have kept := calling.posted (channel.renewed told.focus) message told.world answered.1
      rw [again] at kept
      exact ⟨rfl, kept, fun _ failed => nomatch failed⟩
  | failed posted asks thrown =>
      have told := asking posted asks
      rw [thrown] at told
      exact ⟨rfl, told.1, fun failure failed => told.2 failure (congrArg Except.error (Except.error.inj failed))⟩

theorem ask_calling {system : Service} {refusals : Refusals} (calling : system.Calling refusals inv faults)
    (method : String) (params : List Json) :
    Keeps (fun scene : Scene Service => system.Like scene.focus ∧ inv scene.world) (fun scene => faults scene.world)
      (ask refusals method params) := by
  refine Keeps.get_bind fun scene holds => ?_
  obtain ⟨service, world⟩ := scene
  obtain ⟨like, kept⟩ := holds
  dsimp only at like kept ⊢
  rw [like.name]
  cases found : refusals world.asked system.name method params with
  | some failure =>
      refine ⟨⟨like, kept⟩, fun other failed => ?_⟩
      cases failed
      exact calling.refused world method params failure kept found
  | none =>
      cases lacks : service.lacks method with
      | true =>
          rw [execute_lacking service method params world lacks]
          exact ⟨⟨like, kept⟩, fun _ failed => nomatch failed⟩
      | false =>
          rcases sent : (Channel.send (service.nextCall method params).1.message).perform ⟨service.channel, world⟩
            with ⟨result, after⟩
          obtain ⟨hook, holds, failing⟩ := send_calling calling service.channel like.reauthorize _ world kept sent
          rw [execute_sent service method params lacks sent]
          refine ⟨⟨⟨like.name, like.methods, hook.trans like.reauthorize⟩, holds⟩, ?_⟩
          cases result with
          | ok response => exact fun _ failed => nomatch failed
          | error thrown => exact fun failure failed => failing failure (congrArg Except.error (Except.error.inj failed))

end Service

def Service.Discreet (system : Service) : Prop :=
  ∀ reauthorize, system.channel.reauthorize = some reauthorize →
    ∀ url before, ((reauthorize url).perform before).2.world.pushed = before.world.pushed

namespace Provisioning

def Telling (system : Service) (pairs : List (String × Option String)) (scene : Scene Site) : Prop :=
  system.Like scene.focus.service ∧ scene.world.Took pairs

variable {system : Service} {pairs : List (String × Option String)} {refusals : Service.Refusals}

theorem calling_took (discreet : system.Discreet) :
    system.Calling refusals (World.Took pairs) (fun _ _ => True) where
  posted channel message := channel.post_took message []
  noted _ _ _ := World.record_took _ rfl
  hooked reauthorize hook url before took := ⟨(discreet reauthorize hook url before).trans took, fun _ _ => trivial⟩
  refused _ _ _ _ _ _ := trivial

theorem ask_telling (discreet : system.Discreet) (method : String) (params : List Json) :
    Keeps (Telling system pairs) (fun _ _ => True) (Site.onService (Service.ask refusals method params)) :=
  Keeps.zoom _ (fun _ _ => True) (Service.ask_calling (calling_took discreet) method params) (fun _ telling => telling)
    (fun _ _ _ telling => telling)

theorem in_world_telling {α : Type} {step : StateM World α} (holding : Holding (World.Took pairs) step) :
    Holding (Telling system pairs) (Scene.inWorld step) :=
  holding.in_world (fun _ telling => telling.2) (fun _ _ telling took => ⟨telling.1, took⟩)

theorem debug_telling (logger : Logger) (message : String) :
    Holding (Telling system pairs) (Scene.inWorld (logger.debug message)) :=
  in_world_telling (World.record_took _ rfl)

theorem site_fetch_telling (logger : Logger) (url : String) :
    Keeps (Telling system pairs) (fun _ _ => True) (Site.fetch logger url) := by
  refine Keeps.get_bind fun scene telling => ?_
  cases scene.focus.source with
  | documents marks =>
      have fetching : Ircc.Fetching (World.Took pairs) := fun url => World.request_took url _
      have fetched := Ircc.fetch_keeps fetching (fun _ _ => World.record_took _ rfl) logger url
      have held : Keeps (Telling system pairs) (fun _ _ => True) (Scene.zoom (fun _ => marks)
          (fun marks site => { site with source := .documents marks }) (Ircc.fetch logger url)) :=
        Keeps.zoom _ (fun _ _ => True) fetched (fun _ telling => telling.2) (fun _ _ telling took => ⟨telling.1, took⟩)
      exact held scene telling
  | supplied answer =>
      have recorded : Keeps (Telling system pairs) (fun _ _ => True)
          (always (Scene.inWorld (World.record (.fetching url))) >>= fun _ => MonadExcept.ofExcept (answer url)) :=
        (Keeps.always (in_world_telling (World.record_took _ rfl))).bind fun _ => Keeps.of_except _ fun _ _ _ _ => trivial
      exact recorded scene telling

theorem offers_telling (method : String) : Keeps (Telling system pairs) (fun _ _ => True) (Site.offers method) :=
  Keeps.get_bind fun _ telling => ⟨telling, fun _ _ => trivial⟩

theorem device_commands_telling (discreet : system.Discreet) (log : Logger) :
    Keeps (Telling system pairs) (fun _ _ => True) (CommandMap.deviceCommands refusals log) := by
  refine (offers_telling CommandMap.keysMethod).bind fun offered => Keeps.ite ?_ ?_
  · exact (Keeps.always (debug_telling _ _)).bind fun _ => Keeps.pure _
  · refine Keeps.always (Keeps.recover ?_ fun failure => ?_)
    · refine (ask_telling discreet _ _).bind fun reply => Keeps.ite ?_ ?_
      · exact (Keeps.always (debug_telling _ _)).bind fun _ => Keeps.pure _
      · cases CommandMap.ofReply? reply with
        | some commands => exact Keeps.pure commands
        | none => exact (Keeps.always (debug_telling _ _)).bind fun _ => Keeps.pure _
    · exact (debug_telling _ _).bind fun _ => Holding.pure _

theorem add_fetched_telling (settings : Settings) (parent : Logger) (map : CommandMap) :
    Holding (Telling system pairs) (CommandMap.addFetched settings parent map) := by
  unfold CommandMap.addFetched
  cases settings.irccUrl? with
  | none => exact Holding.pure map
  | some url =>
      refine (site_fetch_telling parent url).run.bind fun result => ?_
      cases result <;> exact (debug_telling _ _).bind fun _ => Holding.pure _

theorem save_took (scope : String) (log : Logger) (path : String) (map : CommandMap) :
    Holding (World.Took pairs) (CommandMap.save scope log path map) := by
  intro world took
  have written := (World.write_file_took path map.fileText .createOnly world took).1
  rw [CommandMap.save_run]
  generalize (World.writeFile path map.fileText .createOnly).perform world = ended at written
  obtain ⟨result, after⟩ := ended
  cases result <;> exact World.record_took _ rfl after written

theorem write_map_telling (discreet : system.Discreet) (plan : Plan) :
    Keeps (Telling system pairs) (fun _ _ => True) (writeMap plan) := by
  unfold writeMap CommandMap.write
  cases plan.settings.mapFolder? with
  | none => exact (Keeps.always (debug_telling _ _)).bind fun _ => Keeps.pure _
  | some folder =>
      cases plan.settings.mapFile? with
      | none => exact (Keeps.always (debug_telling _ _)).bind fun _ => Keeps.pure _
      | some file =>
          have probed : Keeps (Telling system pairs) (fun _ _ => True)
              (Scene.onWorld (World.fileExists (Files.join folder file))) :=
            (World.file_exists_took _).on_world (fun _ telling => telling.2) (fun _ _ telling took => ⟨telling.1, took⟩)
          refine probed.bind fun present => Keeps.ite ?_ ?_
          · exact (Keeps.always (in_world_telling (World.record_took _ rfl))).bind fun _ => Keeps.pure _
          · refine (device_commands_telling discreet _).bind fun commands => ?_
            refine (Keeps.always (add_fetched_telling plan.settings plan.parent _)).bind fun map => Keeps.ite ?_ ?_
            · exact (Keeps.always (debug_telling _ _)).bind fun _ => Keeps.pure _
            · exact Keeps.always (in_world_telling (save_took plan.scope _ _ map))

end Provisioning

end DeviceLogin
