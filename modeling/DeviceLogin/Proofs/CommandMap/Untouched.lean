import DeviceLogin.Proofs.CommandMap.Course
import DeviceLogin.Proofs.Readings

set_option autoImplicit false

namespace DeviceLogin

open Act

-- A change of the files, but for the one file that is left out of account.
def Event.alters (beside : Option String) : Event → Bool
  | .wrote path _ _ => beside != some path
  | .removed path => beside != some path
  | _ => false

def Event.warning? : Event → Option String
  | .logged .warn line => some line
  | _ => none

namespace World

def changes (beside : Option String) (world : World) : List Event := world.trace.filter (Event.alters beside)

def warnings (world : World) : List String := world.trace.filterMap Event.warning?

structure Untouched (beside : Option String) (before after : World) : Prop where
  contents : ∀ path, beside ≠ some path → after.files.contents.get? path = before.files.contents.get? path
  folders : after.files.folders = before.files.folders
  changes : after.changes beside = before.changes beside
  wholly : beside = none → after.files = before.files ∧ after.warnings = before.warnings

variable {beside : Option String} {start now next : World}

theorem untouched_refl (world : World) : Untouched beside world world :=
  ⟨fun _ _ => rfl, rfl, rfl, fun _ => ⟨rfl, rfl⟩⟩

theorem untouched_trans (first : Untouched beside start now) (rest : Untouched beside now next) :
    Untouched beside start next := by
  refine ⟨fun path other => (rest.contents path other).trans (first.contents path other),
    rest.folders.trans first.folders, rest.changes.trans first.changes, fun alone => ⟨?_, ?_⟩⟩
  · exact (rest.wholly alone).1.trans (first.wholly alone).1
  · exact (rest.wholly alone).2.trans (first.wholly alone).2

theorem changes_traced (world : World) (events : List Event) :
    ({ world with trace := world.trace ++ events } : World).changes beside =
      world.changes beside ++ events.filter (Event.alters beside) := List.filter_append ..

theorem untouched_quiet (files : next.files = now.files) (event : Event) (trace : next.trace = now.trace ++ [event])
    (unaltering : event.alters beside = false) (unwarning : beside = none → event.warning? = none) :
    Untouched beside now next := by
  refine ⟨fun path _ => by rw [files], by rw [files], ?_, fun alone => ⟨files, ?_⟩⟩
  · simp [changes, trace, unaltering]
  · simp [warnings, trace, unwarning alone]

theorem record_untouched (event : Event) (unaltering : event.alters beside = false)
    (unwarning : beside = none → event.warning? = none) : Holding (Untouched beside start) (record event) :=
  fun _ kept => untouched_trans kept (untouched_quiet rfl event rfl unaltering unwarning)

theorem debug_untouched (logger : Logger) (message : String) (context : Log.Context) :
    Holding (Untouched beside start) (logger.debug message context) :=
  record_untouched _ rfl fun _ => rfl

theorem request_untouched (address : String) (order : Http.Order) :
    Keeps (Untouched beside start) (fun _ _ => True) (request address order) := by
  intro world kept
  refine ⟨?_, fun _ _ => trivial⟩
  cases read : Url.read? address with
  | none =>
      rw [request_bad_address _ _ _ read]
      exact kept
  | some url =>
      rw [request_sent _ _ _ url read]
      exact untouched_trans kept (untouched_quiet rfl (.requested _) rfl rfl fun _ => rfl)

theorem accessed_untouched (world : World) (named : beside ≠ none) : Untouched beside world world.accessed :=
  ⟨fun _ _ => rfl, rfl, rfl, fun alone => absurd alone named⟩

theorem rewrite_untouched (path content : String) (mode : WriteMode) (world : World) :
    Untouched (some path) world (world.withFile path content mode) := by
  refine ⟨fun other apart => ?_, rfl, ?_, nofun⟩
  · exact (Ordered.get_put _ _ _ _).trans (if_neg fun same => apart (congrArg some same))
  · exact (changes_traced world [_]).trans (by simp [Event.alters])

theorem write_untouched (path content : String) (mode : WriteMode) :
    Keeps (Untouched (some path) start) (fun _ _ => True) (writeFile path content mode) := by
  intro world kept
  have opened := untouched_trans kept (accessed_untouched world (Option.some_ne_none path))
  have written (content : String) := untouched_trans opened (rewrite_untouched path content mode world.accessed)
  refine ⟨?_, fun _ _ => trivial⟩
  rw [write_file_perform]
  cases world.barred? path mode with
  | some message => exact opened
  | none =>
      cases world.fault? .write path with
      | none => exact written content
      | some fault => exact written (fault.kept content)

theorem raise_untouched (alarm : Alarm) (message : String) (named : beside ≠ none) :
    Holding (Untouched beside start) (raise alarm message) := by
  have noisy (event : Event) (unaltering : event.alters beside = false) :
      Holding (Untouched beside start) (record event) :=
    record_untouched event unaltering fun alone => absurd alone named
  cases alarm with
  | silent => exact Holding.pure ()
  | report => exact noisy _ rfl
  | warn context => exact noisy _ rfl

theorem save_jar_untouched (number : Nat) (world : World) (file : (world.jar number).file = beside) :
    Untouched beside world ((saveJar number).run world).2 := by
  simp only [saveJar, StateT.run_bind, StateT.run_get, pure_bind, file]
  cases beside with
  | none => exact untouched_refl world
  | some path =>
      have saved : Holding (Untouched (some path) world) _ :=
        Keeps.recover (write_untouched path (CookieJar.fileText (world.jar number).cookies) .replacePrivately)
          fun failure => raise_untouched (world.jar number).alarm ("Failed to save cookie file: " ++ failure.message)
            (Option.some_ne_none path)
      exact saved world (untouched_refl world)

theorem file_holding (number : Nat) (cookies : Ordered String) (world : World) :
    ((world.holding number cookies).jar number).file = (world.jar number).file := by
  simp only [jar, holding, List.getD_eq_getElem?_getD, List.getElem?_modify_eq]
  cases world.jars[number]? <;> rfl

theorem store_cookies_untouched (number : Nat) (settings : List String) (world : World)
    (file : (world.jar number).file = beside) : Untouched beside world ((storeCookies number settings).run world).2 := by
  rw [store_cookies_run]
  split
  · have held : Untouched beside world (world.holding number (Cookie.applyAll (world.jar number).cookies settings).1) :=
      ⟨fun _ _ => rfl, rfl, rfl, fun _ => ⟨rfl, rfl⟩⟩
    exact untouched_trans held (save_jar_untouched number _ ((file_holding number _ world).trans file))
  · exact untouched_refl world

end World

-- It asks nobody for credentials, and if it keeps cookies in a file, then in this one.
structure Channel.Storing (beside : Option String) (channel : Channel) (world : World) : Prop where
  unasked : ∀ response reauthorize, ¬ channel.Asks response reauthorize
  file : ∀ number, channel.credentials.jar = some number → (world.jar number).file = beside

variable {beside : Option String}

namespace Channel

theorem post_untouched (channel : Channel) (message : Message) (extra : Ordered String) (world : World)
    (storing : channel.Storing beside world) :
    World.Untouched beside world ((channel.post message extra).run world).2 := by
  have requested : World.Untouched beside world _ :=
    (World.request_untouched channel.url (channel.order message extra world) world (World.untouched_refl world)).1
  have jars : ((World.request channel.url (channel.order message extra world)).perform world).2.jars = world.jars := by
    cases read : Url.read? channel.url with
    | none => rw [World.request_bad_address _ _ _ read]
    | some url => rw [World.request_sent _ _ _ url read]; rfl
  rw [post_run]
  generalize (World.request channel.url (channel.order message extra world)).perform world = ended at requested jars
  obtain ⟨result, after⟩ := ended
  cases result with
  | error failure => exact World.debug_untouched _ _ _ after requested
  | ok response =>
      refine World.untouched_trans requested ?_
      dsimp only
      rw [keep]
      cases held : channel.credentials.jar with
      | none => exact World.untouched_refl after
      | some number =>
          have file : (after.jar number).file = beside := by
            rw [World.jar, show after.jars = world.jars from jars]
            exact storing.file number held
          exact World.store_cookies_untouched number _ after file

theorem send_untouched (channel : Channel) (message : Message) (extra : Ordered String) (world : World)
    (storing : channel.Storing beside world) :
    World.Untouched beside world ((send message extra).perform ⟨channel, world⟩).2.world := by
  have untouched := post_untouched channel message extra world storing
  rcases posted : (channel.post message extra).run world with ⟨response, after⟩
  rw [posted] at untouched
  rw [send_once channel message extra world posted (storing.unasked _)]
  exact untouched

end Channel

theorem Service.ask_untouched (service : Service) (refusals : Refusals) (method : String) (params : List Json) (world : World)
    (storing : service.channel.Storing beside world) :
    World.Untouched beside world ((ask refusals method params).perform ⟨service, world⟩).2.world := by
  simp only [ask, perform_bind, perform_get]
  cases refusals world.asked service.name method params with
  | some failure => exact World.untouched_refl world
  | none =>
      simp only [execute, perform_bind, perform_get]
      by_cases lacks : service.lacks method
      · simp only [lacks, if_true, perform_pure]
        exact World.untouched_refl world
      · have sent := Channel.send_untouched service.channel (service.nextCall method params).1.message [] world storing
        simp only [nextCall] at sent
        simp only [lacks, Bool.false_eq_true, if_false, perform_bind, perform_set, onChannel, Scene.zoom, perform_inside,
          nextCall]
        generalize (Channel.send (Call.message ⟨method, params, service.lastId + 1, service.versionOf method⟩)).perform
          ⟨service.channel, world⟩ = ended at sent ⊢
        obtain ⟨result, after⟩ := ended
        cases result <;> exact sent

namespace CommandMap

variable (settings : Settings) (refusals : Service.Refusals) (parent : Logger)

theorem asked_untouched (scene : Scene Site) (storing : scene.focus.service.channel.Storing beside scene.world) :
    World.Untouched beside scene.world (asked refusals parent scene).world := by
  have called := scene.focus.service.ask_untouched refusals keysMethod [] scene.world storing
  unfold asked deviceCommands
  simp only [perform_bind, Site.offers, perform_get, perform_pure]
  cases scene.focus.service.offers keysMethod with
  | false => exact World.debug_untouched _ _ _ _ (World.untouched_refl _)
  | true =>
      have world : ((Site.onService (Service.ask refusals keysMethod)).perform scene).2.world =
          ((Service.ask refusals keysMethod).perform ⟨scene.focus.service, scene.world⟩).2.world := rfl
      rw [← world] at called
      simp only [Bool.not_true, Bool.false_eq_true, if_false, perform_always, run_recover, perform_bind]
      generalize (Site.onService (Service.ask refusals keysMethod)).perform scene = ended at called ⊢
      obtain ⟨answer, after⟩ := ended
      have noted (message : String) : World.Untouched beside scene.world (after.world.after ((logger parent).debug message)) :=
        World.debug_untouched _ message {} _ called
      cases answer with
      | error failure => exact noted _
      | ok reply =>
          dsimp only
          cases reply.isError with
          | true => exact noted _
          | false =>
              simp only [Bool.false_eq_true, if_false]
              cases ofReply? reply with
              | none => exact noted _
              | some commands => exact called

theorem site_fetch_untouched (url : String) (scene : Scene Site) :
    World.Untouched beside scene.world ((Site.fetch parent url).perform scene).2.world := by
  have fetched (marks : Xml.Marks) : World.Untouched beside scene.world
      ((Ircc.fetch parent url).perform ⟨marks, scene.world⟩).2.world :=
    (Ircc.fetch_keeps (fun url => World.request_untouched url _) (fun _ _ => World.debug_untouched _ _ _) parent url
      ⟨marks, scene.world⟩ (World.untouched_refl _)).1
  have recorded : World.Untouched beside scene.world (scene.world.after (World.record (.fetching url))) :=
    World.record_untouched _ rfl (fun _ => rfl) _ (World.untouched_refl _)
  simp only [Site.fetch, perform_bind, perform_get]
  cases scene.focus.source with
  | documents marks =>
      simp only [Scene.zoom, perform_inside]
      exact fetched marks
  | supplied answer =>
      cases answered : answer url <;> simp only [perform_bind, perform_always, answered] <;> exact recorded

theorem add_fetched_untouched (map : CommandMap) (scene : Scene Site) :
    World.Untouched beside scene.world ((addFetched settings parent map).run scene).2.world := by
  unfold addFetched
  cases settings.irccUrl? with
  | none => exact World.untouched_refl _
  | some url =>
      have fetched : World.Untouched beside scene.world _ := site_fetch_untouched parent url scene
      have ran : (Site.fetch parent url).run.run scene = (Site.fetch parent url).perform scene := rfl
      simp only [StateT.run_bind, ran]
      generalize (Site.fetch parent url).perform scene = ended at fetched ⊢
      obtain ⟨result, after⟩ := ended
      cases result <;> exact World.debug_untouched _ _ _ _ fetched

theorem gathered_untouched (scene : Scene Site) (storing : scene.focus.service.channel.Storing beside scene.world) :
    World.Untouched beside scene.world (gathered settings refusals parent scene).world :=
  World.untouched_trans (asked_untouched refusals parent scene storing) (add_fetched_untouched settings parent _ _)

end CommandMap

end DeviceLogin
