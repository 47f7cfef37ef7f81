import DeviceLogin.Proofs.Calls
import DeviceLogin.Provisioning

set_option autoImplicit false

namespace DeviceLogin

open Act

namespace Ircc

variable {reached : World → Prop}

def Fetching (reached : World → Prop) : Prop :=
  ∀ url, Keeps reached (fun _ _ => True) (World.request url { headers := [("Accept", "text/xml")] })

theorem document_keeps (fetching : Fetching reached) (url : String) :
    Keeps (fun scene => reached scene.world) (fun _ _ => True) (document url) := by
  refine ((fetching url).on_world (fun _ kept => kept) (fun _ _ _ kept => kept)).bind fun response => ?_
  refine Keeps.ite (Keeps.throw_bind _ fun _ _ => trivial) (Keeps.get_bind fun scene kept => ⟨?_, fun _ _ => trivial⟩)
  rw [perform_bind, perform_set]
  rcases Xml.read scene.focus response.body with ⟨answer, marks⟩
  rcases answer with _ | result
  · exact kept
  · rcases result with fault | tree
    · cases fault <;> exact kept
    · exact kept

theorem read_commands_keeps (logging : ∀ logger message, Holding reached (Logger.debug logger message {})) (logger : Logger)
    (list : Json) : Holding reached (readCommands logger list) := by
  unfold readCommands
  split
  · exact Holding.pure _
  · cases commands? list with
    | none => exact (logging _ _).bind fun _ => Holding.pure _
    | some commands => exact (logging _ _).bind fun _ => Holding.pure _

theorem fetch_keeps (fetching : Fetching reached) (logging : ∀ logger message, Holding reached (Logger.debug logger message {}))
    (parent : Logger) (url : String) : Keeps (fun scene => reached scene.world) (fun _ _ => True) (fetch parent url) := by
  have listed (list : Json) : Keeps (fun scene : Scene Xml.Marks => reached scene.world) (fun _ _ => True)
      (always (Scene.inWorld (readCommands (parent.child (.about "IRCC")) list))) :=
    Keeps.always ((read_commands_keeps logging _ list).in_world (fun _ kept => kept) (fun _ _ _ kept => kept))
  refine (document_keeps fetching url).bind fun description => ?_
  cases description.findValue? commandListElement with
  | some list => exact listed list
  | none =>
      refine Keeps.ite (Keeps.throw_bind _ fun _ _ => trivial) ((document_keeps fetching _).bind fun actions => ?_)
      refine (Keeps.of_except _ fun _ _ _ _ => trivial).bind fun commandsUrl => ?_
      refine (document_keeps fetching commandsUrl).bind fun document => ?_
      cases document.findValue? commandListElement with
      | some list => exact listed list
      | none => exact Keeps.throw _ fun _ _ => trivial

end Ircc

namespace Provisioning

def IsCall (call : Call) : Prop :=
  call.method ∈ ["getSystemInformation", "getInterfaceInformation", networkMethod, CommandMap.keysMethod]

-- An invariant that every step of the readings keeps, and the failures that they may end with.
structure Kept (refusals : Service.Refusals) (service : Service) (inv : World → Prop) (faults : World → Failure → Prop) :
    Prop where
  recorded : ∀ event : Event, event.ordinary → Holding inv (World.record event)
  posted : ∀ call, IsCall call → Holding inv (service.channel.post call.message [])
  fetched : Ircc.Fetching inv
  written : ∀ path content, Keeps inv (fun _ _ => True) (World.writeFile path content .createOnly)
  refused : ∀ world failure, inv world → Service.Refused refusals service.name world failure → faults world failure
  pushed : ∀ key value, Keeps inv faults (World.push key value)
  probed : ∀ path, Keeps inv faults (World.fileExists path)

def At (service : Service) (inv : World → Prop) (scene : Scene Site) : Prop :=
  service.At inv ⟨scene.focus.service, scene.world⟩

section

variable {refusals : Service.Refusals} {service : Service} {inv : World → Prop} {faults : World → Failure → Prop}
  {plan : Plan}

theorem in_world_keeps {α : Type} {step : StateM World α} (holding : Holding inv step) :
    Holding (At service inv) (Scene.inWorld step) :=
  holding.in_world (fun _ there => there.world) (fun _ _ there kept => ⟨there.same, kept⟩)

theorem on_world_keeps {α : Type} {act : Act World α} (keeps : Keeps inv faults act) :
    Keeps (At service inv) (fun scene => faults scene.world) (Scene.onWorld act) :=
  keeps.on_world (fun _ there => there.world) (fun _ _ there kept => ⟨there.same, kept⟩)

theorem debug_keeps (kept : Kept refusals service inv faults) (logger : Logger) (message : String) :
    Holding inv (logger.debug message) :=
  kept.recorded _ (by simp [Event.ordinary])

theorem say_keeps (kept : Kept refusals service inv faults) (message : String) {thrown : Scene Site → Failure → Prop} :
    Keeps (At service inv) thrown (say plan message) :=
  Keeps.always (in_world_keeps (debug_keeps kept _ _))

theorem offers_keeps (method : String) {thrown : Scene Site → Failure → Prop} :
    Keeps (At service inv) thrown (Site.offers method) :=
  Keeps.get_bind fun _ there => ⟨there, fun _ failed => nomatch failed⟩

theorem ask_keeps (kept : Kept refusals service inv faults) (muted : service.channel.Muted) (method : String)
    (params : List Json) (reading : ∀ call : Call, call.Of method params → IsCall call) :
    Keeps (At service inv) (fun scene => faults scene.world) (Site.onService (Service.ask refusals method params)) := by
  have asked : Keeps (service.At inv) (fun scene => faults scene.world) (Service.ask refusals method params) :=
    (Service.ask_keeps service refusals method params muted fun call named => kept.posted call (reading call named)).weaken
      fun scene failure there refused => kept.refused scene.world failure there.world refused
  exact Keeps.zoom _ faults asked (fun _ there => there) (fun _ _ _ there => there)

theorem ask_optional_keeps (kept : Kept plan.refusals service inv faults) (muted : service.channel.Muted) (method : String)
    (reading : ∀ call : Call, call.Of method [] → IsCall call) :
    Keeps (At service inv) (fun scene => faults scene.world) (askOptional plan method) := by
  refine (offers_keeps method).bind fun offered => Keeps.ite ?_ ?_
  · exact (say_keeps kept _).bind fun _ => Keeps.pure _
  · refine (ask_keeps kept muted method [] reading).bind fun reply => Keeps.ite ?_ (Keeps.pure _)
    exact (say_keeps kept _).bind fun _ => Keeps.pure _

theorem push_all_keeps (kept : Kept refusals service inv faults) (facts : List (String × Option String)) :
    Keeps inv faults (pushAll facts) := by
  induction facts with
  | nil => exact Keeps.pure ()
  | cons fact rest ih => exact (kept.pushed fact.1 fact.2).bind fun _ => ih

theorem read_facts_keeps (kept : Kept plan.refusals service inv faults) (muted : service.channel.Muted) (method : String)
    (reading : ∀ call : Call, call.Of method [] → IsCall call) (shape : Shape) (facts : List Fact) :
    Keeps (At service inv) (fun scene => faults scene.world) (readFacts plan method shape facts) := by
  refine (ask_optional_keeps kept muted method reading).bind fun answer => ?_
  cases answer with
  | none => exact Keeps.pure ()
  | some reply =>
      cases accepted : Shape.accept? shape reply.first? with
      | none =>
          simp only [accepted]
          exact say_keeps kept _
      | some data =>
          simp only [accepted]
          exact on_world_keeps (push_all_keeps kept _)

theorem first_setting_keeps (kept : Kept plan.refusals service inv faults) (muted : service.channel.Muted)
    (interfaces : List String) :
    Keeps (At service inv) (fun scene => faults scene.world) (firstSetting plan interfaces) := by
  induction interfaces with
  | nil => exact Keeps.pure _
  | cons netif rest ih =>
      refine (ask_keeps kept muted networkMethod _ fun call named => by simp [IsCall, named.1]).bind fun reply => ?_
      cases setting? reply with
      | none => exact ih
      | some setting => exact Keeps.pure _

theorem read_network_keeps (kept : Kept plan.refusals service inv faults) (muted : service.channel.Muted) :
    Keeps (At service inv) (fun scene => faults scene.world) (readNetwork plan) := by
  refine (offers_keeps networkMethod).bind fun offered => Keeps.ite (say_keeps kept _) ?_
  refine (first_setting_keeps kept muted interfaces).bind fun found => ?_
  cases found with
  | none => exact say_keeps kept _
  | some setting => exact on_world_keeps (push_all_keeps kept _)

theorem site_fetch_keeps (kept : Kept refusals service inv faults) (logger : Logger) (url : String) :
    Keeps (At service inv) (fun _ _ => True) (Site.fetch logger url) := by
  refine Keeps.get_bind fun scene there => ?_
  cases scene.focus.source with
  | documents marks =>
      have fetched := Ircc.fetch_keeps kept.fetched (debug_keeps kept) logger url
      have held : Keeps (At service inv) (fun _ _ => True) (Scene.zoom (fun _ => marks)
          (fun marks site => { site with source := .documents marks }) (Ircc.fetch logger url)) :=
        Keeps.zoom _ (fun _ _ => True) fetched (fun _ there => there.world) (fun _ _ there after => ⟨there.same, after⟩)
      exact held scene there
  | supplied answer =>
      have recorded : Keeps (At service inv) (fun _ _ => True)
          (always (Scene.inWorld (World.record (.fetching url))) >>= fun _ => MonadExcept.ofExcept (answer url)) :=
        (Keeps.always (in_world_keeps (kept.recorded _ rfl))).bind fun _ => Keeps.of_except _ fun _ _ _ _ => trivial
      exact recorded scene there

theorem device_commands_keeps (kept : Kept refusals service inv faults) (muted : service.channel.Muted) (log : Logger)
    {thrown : Scene Site → Failure → Prop} : Keeps (At service inv) thrown (CommandMap.deviceCommands refusals log) := by
  have logging (message : String) : Holding (At service inv) (Scene.inWorld (log.debug message)) :=
    in_world_keeps (debug_keeps kept _ _)
  refine (offers_keeps CommandMap.keysMethod).bind fun offered => Keeps.ite ?_ ?_
  · exact (Keeps.always (logging _)).bind fun _ => Keeps.pure _
  · refine Keeps.always (Keeps.recover ?_ fun failure => ?_)
    · have asked := ask_keeps kept muted CommandMap.keysMethod [] fun call named => by simp [IsCall, named.1]
      refine (asked.weaken fun _ _ _ _ => trivial).bind fun reply => Keeps.ite ?_ ?_
      · exact (Keeps.always (logging _)).bind fun _ => Keeps.pure _
      · cases CommandMap.ofReply? reply with
        | some commands => exact Keeps.pure commands
        | none => exact (Keeps.always (logging _)).bind fun _ => Keeps.pure _
    · exact (logging _).bind fun _ => Holding.pure _

theorem add_fetched_keeps (kept : Kept refusals service inv faults) (settings : Settings) (parent : Logger)
    (map : CommandMap) : Holding (At service inv) (CommandMap.addFetched settings parent map) := by
  have logging (message : String) :
      Holding (At service inv) (Scene.inWorld ((CommandMap.logger parent).debug message)) :=
    in_world_keeps (debug_keeps kept _ _)
  unfold CommandMap.addFetched
  cases settings.irccUrl? with
  | none => exact Holding.pure map
  | some url =>
      refine (site_fetch_keeps kept parent url).run.bind fun result => ?_
      cases result with
      | ok commands => exact (logging _).bind fun _ => Holding.pure _
      | error failure => exact (logging _).bind fun _ => Holding.pure _

theorem save_keeps (kept : Kept refusals service inv faults) (scope : String) (log : Logger) (path : String)
    (map : CommandMap) : Holding inv (CommandMap.save scope log path map) := by
  refine (kept.written path map.fileText).run.bind fun result => ?_
  cases result with
  | ok _ => exact (kept.recorded _ (by simp [Event.ordinary])).bind fun _ => Holding.pure _
  | error failure =>
      have reported := World.warning_holding kept.recorded scope failure.message
        { category := some .persistence, severity := some .warning, operation := some "writeCommands" } rfl
      exact reported.bind fun _ => Holding.pure _

theorem write_keeps (kept : Kept refusals service inv faults) (muted : service.channel.Muted) (scope : String)
    (settings : Settings) (parent : Logger) :
    Keeps (At service inv) (fun scene => faults scene.world) (CommandMap.write scope settings refusals parent) := by
  have say (message : String) : Keeps (At service inv) (fun scene => faults scene.world)
      (always (Scene.inWorld ((CommandMap.logger parent).debug message))) :=
    Keeps.always (in_world_keeps (debug_keeps kept _ _))
  unfold CommandMap.write
  cases settings.mapFolder? with
  | none => exact (say _).bind fun _ => Keeps.pure _
  | some folder =>
      cases settings.mapFile? with
      | none => exact (say _).bind fun _ => Keeps.pure _
      | some file =>
          refine (on_world_keeps (kept.probed _)).bind fun present => Keeps.ite ?_ ?_
          · exact (Keeps.always (in_world_keeps (kept.recorded _ (by simp [Event.ordinary])))).bind fun _ => Keeps.pure _
          · refine (device_commands_keeps kept muted _).bind fun commands => ?_
            refine (Keeps.always (add_fetched_keeps kept settings parent _)).bind fun map => Keeps.ite ?_ ?_
            · exact (say _).bind fun _ => Keeps.pure _
            · exact Keeps.always (in_world_keeps (save_keeps kept scope _ _ map))

theorem run_keeps (kept : Kept plan.refusals service inv faults) (muted : service.channel.Muted) :
    Keeps (At service inv) (fun scene => faults scene.world) (run plan) := by
  refine (read_facts_keeps kept muted _ (fun call named => by simp [IsCall, named.1]) _ _).bind fun _ => ?_
  refine (read_facts_keeps kept muted _ (fun call named => by simp [IsCall, named.1]) _ _).bind fun _ => ?_
  refine (read_network_keeps kept muted).bind fun _ => ?_
  exact (write_keeps kept muted plan.scope plan.settings plan.parent).bind fun _ => Keeps.pure _

end

end Provisioning

def Sent.Reading (channel : Channel) (traffic : Traffic) (sent : Sent) : Prop :=
  Sent.Over channel (fun _ => True) traffic sent ∨ Sent.IsFetch traffic sent

namespace Provisioning

inductive Thrown (refusals : Service.Refusals) (start : World) (name : String) (after : World) : Failure → Prop
  | call {failure : Failure} (refused : Service.Refused refusals name after failure) :
      Thrown refusals start name after failure
  | property {failure : Failure} (key : String) (refused : start.refusesProperty key = some failure) :
      Thrown refusals start name after failure
  | existence {fault : FileFault} (count : Nat) (path : String) (last : after.files.accesses = count + 1)
      (unanswered : start.files.fault count .probe path = some fault) :
      Thrown refusals start name after (.error fault.message)

theorem kept_reached (refusals : Service.Refusals) (service : Service) (start : World) :
    Kept refusals service (World.Reached (Sent.Reading service.channel) start) (Thrown refusals start service.name) where
  recorded event ordinary := World.record_reached event ordinary
  posted call _ := @Service.posting_reached service _ start (fun _ => True) (fun _ _ sent => .inl sent) call trivial
  fetched url world reached :=
    ⟨World.reached_trans reached (World.reached_mono (fun _ _ fetched => .inr fetched) (World.fetch_reached url world)),
      fun _ _ => trivial⟩
  written path content := World.write_file_reached path content .createOnly
  refused _ _ _ refused := .call refused
  pushed key value := (World.push_reached key value).weaken fun _ _ _ ⟨key, refused⟩ => .property key refused
  probed path := by
    refine (World.file_exists_reached path).weaken ?_
    rintro after failure reached ⟨count, fault, last, unanswered, rfl⟩
    exact .existence count path last unanswered

end Provisioning

end DeviceLogin
