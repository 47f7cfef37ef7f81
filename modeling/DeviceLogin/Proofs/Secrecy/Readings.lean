import DeviceLogin.Proofs.Secrecy.Calls
import DeviceLogin.Provisioning

set_option autoImplicit false

namespace DeviceLogin

open Act

variable {mask : String → String}

structure Site.Alike (mask : String → String) (site twin : Site) : Prop where
  service : site.service.Alike mask twin.service
  source : site.source = twin.source

abbrev SitesAlike (mask : String → String) : Scene Site → Scene Site → Prop :=
  Scene.Alike (Site.Alike mask) (World.Alike mask)

theorem site_logging (logger : Logger) (message : String) :
    Agreeing (SitesAlike mask) (Scene.inWorld (logger.debug message)) (Scene.inWorld (logger.debug message)) :=
  Agreeing.in_world (World.write_log_agreeing _ _ _ _)

namespace Ircc

theorem document_agrees (url : String) :
    Agrees (Scene.Alike Eq (World.Alike mask)) (document url) (document url) := by
  have requested : Agrees (World.Alike mask) (World.request url { headers := [("Accept", "text/xml")] })
      (World.request url { headers := [("Accept", "text/xml")] }) :=
    World.request_agrees _ _ _ rfl fun _ => rfl
  refine requested.on_world.bind fun response => Agrees.ite (Agrees.throw_bind _) (Agrees.get_bind fun scene twin alike => ?_)
  obtain ⟨marks, world⟩ := scene
  obtain ⟨others, reached⟩ := twin
  obtain rfl : marks = others := alike.focus
  rw [perform_bind, perform_bind, perform_set, perform_set]
  rcases Xml.read marks response.body with ⟨answer, left⟩
  have after : Scene.Alike Eq (World.Alike mask) ⟨left, world⟩ ⟨left, reached⟩ := ⟨rfl, alike.world⟩
  rcases answer with _ | result
  · exact ⟨rfl, after⟩
  · rcases result with fault | tree
    · cases fault <;> exact ⟨rfl, after⟩
    · exact ⟨rfl, after⟩

theorem read_commands_agreeing (logger : Logger) (list : Json) :
    Agreeing (World.Alike mask) (readCommands logger list) (readCommands logger list) := by
  unfold readCommands
  split
  · exact Agreeing.pure _
  · cases commands? list with
    | none => exact (World.write_log_agreeing _ _ _ _).bind fun _ => Agreeing.pure _
    | some commands => exact (World.write_log_agreeing _ _ _ _).bind fun _ => Agreeing.pure _

theorem fetch_agrees (parent : Logger) (url : String) :
    Agrees (Scene.Alike Eq (World.Alike mask)) (fetch parent url) (fetch parent url) := by
  have listed (list : Json) : Agrees (Scene.Alike (@Eq Xml.Marks) (World.Alike mask))
      (always (Scene.inWorld (readCommands (parent.child (.about "IRCC")) list)))
      (always (Scene.inWorld (readCommands (parent.child (.about "IRCC")) list))) :=
    Agrees.always (Agreeing.in_world (read_commands_agreeing _ list))
  refine (document_agrees url).bind fun description => ?_
  cases description.findValue? commandListElement with
  | some list => exact listed list
  | none =>
      refine Agrees.ite (Agrees.throw_bind _) ((document_agrees _).bind fun actions => ?_)
      refine (Agrees.of_except _).bind fun commandsUrl => (document_agrees commandsUrl).bind fun document => ?_
      cases document.findValue? commandListElement with
      | some list => exact listed list
      | none => exact Agrees.throw _

end Ircc

theorem Site.fetch_agrees (logger : Logger) (url : String) : Agrees (SitesAlike mask) (fetch logger url) (fetch logger url) := by
  refine Agrees.get_bind fun scene twin alike => ?_
  have source : scene.focus.source = twin.focus.source := alike.focus.source
  rw [source]
  cases twin.focus.source with
  | documents marks =>
      refine (Ircc.fetch_agrees logger url).zoom (fun _ _ _ => rfl) ?_ scene twin alike
      intro site other part left sites same
      exact ⟨sites.service, congrArg CommandSource.documents same⟩
  | supplied answer =>
      have recorded : Agrees (SitesAlike mask)
          (always (Scene.inWorld (World.record (.fetching url))) >>= fun _ => MonadExcept.ofExcept (answer url))
          (always (Scene.inWorld (World.record (.fetching url))) >>= fun _ => MonadExcept.ofExcept (answer url)) :=
        (Agrees.always (Agreeing.in_world (World.record_agreeing _ _ rfl))).bind fun _ => Agrees.of_except _
      exact recorded scene twin alike

theorem Site.ask_agrees (refusals : Service.Refusals) (blind : refusals.Blind) (method : String) (params : List Json) :
    Agrees (SitesAlike mask) (onService (Service.ask refusals method params)) (onService (Service.ask refusals method params)) :=
  (Service.ask_agrees refusals blind method params).zoom (fun _ _ alike => alike.service)
    fun _ _ _ _ alike part => ⟨part, alike.source⟩

theorem Site.offers_agrees (method : String) : Agrees (SitesAlike mask) (offers method) (offers method) := by
  refine Agrees.get_bind fun scene twin alike => ?_
  have same : scene.focus.service.offers method = twin.focus.service.offers method :=
    congrArg (fun service => service.offers method) alike.focus.service.same
  rw [same]
  exact ⟨rfl, alike⟩

namespace CommandMap

theorem device_commands_agrees (refusals : Service.Refusals) (blind : refusals.Blind) (log : Logger) :
    Agrees (SitesAlike mask) (deviceCommands refusals log) (deviceCommands refusals log) := by
  have say (message : String) : Agrees (SitesAlike mask) (always (Scene.inWorld (log.debug message)))
      (always (Scene.inWorld (log.debug message))) := Agrees.always (site_logging log message)
  refine (Site.offers_agrees keysMethod).bind fun offered => Agrees.ite ((say _).bind fun _ => Agrees.pure _) ?_
  refine Agrees.always (Agrees.recover ?_ fun failure => (site_logging log _).bind fun _ => Agreeing.pure _)
  refine (Site.ask_agrees refusals blind keysMethod []).bind fun reply => Agrees.ite ((say _).bind fun _ => Agrees.pure _) ?_
  cases ofReply? reply with
  | some commands => exact Agrees.pure commands
  | none => exact (say _).bind fun _ => Agrees.pure _

theorem add_fetched_agreeing (settings : Settings) (parent : Logger) (map : CommandMap) :
    Agreeing (SitesAlike mask) (addFetched settings parent map) (addFetched settings parent map) := by
  unfold addFetched
  cases settings.irccUrl? with
  | none => exact Agreeing.pure map
  | some url =>
      refine (Site.fetch_agrees parent url).run.bind fun result => ?_
      cases result with
      | ok commands => exact (site_logging _ _).bind fun _ => Agreeing.pure _
      | error failure => exact (site_logging _ _).bind fun _ => Agreeing.pure _

theorem save_agreeing (scope : String) (log : Logger) (path : String) (map : CommandMap) :
    Agreeing (World.Alike mask) (save scope log path map) (save scope log path map) := by
  refine (World.write_file_agrees path map.fileText .createOnly).run.bind fun result => ?_
  cases result with
  | ok _ => exact (World.write_log_agreeing _ _ _ _).bind fun _ => Agreeing.pure _
  | error failure => exact (World.report_agreeing _ _ _).bind fun _ => Agreeing.pure _

theorem write_agrees (scope : String) (settings : Settings) (refusals : Service.Refusals) (blind : refusals.Blind)
    (parent : Logger) : Agrees (SitesAlike mask) (write scope settings refusals parent) (write scope settings refusals parent) := by
  have say (message : String) : Agrees (SitesAlike mask) (always (Scene.inWorld ((logger parent).debug message)))
      (always (Scene.inWorld ((logger parent).debug message))) := Agrees.always (site_logging _ message)
  have told (message : String) : Agrees (SitesAlike mask) (always (Scene.inWorld ((logger parent).info message)))
      (always (Scene.inWorld ((logger parent).info message))) :=
    Agrees.always (Agreeing.in_world (World.write_log_agreeing _ _ _ _))
  unfold write
  cases settings.mapFolder? with
  | none => exact (say _).bind fun _ => Agrees.pure _
  | some folder =>
      cases settings.mapFile? with
      | none => exact (say _).bind fun _ => Agrees.pure _
      | some file =>
          refine (World.file_exists_agrees _).on_world.bind fun present => Agrees.ite ((told _).bind fun _ => Agrees.pure _) ?_
          refine (device_commands_agrees refusals blind _).bind fun commands => ?_
          refine (Agrees.always (add_fetched_agreeing settings parent _)).bind fun map => ?_
          refine Agrees.ite ((say _).bind fun _ => Agrees.pure _) ?_
          exact Agrees.always (Agreeing.in_world (save_agreeing scope _ _ map))

end CommandMap

namespace Provisioning

variable (plan : Plan) (blind : plan.refusals.Blind)

theorem say_agrees (message : String) : Agrees (SitesAlike mask) (say plan message) (say plan message) :=
  Agrees.always (site_logging _ _)

theorem push_all_agrees (facts : List (String × Option String)) : Agrees (World.Alike mask) (pushAll facts) (pushAll facts) := by
  induction facts with
  | nil => exact Agrees.pure ()
  | cons fact rest ih => exact (World.push_agrees fact.1 fact.2).bind fun _ => ih

include blind

theorem ask_optional_agrees (method : String) : Agrees (SitesAlike mask) (askOptional plan method) (askOptional plan method) := by
  refine (Site.offers_agrees method).bind fun offered => Agrees.ite ((say_agrees plan _).bind fun _ => Agrees.pure _) ?_
  refine (Site.ask_agrees plan.refusals blind method []).bind fun reply => ?_
  exact Agrees.ite ((say_agrees plan _).bind fun _ => Agrees.pure _) (Agrees.pure _)

theorem read_facts_agrees (method : String) (shape : Shape) (facts : List Fact) :
    Agrees (SitesAlike mask) (readFacts plan method shape facts) (readFacts plan method shape facts) := by
  refine (ask_optional_agrees plan blind method).bind fun answer => ?_
  cases answer with
  | none => exact Agrees.pure ()
  | some reply =>
      cases accepted : Shape.accept? shape reply.first? with
      | none =>
          simp only [accepted]
          exact say_agrees plan _
      | some data =>
          simp only [accepted]
          exact (push_all_agrees _).on_world

theorem first_setting_agrees (interfaces : List String) :
    Agrees (SitesAlike mask) (firstSetting plan interfaces) (firstSetting plan interfaces) := by
  induction interfaces with
  | nil => exact Agrees.pure _
  | cons netif rest ih =>
      refine (Site.ask_agrees plan.refusals blind networkMethod _).bind fun reply => ?_
      cases setting? reply with
      | none => exact ih
      | some setting => exact Agrees.pure _

theorem read_network_agrees : Agrees (SitesAlike mask) (readNetwork plan) (readNetwork plan) := by
  refine (Site.offers_agrees networkMethod).bind fun offered => Agrees.ite (say_agrees plan _) ?_
  refine (first_setting_agrees plan blind interfaces).bind fun found => ?_
  cases found with
  | none => exact say_agrees plan _
  | some setting => exact (push_all_agrees _).on_world

theorem run_agrees : Agrees (SitesAlike mask) (run plan) (run plan) := by
  refine (read_facts_agrees plan blind _ _ _).bind fun _ => (read_facts_agrees plan blind _ _ _).bind fun _ => ?_
  refine (read_network_agrees plan blind).bind fun _ => ?_
  exact (CommandMap.write_agrees plan.scope plan.settings plan.refusals blind plan.parent).bind fun _ => Agrees.pure _

end Provisioning

end DeviceLogin
