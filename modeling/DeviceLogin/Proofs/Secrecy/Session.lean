import DeviceLogin.Login
import DeviceLogin.Proofs.Login.Running
import DeviceLogin.Proofs.Pairing.Delivery
import DeviceLogin.Proofs.Secrecy.Readings
import DeviceLogin.Proofs.Secrecy.Settings

set_option autoImplicit false

namespace DeviceLogin

open Act

variable {mask : String → String}

namespace Client

-- Clients whose channels differ in the secret headers only, with the services that a login works on.
structure Alike (mask : String → String) (client twin : Client) : Prop where
  same : client.masked mask = twin.masked mask
  muted : ∀ channel ∈ client.channels, channel.Muted
  offered : ∀ name ∈ ["accessControl", "system"], (client.service? name).isSome

theorem replace_masked (client : Client) (service : Service) :
    (client.replace service).masked mask = (client.masked mask).replace (service.masked mask) := by
  apply ext_services
  simp only [masked, changeChannels, replace, List.map_map]
  refine List.map_congr_left fun entry _ => ?_
  by_cases here : entry.1 = service.name <;> simp [here, Service.masked, Service.changeChannel]

theorem replace_channels (client : Client) (service : Service) (channel : Channel)
    (member : channel ∈ (client.replace service).channels) : channel = service.channel ∨ channel ∈ client.channels := by
  simp only [channels, replace, List.map_map, List.mem_map] at member
  obtain ⟨entry, known, rfl⟩ := member
  by_cases here : entry.1 = service.name
  · exact .inl (by simp [here])
  · exact .inr (by simpa [here, channels] using ⟨entry.1, entry.2, known, rfl⟩)

theorem on_service_agrees {α : Type} {act other : Act (Scene Service) α} (service : Service)
    (named : service.name ∈ ["accessControl", "system"])
    (agrees : Agrees (Scene.Alike (Service.Alike mask) (World.Alike mask)) act other) :
    Agrees (Scene.Alike (Client.Alike mask) (World.Alike mask)) (onService service act) (onService service other) := by
  refine agrees.zoom (fun client twin alike => ?_) fun client twin part other alike parts => ?_
  · obtain ⟨found, known⟩ := Option.isSome_iff_exists.mp (alike.offered service.name named)
    have looked (client : Client) : (client.masked mask).service? service.name =
        (client.service? service.name).map (Service.masked mask) := service_changed client (Channel.masked mask) service.name
    have matched : (twin.service? service.name).map (Service.masked mask) = some (found.masked mask) := by
      rw [← looked, ← alike.same, looked, known]
      rfl
    obtain ⟨held, heldKnown, heldSame⟩ := Option.map_eq_some_iff.mp matched
    rw [known, heldKnown]
    refine ⟨heldSame.symm, alike.muted _ ?_⟩
    exact List.mem_map.mpr ⟨(service.name, found), Ordered.mem_of_get _ _ _ known, rfl⟩
  · refine ⟨?_, fun channel member => ?_, fun name member => ?_⟩
    · rw [replace_masked, replace_masked, alike.same, parts.same]
    · rcases replace_channels client part channel member with rfl | old
      · exact parts.muted
      · exact alike.muted channel old
    · rw [service_replaced]
      split
      · simpa using alike.offered name member
      · exact alike.offered name member

end Client

abbrev ServicesAlike (mask : String → String) : Scene Service → Scene Service → Prop :=
  Scene.Alike (Service.Alike mask) (World.Alike mask)

theorem service_logging (logger : Logger) (level : Log.Level) (message : String) :
    Agreeing (ServicesAlike mask) (Scene.inWorld (logger.write level message)) (Scene.inWorld (logger.write level message)) :=
  Agreeing.in_world (World.write_log_agreeing _ _ _ _)

theorem Probe.run_agrees (refusals : Service.Refusals) (blind : refusals.Blind) :
    Agrees (ServicesAlike mask) (run refusals) (run refusals) := by
  refine (Service.ask_agrees refusals blind "getDeviceMode" []).bind fun mode => Agrees.ite ?_ (Agrees.pure _)
  exact (Service.ask_agrees refusals blind "getPowerStatus" []).bind fun _ => Agrees.pure _

namespace Authorization

theorem attempt_agrees {before other after : Credentials → Credentials} {probe : Act (Scene Service) Outcome}
    (probing : Agrees (ServicesAlike mask) probe probe) (put : Credentials.Twins mask before other)
    (back : Credentials.Twins mask after after) :
    Agrees (ServicesAlike mask) (attempt before after probe) (attempt other after probe) := by
  refine (Agrees.modify fun scene twin alike => ?_).bind fun _ => Agrees.ensuring probing fun scene twin alike => ?_
  · exact ⟨Service.changed_alike put alike.focus, alike.world⟩
  · exact ⟨Service.changed_alike back alike.focus, alike.world⟩

theorem try_key_agrees (code other : String) (same : mask code = mask other) (usable : key? (some code) = some code) (fitting : key? (some other) = some other)
    (logger : Logger) {probe : Act (Scene Service) Outcome} (probing : Agrees (ServicesAlike mask) probe probe) :
    Agrees (ServicesAlike mask) (tryKey (some code) logger probe) (tryKey (some other) logger probe) := by
  rw [tryKey, tryKey, usable, fitting]
  refine (attempt_agrees probing (Credentials.twins_key mask code other same) (Credentials.twins_without_key mask)).bind fun outcome => ?_
  exact (Agrees.always (service_logging _ _ _)).bind fun _ => Agrees.pure _

theorem try_cookies_agrees (jar : Nat) (logger : Logger) {probe : Act (Scene Service) Outcome}
    (probing : Agrees (ServicesAlike mask) probe probe) :
    Agrees (ServicesAlike mask) (tryCookies jar logger probe) (tryCookies jar logger probe) := by
  refine (attempt_agrees probing (Credentials.twins_jar mask jar) (Credentials.twins_without_jar mask)).bind fun outcome => ?_
  exact Agrees.ite ((Agrees.always (service_logging _ _ _)).bind fun _ => Agrees.pure _) (Agrees.pure _)

theorem check_agrees (code other : String) (same : mask code = mask other) (usable : key? (some code) = some code) (fitting : key? (some other) = some other)
    (jar : Nat) (parent : Logger) {probe : Act (Scene Service) Outcome} (probing : Agrees (ServicesAlike mask) probe probe) :
    Agrees (ServicesAlike mask) (check (some code) jar parent probe) (check (some other) jar parent probe) := by
  refine (try_key_agrees code other same usable fitting _ probing).bind fun accepted => Agrees.ite (Agrees.pure _) ?_
  exact (try_cookies_agrees jar _ probing).bind fun outcome => Agrees.ite (Agrees.pure _) (Agrees.pure _)

end Authorization

namespace Pairing

theorem headers_masked (pin other : String) (same : mask (basic pin) = mask (basic other)) :
    Ordered.masked mask (headers (some pin)) = Ordered.masked mask (headers (some other)) := by
  simp [headers, Ordered.masked, maskedValue, isSecret, same]

theorem judge_same (pin other : String) (reply : Reply) : judge (some pin) reply = judge (some other) reply := rfl

theorem request_agrees (clientId : String) (jar : Nat) (parent : Logger) (pin other : String)
    (same : mask (basic pin) = mask (basic other)) :
    Agrees (ServicesAlike mask) (request clientId jar parent (some pin)) (request clientId jar parent (some other)) := by
  have sent := Service.on_channel_agrees (Channel.send_agrees (message clientId) _ _ (headers_masked pin other same))
  refine (Agrees.modify fun scene twin alike => ?_).bind fun _ =>
    (Agrees.ensuring sent fun scene twin alike => ?_).bind fun response => ?_
  · exact ⟨Service.changed_alike (Credentials.twins_jar mask jar) alike.focus, alike.world⟩
  · exact ⟨Service.changed_alike (Credentials.twins_without_jar mask) alike.focus, alike.world⟩
  · rw [judge_same pin other]
    rcases judge (some other) (Reply.ofResponse response) with ⟨outcome, line⟩
    cases line with
    | some line => exact (Agrees.always (service_logging _ _ _)).bind fun _ => Agrees.pure _
    | none => exact Agrees.pure _

end Pairing

namespace Login

theorem change_all_agrees {f g : Credentials → Credentials} (twins : Credentials.Twins mask f g) :
    Agrees (Scene.Alike (Client.Alike mask) (World.Alike mask)) (changeAll f) (changeAll g) := by
  obtain ⟨⟨common, left, right⟩, quiet⟩ := twins
  have commutes (h : Credentials → Credentials) (client : Client)
      (same : ∀ credentials, (h credentials).masked mask = common (credentials.masked mask)) :
      (client.changeChannels (Channel.change h)).masked mask = (client.masked mask).changeChannels (Channel.change common) := by
    rw [Client.masked, Client.masked, Client.changed_changed, Client.changed_changed]
    congr 1
    funext channel
    simp only [Function.comp_apply, Channel.masked, Channel.change, same]
  refine Agrees.modify fun scene twin alike => ⟨⟨?_, ?_, ?_⟩, alike.world⟩
  · simp only [Scene.change, commutes f scene.focus left, commutes g twin.focus right, alike.focus.same]
  · intro channel member
    simp only [Scene.change, Client.channels_changed, List.mem_map] at member
    obtain ⟨old, known, rfl⟩ := member
    exact (quiet old.credentials).trans (alike.focus.muted old known)
  · intro name member
    simp only [Scene.change, Client.service_changed, Option.isSome_map]
    exact alike.focus.offered name member

abbrev ClientsAlike (mask : String → String) : Scene Client → Scene Client → Prop :=
  Scene.Alike (Client.Alike mask) (World.Alike mask)

-- A mask that tells the two codes apart in neither header.
structure Covered (mask : String → String) (code other : String) : Prop where
  key : mask code = mask other
  pin : mask (Pairing.basic code) = mask (Pairing.basic other)

def withCode (login : Login) (code : String) : Login := { login with settings := login.settings.withCode code }

variable (login : Login) (code other : String)

section

variable (one : (login.withCode code).settings.HasKey code) (two : (login.withCode other).settings.HasKey other)
  (covered : Covered mask code other)

include one two covered

theorem pair_agrees (accessControl : Service) (named : accessControl.name ∈ ["accessControl", "system"]) :
    Agrees (ClientsAlike mask) ((login.withCode code).pair accessControl) ((login.withCode other).pair accessControl) := by
  have present := (present_iff (login.withCode code).settings code).mpr one.1
  have given := (present_iff (login.withCode other).settings other).mpr two.1
  have pin : (login.withCode code).settings.requestsPin = false := one.2
  have number : (login.withCode other).settings.requestsPin = false := two.2
  rw [pair, pair, present, given]
  simp only [pin, number]
  refine (Client.on_service_agrees accessControl named (Pairing.request_agrees _ _ _ code other covered.pin)).bind fun outcome => ?_
  exact Agrees.ite ((change_all_agrees (Credentials.twins_jar mask login.jar)).bind fun _ => Agrees.pure _) (Agrees.pure _)

theorem authorize_agrees (accessControl : Service) (named : accessControl.name ∈ ["accessControl", "system"])
    (verdict : Verdict) :
    Agrees (ClientsAlike mask) ((login.withCode code).authorize accessControl verdict)
      ((login.withCode other).authorize accessControl verdict) := by
  have present := (present_iff (login.withCode code).settings code).mpr one.1
  have given := (present_iff (login.withCode other).settings other).mpr two.1
  cases verdict with
  | byKey =>
      simp only [authorize, present, given]
      exact (change_all_agrees (Credentials.twins_key mask code other covered.key)).bind fun _ => Agrees.pure _
  | byCookie => exact (change_all_agrees (Credentials.twins_jar mask login.jar)).bind fun _ => Agrees.pure _
  | none outcome =>
      cases outcome with
      | needsPairing => exact pair_agrees login code other one two covered accessControl named
      | ok => exact Agrees.pure _
      | serviceMissing => exact Agrees.pure _
      | displayOff => exact Agrees.pure _
      | pending => exact Agrees.pure _
      | other message => exact Agrees.pure _

theorem settle_agrees (blind : login.refusals.Blind) (accessControl system : Service)
    (accessNamed : accessControl.name ∈ ["accessControl", "system"]) (systemNamed : system.name ∈ ["accessControl", "system"]) :
    Agrees (ClientsAlike mask) ((login.withCode code).settle accessControl system)
      ((login.withCode other).settle accessControl system) := by
  have usable := (key_iff (login.withCode code).settings code).mpr one
  have fitting := (key_iff (login.withCode other).settings other).mpr two
  have checked := Authorization.check_agrees code other covered.key usable fitting login.jar login.logger
    (Probe.run_agrees login.refusals blind)
  refine (Client.on_service_agrees system systemNamed checked).bind fun verdict => ?_
  refine (Agrees.always (Agreeing.in_world (World.write_log_agreeing _ _ _ _))).bind fun _ => ?_
  exact authorize_agrees login code other one two covered accessControl accessNamed verdict

end

theorem guarded_agrees {α : Type} (operation : String) {stage twin : Act (Scene Client) α}
    (agrees : Agrees (ClientsAlike mask) stage twin) :
    Agrees (ClientsAlike mask) ((login.withCode code).guarded operation stage) ((login.withCode other).guarded operation twin) := by
  refine (Agrees.always agrees.run).bind fun result => ?_
  cases result with
  | ok value => exact Agrees.pure value
  | error failure =>
      exact (Agrees.always (Agreeing.in_world (World.report_agreeing _ _ _))).bind fun _ => Agrees.throw _

theorem wake_agrees : Agrees (World.Alike mask) (login.withCode code).wake (login.withCode other).wake := by
  have same : (login.withCode code).wake = (login.withCode other).wake := rfl
  rw [same, wake]
  cases (login.withCode other).waker with
  | packet target => exact Agrees.always (WakeOnLan.wake_agreeing _ _ _ _)
  | supplied answer =>
      dsimp only
      cases answer (login.withCode other).settings.hostName? (login.withCode other).settings.macAddress? with
      | some failure => exact Agrees.throw failure
      | none => exact Agrees.always (World.record_agreeing _ _ rfl)

theorem provision_agrees (blind : login.refusals.Blind) (system : Service)
    (named : system.name ∈ ["accessControl", "system"]) :
    Agrees (ClientsAlike mask) ((login.withCode code).provision system) ((login.withCode other).provision system) := by
  have same : (login.withCode code).provision system = (login.withCode other).provision system := rfl
  rw [same]
  refine Client.on_service_agrees system named ?_
  refine (Provisioning.run_agrees (login.withCode other).plan blind).zoom (fun _ _ alike => ⟨alike, rfl⟩) ?_
  exact fun _ _ _ _ _ part => part.service

theorem conclude_agrees (blind : login.refusals.Blind) (system : Service)
    (named : system.name ∈ ["accessControl", "system"]) (outcome : Outcome) :
    Agrees (ClientsAlike mask) ((login.withCode code).conclude system outcome) ((login.withCode other).conclude system outcome) := by
  have say (level : Log.Level) (message : String) :
      Agrees (ClientsAlike mask) (always (Scene.inWorld (login.logger.write level message)))
        (always (Scene.inWorld (login.logger.write level message))) :=
    Agrees.always (Agreeing.in_world (World.write_log_agreeing _ _ _ _))
  have read : Agrees (ClientsAlike mask)
      ((login.withCode code).guarded "postLogin" ((login.withCode code).provision system))
      ((login.withCode other).guarded "postLogin" ((login.withCode other).provision system)) :=
    guarded_agrees login code other "postLogin" (provision_agrees login code other blind system named)
  refine Agrees.ite ?_ ?_
  · exact (say .debug _).bind fun _ => read.bind fun _ => Agrees.pure _
  · exact (say .info _).bind fun _ => Agrees.pure _

theorem proceed_agrees (one : (login.withCode code).settings.HasKey code)
    (two : (login.withCode other).settings.HasKey other) (covered : Covered mask code other)
    (blind : login.refusals.Blind) (accessControl system : Service)
    (accessNamed : accessControl.name ∈ ["accessControl", "system"]) (systemNamed : system.name ∈ ["accessControl", "system"]) :
    Agrees (ClientsAlike mask) ((login.withCode code).proceed accessControl system)
      ((login.withCode other).proceed accessControl system) := by
  have settled := guarded_agrees login code other "authorize"
    (settle_agrees login code other one two covered blind accessControl system accessNamed systemNamed)
  refine (wake_agrees login code other).on_world.bind fun _ => settled.bind fun outcome => ?_
  exact conclude_agrees login code other blind system systemNamed outcome

theorem muted_alike (client : Client) (accessControl system : Service) (offers : client.Offers accessControl system) :
    Client.Alike mask client.muted client.muted := by
  have known := Client.muted_offers client accessControl system offers
  refine ⟨rfl, fun channel member => ?_, fun name member => ?_⟩
  · rw [Client.muted, granting, Client.channels_changed] at member
    obtain ⟨old, held, rfl⟩ := List.mem_map.mp member
    rfl
  · simp only [List.mem_cons, List.not_mem_nil, or_false] at member
    rcases member with rfl | rfl
    · simp [known.accessControl]
    · simp [known.system]

theorem run_alike (one : (login.withCode code).settings.HasKey code) (two : (login.withCode other).settings.HasKey other)
    (covered : Covered mask code other) (blind : login.refusals.Blind) (client : Client) (world reached : World) (alike : World.Alike mask world reached) :
    ((login.withCode code).run.perform ⟨client, world⟩).1 = ((login.withCode other).run.perform ⟨client, reached⟩).1 ∧
      World.Alike mask ((login.withCode code).run.perform ⟨client, world⟩).2.world
        ((login.withCode other).run.perform ⟨client, reached⟩).2.world := by
  by_cases absent : client.service? "accessControl" = none ∨ client.service? "system" = none
  · rw [run_missing _ client world absent, run_missing _ client reached absent]
    exact ⟨rfl, alike⟩
  · rw [not_or, ← ne_eq, ← ne_eq, Option.ne_none_iff_exists', Option.ne_none_iff_exists'] at absent
    obtain ⟨⟨accessControl, foundAccess⟩, ⟨system, foundSystem⟩⟩ := absent
    have offers : client.Offers accessControl system := ⟨foundAccess, foundSystem⟩
    obtain ⟨accessNamed, systemNamed⟩ := Client.offers_named offers
    have agrees := proceed_agrees login code other one two covered blind accessControl system (by simp [accessNamed])
      (by simp [systemNamed])
    rw [run_found _ client accessControl system world offers, run_found _ client accessControl system reached offers]
    have started : ClientsAlike mask ⟨client.muted, world⟩ ⟨client.muted, reached⟩ :=
      ⟨muted_alike client accessControl system offers, alike⟩
    obtain ⟨result, after⟩ := agrees _ _ started
    exact ⟨result, after.world⟩

theorem each_line_agreeing (lines : List String) (write : String → StateM World Unit)
    (agreeing : ∀ line, Agreeing (World.Alike mask) (write line) (write line)) :
    Agreeing (World.Alike mask) (lines.forM write) (lines.forM write) := by
  induction lines with
  | nil => exact Agreeing.pure ()
  | cons line rest ih => exact (agreeing line).bind fun _ => ih

theorem report_settings_agreeing (settings : Settings) (filled : Text.isBlank code = false)
    (given : Text.isBlank other = false) (parent : Logger) :
    Agreeing (World.Alike mask) (reportSettings (settings.withCode code) parent) (reportSettings (settings.withCode other) parent) := by
  rw [reportSettings, reportSettings, settings.errors_same code other, settings.warnings_same code other filled given]
  refine (each_line_agreeing _ _ fun _ => World.write_log_agreeing _ _ _ _).bind fun _ => ?_
  exact each_line_agreeing _ _ fun _ => World.write_log_agreeing _ _ _ _

theorem prepare_alike (settings : Settings) (jar : Option Nat) (waker : Waker) (source : CommandSource)
    (refusals : Service.Refusals) (filled : Text.isBlank code = false) (given : Text.isBlank other = false)
    (world reached : World) (alike : World.Alike mask world reached) :
    ∃ login : Login, login.settings = settings ∧ login.refusals = refusals ∧
      ((prepare (settings.withCode code) jar waker source refusals).run world).1 = login.withCode code ∧
      ((prepare (settings.withCode other) jar waker source refusals).run reached).1 = login.withCode other ∧
      World.Alike mask ((prepare (settings.withCode code) jar waker source refusals).run world).2
        ((prepare (settings.withCode other) jar waker source refusals).run reached).2 := by
  let logger := Logger.forDevice settings.deviceAddress.value? "Session"
  obtain ⟨-, after⟩ := report_settings_agreeing code other settings filled given logger world reached alike
  let made (number : Nat) : Login :=
    { settings := settings, logger := logger, jar := number, waker := waker, source := source, refusals := refusals }
  cases jar with
  | some number => exact ⟨made number, rfl, rfl, rfl, rfl, after⟩
  | none =>
      obtain ⟨number, opened⟩ := World.open_jar_agreeing settings.cookieFile? (.warn logger.context) _ _ after
      exact ⟨made _, rfl, rfl, rfl, congrArg (fun number => (made number).withCode other) number.symm, opened⟩

def session (settings : Settings) (jar : Option Nat) (waker : Waker) (source : CommandSource)
    (refusals : Service.Refusals) : Act (Scene Client) Outcome := do
  let login ← Act.always (Scene.inWorld (prepare settings jar waker source refusals))
  login.run

theorem session_perform (settings : Settings) (jar : Option Nat) (waker : Waker) (source : CommandSource)
    (refusals : Service.Refusals) (client : Client) (world : World) :
    (session settings jar waker source refusals).perform ⟨client, world⟩ =
      ((prepare settings jar waker source refusals).run world).1.run.perform
        ⟨client, ((prepare settings jar waker source refusals).run world).2⟩ := by
  rw [session, perform_bind, perform_always]
  rfl

theorem covered_mask (sender : Http.Sender) (code other : String) (taken : sender.takes code = sender.takes other) :
    ∃ mask, sender.Overlooks mask ∧ Covered mask code other := by
  let mask (value : String) : String := if sender.takes value then "" else if sender.takes code then value else code
  have pin (pin : String) : mask (Pairing.basic pin) = "" := if_pos (sender.takes_plain (Pairing.basic_plain pin))
  refine ⟨mask, fun value => ?_, ?_, by rw [pin, pin]⟩
  · by_cases fits : sender.takes value
    · simp only [mask, fits, if_true]
      rfl
    · by_cases sent : sender.takes code <;> simp [mask, fits, sent]
  · by_cases fits : sender.takes code
    · simp [mask, fits, ← taken]
    · simp [mask, fits, ← taken]

-- Two codes that can both be keys and that the HTTP client both takes or both refuses make no difference but in the two
-- headers: a device that does not look at these is asked the same, and the outcome, the trace, the files and the jars are
-- the same.
theorem session_hides_code (settings : Settings) (one : (settings.withCode code).HasKey code)
    (two : (settings.withCode other).HasKey other) (jar : Option Nat) (waker : Waker) (source : CommandSource)
    (refusals : Service.Refusals) (blind : refusals.Blind) (client : Client) (world : World) (device : Blind world.device)
    (taken : world.sender.takes code = world.sender.takes other)
    (result answer : Except Failure Outcome) (final twin : Scene Client)
    (ended : (session (settings.withCode code) jar waker source refusals).perform ⟨client, world⟩ = (result, final))
    (answered : (session (settings.withCode other) jar waker source refusals).perform ⟨client, world⟩ = (answer, twin)) :
    result = answer ∧
      final.world.asked.map Http.Request.redacted = twin.world.asked.map Http.Request.redacted ∧
      final.world.trace.map Event.redacted = twin.world.trace.map Event.redacted ∧
      final.world.files = twin.world.files ∧ final.world.jars = twin.world.jars := by
  obtain ⟨mask, overlooks, covered⟩ := covered_mask world.sender code other taken
  obtain ⟨login, settled, refused, left, right, prepared⟩ := prepare_alike code other settings jar waker source refusals
    one.1.2 two.1.2 world world (World.alike_refl world device overlooks)
  subst settled refused
  have ran := run_alike login code other one two covered blind client _ _ prepared
  rw [← left, ← right, ← session_perform, ← session_perform, ended, answered] at ran
  obtain ⟨same, asked, trace, equal, history, events, -⟩ := ran
  have requests : twin.world.asked = asked := congrArg World.asked equal
  have happened : twin.world.trace = trace := congrArg World.trace equal
  rw [requests, happened]
  exact ⟨same, requests_redacted history, events_redacted events, (congrArg World.files equal).symm,
    (congrArg World.jars equal).symm⟩

theorem session_hides_code_length :
    let channel : Channel := { url := "http://tv/sony/system" }
    let client := Client.ofServices [{ name := "accessControl", channel := channel }, { name := "system", channel := channel }]
    let world : World :=
      { device := fun _ _ =>
          .answered { status := some 403, headers := [], chunks := [], streamError := none, truncated := false } }
    let settings : Settings := { deviceAddress := .text "http://tv" }
    let short := session (settings.withCode "0000") none (.packet {}) (.documents {}) fun _ _ _ _ => none
    let long := session (settings.withCode "a longer code") none (.packet {}) (.documents {}) fun _ _ _ _ => none
    (settings.withCode "0000").HasKey "0000" ∧ (settings.withCode "a longer code").HasKey "a longer code" ∧
      Blind world.device ∧ world.sender.takes "0000" = world.sender.takes "a longer code" ∧
      ∃ result answer final twin,
        short.perform ⟨client, world⟩ = (result, final) ∧ long.perform ⟨client, world⟩ = (answer, twin) ∧
        result = answer ∧ final.world.trace.map Event.redacted = twin.world.trace.map Event.redacted := by
  intro channel client world settings short long
  have one : (settings.withCode "0000").HasKey "0000" := ⟨⟨rfl, by decide⟩, by decide +kernel⟩
  have two : (settings.withCode "a longer code").HasKey "a longer code" := ⟨⟨rfl, by decide⟩, by decide +kernel⟩
  have device : Blind world.device := fun _ _ _ _ _ _ => rfl
  have taken : world.sender.takes "0000" = world.sender.takes "a longer code" := by decide +kernel
  rcases ended : short.perform ⟨client, world⟩ with ⟨result, final⟩
  rcases answered : long.perform ⟨client, world⟩ with ⟨answer, twin⟩
  obtain ⟨same, -, trace, -⟩ := session_hides_code "0000" "a longer code" settings one two none (.packet {})
    (.documents {}) (fun _ _ _ _ => none) (fun _ _ _ => rfl) client world device taken result answer final twin ended answered
  exact ⟨one, two, device, taken, result, answer, final, twin, rfl, rfl, same, trace⟩

-- The client refuses the key probe of a code with a line break in it, and the refusal is logged.
theorem session_tells_unsendable_code :
    let service (name : String) : Service :=
      { name := name, channel := { url := "http://tv" }, methods := some [("getDeviceMode", ["1.0"])] }
    let client := Client.ofServices [service "accessControl", service "system"]
    let world : World :=
      { device := fun _ _ =>
          .answered { status := some 200, headers := [], chunks := [], streamError := none, truncated := false } }
    let settings : Settings := { deviceAddress := .text "http://tv" }
    let final (code : String) : World :=
      ((session (settings.withCode code) none (.packet {}) (.documents {}) fun _ _ _ _ => none).perform ⟨client, world⟩).2.world
    (settings.withCode "1234").HasKey "1234" ∧ (settings.withCode "a\nb").HasKey "a\nb" ∧ Blind world.device ∧
      (final "1234").trace.map Event.redacted ≠ (final "a\nb").trace.map Event.redacted := by
  intro service client world settings final
  have counts : (final "1234").trace.length = 10 ∧ (final "a\nb").trace.length = 13 := by decide +kernel +zetaReduce
  refine ⟨⟨⟨rfl, by decide⟩, by decide +kernel⟩, ⟨⟨rfl, by decide⟩, by decide +kernel⟩, fun _ _ _ _ _ _ => rfl, fun same => ?_⟩
  have lengths := congrArg List.length same
  rw [List.length_map, List.length_map, counts.1, counts.2] at lengths
  omega

end Login

end DeviceLogin
