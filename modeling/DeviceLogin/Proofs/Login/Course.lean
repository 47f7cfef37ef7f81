import DeviceLogin.Login
import DeviceLogin.Proofs.Clients
import DeviceLogin.Proofs.Readings

set_option autoImplicit false

namespace DeviceLogin

open Act

def World.Logged (before after : World) : Prop :=
  ∃ lines : List (Log.Level × String), (∀ line ∈ lines, line.1 ≠ .error) ∧
    after = { before with trace := before.trace ++ lines.map fun line => .logged line.1 line.2 }

theorem logged_refl (world : World) : World.Logged world world := ⟨[], by simp, by simp⟩

theorem logged_trans {first middle last : World} (early : World.Logged first middle) (late : World.Logged middle last) :
    World.Logged first last := by
  obtain ⟨lines, minor, rfl⟩ := early
  obtain ⟨more, mild, rfl⟩ := late
  refine ⟨lines ++ more, fun line member => ?_, by simp⟩
  rcases List.mem_append.mp member with old | new
  · exact minor line old
  · exact mild line new

theorem logged_write (logger : Logger) (level : Log.Level) (message : String) (context : Log.Context) (world : World)
    (minor : level ≠ .error) : World.Logged world ((logger.write level message context).run world).2 :=
  ⟨[(level, (logger.context.overlay context).line message)], by simpa using minor, rfl⟩

theorem logged_reached {allowed : Traffic → Sent → Prop} {before after : World} (logged : World.Logged before after) :
    World.Reached allowed before after := by
  obtain ⟨lines, minor, rfl⟩ := logged
  refine World.reached_quiet rfl rfl rfl _ rfl fun event member => ?_
  obtain ⟨line, known, rfl⟩ := List.mem_map.mp member
  simpa [Event.ordinary] using minor line known

theorem logged_traffic {before after : World} (logged : World.Logged before after) : after.traffic = before.traffic := by
  obtain ⟨lines, minor, rfl⟩ := logged
  rfl

def Service.carrying (f : Credentials → Credentials) (service : Service) : Service :=
  service.changeChannel (Channel.change f)

namespace Probe

-- What a reply says about the credentials; the first that fits counts.
inductive Classified (reply : Reply) : Outcome → Prop
  | displayOff (off : reply.faultKind? = some .displayOff) : Classified reply .displayOff
  | ok (on : reply.faultKind? ≠ some .displayOff)
      (passed : reply.status = 200 ∨ reply.faultKind? = some .illegalArgument) : Classified reply .ok
  | needsPairing (on : reply.faultKind? ≠ some .displayOff)
      (stopped : ¬ (reply.status = 200 ∨ reply.faultKind? = some .illegalArgument))
      (denied : reply.faultKind? = some .notImplemented ∨ reply.status = 401 ∨ reply.status = 403 ∨
        reply.faultKind? = some .forbidden) : Classified reply .needsPairing
  | other (on : reply.faultKind? ≠ some .displayOff)
      (stopped : ¬ (reply.status = 200 ∨ reply.faultKind? = some .illegalArgument))
      (unclear : ¬ (reply.faultKind? = some .notImplemented ∨ reply.status = 401 ∨ reply.status = 403 ∨
        reply.faultKind? = some .forbidden)) : Classified reply (.other reply.describe)

theorem classified_judge (reply : Reply) : Classified reply (judge reply) := by
  unfold judge
  simp only [Bool.or_eq_true, decide_eq_true_eq, or_assoc]
  split
  · next off => exact .displayOff off
  · next on =>
      split
      · next passed => exact .ok on passed
      · next stopped =>
          split
          · next denied => exact .needsPairing on stopped denied
          · next unclear => exact .other on stopped unclear

inductive Probed (refusals : Service.Refusals) (before : Scene Service) : Except Failure Outcome → Scene Service → Prop
  | byMode {mode : Reply} {outcome : Outcome} {after : Scene Service}
      (asked : (Service.ask refusals "getDeviceMode").perform before = (.ok mode, after))
      (known : mode.faultKind? ≠ some .notImplemented) (classified : Classified mode outcome) :
      Probed refusals before (.ok outcome) after
  | byPower {mode power : Reply} {outcome : Outcome} {middle after : Scene Service}
      (asked : (Service.ask refusals "getDeviceMode").perform before = (.ok mode, middle))
      (unknown : mode.faultKind? = some .notImplemented)
      (again : (Service.ask refusals "getPowerStatus").perform middle = (.ok power, after))
      (classified : Classified power outcome) : Probed refusals before (.ok outcome) after
  | modeFailed {failure : Failure} {after : Scene Service}
      (asked : (Service.ask refusals "getDeviceMode").perform before = (.error failure, after)) :
      Probed refusals before (.error failure) after
  | powerFailed {mode : Reply} {failure : Failure} {middle after : Scene Service}
      (asked : (Service.ask refusals "getDeviceMode").perform before = (.ok mode, middle))
      (unknown : mode.faultKind? = some .notImplemented)
      (again : (Service.ask refusals "getPowerStatus").perform middle = (.error failure, after)) :
      Probed refusals before (.error failure) after

theorem probed_run (refusals : Service.Refusals) (before : Scene Service) :
    Probed refusals before ((run refusals).perform before).1 ((run refusals).perform before).2 := by
  rw [run, perform_bind]
  rcases asked : (Service.ask refusals "getDeviceMode").perform before with ⟨result, middle⟩
  cases result with
  | error failure => exact .modeFailed asked
  | ok mode =>
      dsimp only
      by_cases unknown : mode.faultKind? = some .notImplemented
      · rw [if_pos unknown, perform_bind]
        rcases again : (Service.ask refusals "getPowerStatus").perform middle with ⟨result, after⟩
        cases result with
        | error failure => exact .powerFailed asked unknown again
        | ok power => exact .byPower asked unknown again (classified_judge power)
      · rw [if_neg unknown]
        exact .byMode asked unknown (classified_judge mode)

def IsCall (call : Call) : Prop := call.Of "getDeviceMode" [] ∨ call.Of "getPowerStatus" []

theorem probed_keeps {inv : World → Prop} (refusals : Service.Refusals) (service : Service) (world : World)
    (result : Except Failure Outcome) (after : Scene Service) (muted : service.channel.Muted) (started : inv world)
    (posting : ∀ call, IsCall call → Holding inv (service.channel.post call.message []))
    (probed : Probed refusals ⟨service, world⟩ result after) :
    service.At inv after ∧ ∀ failure, result = .error failure → Service.Refused refusals service.name after.world failure := by
  have asking (method : String) (probes : ∀ call : Call, call.Of method [] → IsCall call) :
      Keeps (service.At inv) (fun scene => Service.Refused refusals service.name scene.world)
        (Service.ask refusals method) :=
    Service.ask_keeps service refusals method [] muted fun call named => posting call (probes call named)
  have power := asking "getPowerStatus" fun _ named => .inr named
  obtain ⟨kept, failing⟩ := asking "getDeviceMode" (fun _ named => .inl named) ⟨service, world⟩
    ⟨⟨service.lastId, rfl⟩, started⟩
  cases probed with
  | byMode asked known classified =>
      rw [asked] at kept
      exact ⟨kept, fun _ failed => nomatch failed⟩
  | modeFailed asked =>
      rw [asked] at kept failing
      refine ⟨kept, fun other failed => ?_⟩
      cases failed
      exact failing _ rfl
  | byPower asked unknown again classified =>
      rw [asked] at kept
      have last := (power _ kept).1
      rw [again] at last
      exact ⟨last, fun _ failed => nomatch failed⟩
  | powerFailed asked unknown again =>
      rw [asked] at kept
      obtain ⟨last, failed⟩ := power _ kept
      rw [again] at last failed
      refine ⟨last, fun other same => ?_⟩
      cases same
      exact failed _ rfl

theorem probed_around (refusals : Service.Refusals) (service : Service) (world : World)
    (result : Except Failure Outcome) (after : Scene Service) (muted : service.channel.Muted)
    (probed : Probed refusals ⟨service, world⟩ result after) :
    service.Around (Sent.Over service.channel IsCall) world after ∧
      ∀ failure, result = .error failure → Service.Refused refusals service.name after.world failure :=
  probed_keeps refusals service world result after muted (World.reached_refl _ world)
    (Service.posting_reached fun _ _ sent => sent) probed

end Probe

namespace Pairing

inductive Registered (pin : Option String) (reply : Reply) : Outcome → Prop
  | pending (denied : reply.status = 401 ∨ reply.faultKind? = some .unauthorized) (shown : pin = none) :
      Registered pin reply .pending
  | needsPairing (denied : reply.status = 401 ∨ reply.faultKind? = some .unauthorized) (wrong : pin ≠ none) :
      Registered pin reply .needsPairing
  | displayOff (allowed : ¬ (reply.status = 401 ∨ reply.faultKind? = some .unauthorized))
      (off : reply.faultKind? = some .displayOff) : Registered pin reply .displayOff
  | other (allowed : ¬ (reply.status = 401 ∨ reply.faultKind? = some .unauthorized))
      (on : reply.faultKind? ≠ some .displayOff) (failed : reply.fault ≠ none ∨ reply.status ≠ 200) :
      Registered pin reply (.other ("Registration failed: " ++ reply.describe))
  | ok (sound : reply.fault = none) (accepted : reply.status = 200) : Registered pin reply .ok

theorem registered_judge (pin : Option String) (reply : Reply) : Registered pin reply (judge pin reply).1 := by
  unfold judge
  simp only [Bool.or_eq_true, decide_eq_true_eq]
  split
  · next denied =>
      cases pin with
      | none => exact .pending denied rfl
      | some code => exact .needsPairing denied (by simp)
  · next allowed =>
      split
      · next off => exact .displayOff allowed off
      · next on =>
          split
          · next failed =>
              refine .other allowed on ?_
              simpa [Reply.isError, Option.isSome_iff_ne_none] using failed
          · next fine =>
              have both : reply.fault = none ∧ reply.status = 200 := by simpa [Reply.isError] using fine
              exact .ok both.1 both.2

theorem registered_ok_iff {pin : Option String} {reply : Reply} {outcome : Outcome} (registered : Registered pin reply outcome) :
    outcome = .ok ↔ reply.status = 200 ∧ reply.fault = none := by
  have unfaulted (free : reply.fault = none) (kind : FaultKind) : reply.faultKind? ≠ some kind := by
    simp [Reply.faultKind?, free]
  have undenied (denied : reply.status = 401 ∨ reply.faultKind? = some .unauthorized) :
      ¬ (reply.status = 200 ∧ reply.fault = none) := by
    rintro ⟨accepted, free⟩
    rcases denied with status | fault
    · exact absurd (accepted.symm.trans status) (by decide +kernel)
    · exact unfaulted free _ fault
  cases registered with
  | pending denied shown => exact ⟨nofun, fun fine => absurd fine (undenied denied)⟩
  | needsPairing denied wrong => exact ⟨nofun, fun fine => absurd fine (undenied denied)⟩
  | displayOff allowed off => exact ⟨nofun, fun fine => absurd off (unfaulted fine.2 _)⟩
  | other allowed on failed =>
      refine ⟨nofun, fun fine => ?_⟩
      rcases failed with fault | status
      · exact absurd fine.2 fault
      · exact absurd fine.1 status
  | ok sound accepted => exact ⟨fun _ => ⟨accepted, sound⟩, fun _ => rfl⟩

end Pairing

def Settings.HasCode (settings : Settings) (code : String) : Prop :=
  settings.code? = some code ∧ Text.isBlank code = false

def Settings.HasKey (settings : Settings) (key : String) : Prop :=
  settings.HasCode key ∧ Settings.isRequest key = false

theorem present_iff (settings : Settings) (code : String) :
    Text.present? settings.code? = some code ↔ settings.HasCode code := by
  unfold Settings.HasCode
  cases settings.code? with
  | none => simp [Text.present?]
  | some given =>
      cases blank : Text.isBlank given with
      | false =>
          simp only [Text.present?, blank, Bool.false_eq_true, if_false, Option.some.injEq]
          exact ⟨fun same => ⟨same, same ▸ blank⟩, And.left⟩
      | true =>
          simp only [Text.present?, blank, if_true, Option.some.injEq, reduceCtorEq, false_iff]
          rintro ⟨same, filled⟩
          rw [← same, blank] at filled
          exact nomatch filled

theorem key_iff (settings : Settings) (key : String) :
    Authorization.key? settings.code? = some key ↔ settings.HasKey key := by
  rw [Authorization.key?, Option.filter_eq_some_iff, present_iff, Settings.HasKey, Bool.not_eq_true']

theorem no_code (settings : Settings) (none : Text.present? settings.code? = none) (code : String) :
    ¬ settings.HasCode code := by
  rw [← present_iff, none]
  exact fun some => nomatch some

theorem no_key (settings : Settings) (none : Authorization.key? settings.code? = none) (key : String) :
    ¬ settings.HasKey key := by
  rw [← key_iff, none]
  exact fun some => nomatch some

namespace Login

inductive Attempted (login : Login) (put back : Credentials → Credentials) (service : Service) (world : World) :
    Except Failure Outcome → Service → World → Prop
  | mk {result : Except Failure Outcome} {probed : Scene Service} {after : World}
      (asked : Probe.Probed login.refusals ⟨service.carrying put, world⟩ result probed)
      (logged : World.Logged probed.world after) :
      Attempted login put back service world result (probed.focus.carrying back) after

def TriedKey (login : Login) (key : String) : Service → World → Except Failure Outcome → Service → World → Prop :=
  login.Attempted (·.withHeader keyHeader key) (·.withoutHeader keyHeader)

def TriedCookies (login : Login) : Service → World → Except Failure Outcome → Service → World → Prop :=
  login.Attempted (·.withJar login.jar) Credentials.withoutJar

inductive WithoutKey (login : Login) (system : Service) (world : World) : Service → World → Prop
  | unusable (none : ∀ key, ¬ login.settings.HasKey key) : WithoutKey login system world system world
  | rejected {key : String} {outcome : Outcome} {probed : Service} {after : World} (usable : login.settings.HasKey key)
      (tried : login.TriedKey key system world (.ok outcome) probed after) (refused : outcome ≠ .ok) :
      WithoutKey login system world probed after

inductive Paired (login : Login) (accessControl : Service) (world : World) (code : String) : Outcome → World → Prop
  | mk {pin : Option String} {response : Http.Response} {outcome : Outcome} {posted after : World}
      (given : pin = if Settings.isRequest code then none else some code)
      (asked : ((accessControl.carrying (·.withJar login.jar)).channel.post (Pairing.message login.settings.client)
        (Pairing.headers pin)).run world = (response, posted))
      (registered : Pairing.Registered pin (Reply.ofResponse response) outcome) (logged : World.Logged posted after) :
      Paired login accessControl world code outcome after

def granting (f : Credentials → Credentials) (client : Client) : Client := client.changeChannels (Channel.change f)

inductive Checked (login : Login) (system : Service) (world : World) : Except Failure Verdict → Service → World → Prop
  | keyFailed {key : String} {failure : Failure} {probed : Service} {after : World} (usable : login.settings.HasKey key)
      (tried : login.TriedKey key system world (.error failure) probed after) :
      Checked login system world (.error failure) probed after
  | byKey {key : String} {probed : Service} {after : World} (usable : login.settings.HasKey key)
      (tried : login.TriedKey key system world (.ok .ok) probed after) :
      Checked login system world (.ok .byKey) probed after
  | cookiesFailed {failure : Failure} {keyless probed : Service} {middle after : World}
      (without : login.WithoutKey system world keyless middle)
      (tried : login.TriedCookies keyless middle (.error failure) probed after) :
      Checked login system world (.error failure) probed after
  | byCookies {keyless probed : Service} {middle after : World}
      (without : login.WithoutKey system world keyless middle)
      (tried : login.TriedCookies keyless middle (.ok .ok) probed after) :
      Checked login system world (.ok .byCookie) probed after
  | refused {outcome : Outcome} {keyless probed : Service} {middle after : World}
      (without : login.WithoutKey system world keyless middle)
      (tried : login.TriedCookies keyless middle (.ok outcome) probed after) (refused : outcome ≠ .ok) :
      Checked login system world (.ok (.none outcome)) probed after

inductive Settled (login : Login) (client : Client) (accessControl system : Service) (world : World) :
    Except Failure Outcome → Scene Client → Prop
  | failed {failure : Failure} {probed : Service} {after : World}
      (checked : login.Checked system world (.error failure) probed after) :
      Settled login client accessControl system world (.error failure) ⟨client.replace probed, after⟩
  | byKey {key : String} {probed : Service} {after : World} (usable : login.settings.HasKey key)
      (checked : login.Checked system world (.ok .byKey) probed after) :
      Settled login client accessControl system world (.ok .ok)
        ⟨granting (·.withHeader keyHeader key) (client.replace probed), after⟩
  | byCookies {probed : Service} {after : World} (checked : login.Checked system world (.ok .byCookie) probed after) :
      Settled login client accessControl system world (.ok .ok)
        ⟨granting (·.withJar login.jar) (client.replace probed), after⟩
  | stopped {outcome : Outcome} {probed : Service} {after : World}
      (checked : login.Checked system world (.ok (.none outcome)) probed after) (final : outcome ≠ .needsPairing) :
      Settled login client accessControl system world (.ok outcome) ⟨client.replace probed, after⟩
  | blank {probed : Service} {after : World}
      (checked : login.Checked system world (.ok (.none .needsPairing)) probed after)
      (none : ∀ code, ¬ login.settings.HasCode code) :
      Settled login client accessControl system world (.ok (.other "Access code cannot be blank"))
        ⟨client.replace probed, after⟩
  | paired {code : String} {probed : Service} {asking after : World}
      (checked : login.Checked system world (.ok (.none .needsPairing)) probed asking)
      (some : login.settings.HasCode code) (accepted : login.Paired accessControl asking code .ok after) :
      Settled login client accessControl system world (.ok .ok)
        ⟨granting (·.withJar login.jar)
          ((client.replace probed).replace (accessControl.carrying Credentials.withoutJar)), after⟩
  | unpaired {code : String} {outcome : Outcome} {probed : Service} {asking after : World}
      (checked : login.Checked system world (.ok (.none .needsPairing)) probed asking)
      (some : login.settings.HasCode code) (answered : login.Paired accessControl asking code outcome after)
      (refused : outcome ≠ .ok) :
      Settled login client accessControl system world (.ok outcome)
        ⟨(client.replace probed).replace (accessControl.carrying Credentials.withoutJar), after⟩

end Login

end DeviceLogin
