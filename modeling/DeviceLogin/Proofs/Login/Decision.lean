import DeviceLogin.Proofs.Login.Requests

set_option autoImplicit false

namespace DeviceLogin

open Act

namespace Login

-- Nothing happens between a refused call or an unanswered question for a file and the end of the run but
-- that it is reported, so the last world tells which one it was.
inductive Rejected (login : Login) (start final : World) : Failure → Prop
  | waker {answer : Option String → Option String → Option Failure} {failure : Failure}
      (supplied : login.waker = .supplied answer)
      (failed : answer login.settings.hostName? login.settings.macAddress? = some failure) :
      Rejected login start final failure
  | call {thrown : Failure} (refused : Service.Refused login.refusals "system" final thrown) :
      Rejected login start final thrown.asError
  | property {thrown : Failure} (key : String) (refused : start.refusesProperty key = some thrown) :
      Rejected login start final thrown.asError
  | existence {fault : FileFault} (count : Nat) (path : String) (last : final.files.accesses = count + 1)
      (unanswered : start.files.fault count .probe path = some fault) :
      Rejected login start final (.error fault.message)

-- The device was woken once, at the address that the settings give.
inductive Woken (login : Login) (world : World) : World → Prop
  | supplied {answer : Option String → Option String → Option Failure} (waker : login.waker = .supplied answer)
      (done : answer login.settings.hostName? login.settings.macAddress? = none) :
      Woken login world
        { world with trace := world.trace ++ [.waking login.settings.hostName? login.settings.macAddress?] }
  | packet {target : WakeOnLan.Target} (waker : login.waker = .packet target) :
      Woken login world
        ((WakeOnLan.wake login.logger target login.settings.hostName? login.settings.macAddress?).run world).2

structure Decided (login : Login) (client : Client) (accessControl system : Service) (world : World)
    (outcome : Outcome) (final : Scene Client) (woken : World) (settled : Scene Client) : Prop where
  waking : login.Woken world woken
  settling : login.Settled client.muted accessControl.muted system.muted woken (.ok outcome) settled
  later : ∃ events, final.world.trace = woken.trace ++ events ∧ ∀ event ∈ events, event.ordinary
  connected : outcome = .ok → ∃ ready, World.Logged settled.world ready ∧
    (login.provision system).perform ⟨settled.focus, ready⟩ = (.ok (), final)
  refused : outcome ≠ .ok → final.focus = settled.focus ∧ World.Logged settled.world final.world

variable (login : Login) (client : Client) (accessControl system : Service) (world : World)

theorem tried_refused {put back : Credentials → Credentials} {service probed : Service} {before after : World}
    {failure : Failure} (tried : login.Attempted put back service before (.error failure) probed after)
    (muted : (service.carrying put).channel.Muted) : Service.Refused login.refusals service.name after failure := by
  obtain ⟨asked, logged⟩ := tried
  obtain ⟨method, params, refused⟩ := (Probe.probed_around _ _ _ _ _ muted asked).2 failure rfl
  obtain ⟨lines, minor, rfl⟩ := logged
  exact ⟨method, params, refused⟩

theorem checked_failed {failure : Failure} {probed : Service} {after : World}
    (checked : login.Checked system world (.error failure) probed after) (muted : system.channel.Muted) :
    Service.Refused login.refusals system.name after failure := by
  cases checked with
  | keyFailed usable tried => exact tried_refused login tried muted
  | cookiesFailed without tried =>
      have restored := without_key_restored login system world without muted
      rw [← restored.named]
      exact tried_refused login tried restored.muted

theorem settled_failed {failure : Failure} {settled : Scene Client} {woken : World}
    (settling : login.Settled client accessControl system woken (.error failure) settled) (muted : system.channel.Muted) :
    Service.Refused login.refusals system.name settled.world failure := by
  cases settling with
  | failed checked => exact checked_failed login system woken checked muted

theorem settled_reached {result : Except Failure Outcome} {settled : Scene Client}
    (settling : login.Settled client accessControl system world result settled) (muted : system.channel.Muted) :
    World.Reached (fun _ _ => True) world settled.world := by
  obtain ⟨-, keyProbe, cookieProbe, registration⟩ :=
    settled_authorizing login client accessControl system world settling muted
  have first := World.reached_mono (fun _ _ _ => trivial) keyProbe
  have second := World.reached_mono (fun _ _ _ => trivial) cookieProbe
  have third := World.reached_mono (fun _ _ _ => trivial) registration
  exact World.reached_trans (World.reached_trans first second) third

theorem logged_faults {before after : World} (logged : World.Logged before after) :
    after.files = before.files ∧ after.refusesProperty = before.refusesProperty := by
  obtain ⟨lines, minor, rfl⟩ := logged
  exact ⟨rfl, rfl⟩

theorem thrown_rejected {ready stopped final : World} {thrown : Failure} (faults : ready.files.fault = world.files.fault)
    (refusals : ready.refusesProperty = world.refusesProperty)
    (failing : Provisioning.Thrown login.refusals ready "system" stopped thrown)
    (reported : login.Reported "postLogin" thrown stopped final) : login.Rejected world final thrown.asError := by
  rw [Reported] at reported
  subst reported
  cases failing with
  | call refused => exact .call refused
  | property key refused => exact .property key (refusals ▸ refused)
  | existence count path last unanswered => exact .existence count path last (faults ▸ unanswered)

theorem waking_beside {result : Except Failure Unit} {woken : World} (waking : login.wake.perform world = (result, woken)) :
    World.Beside world woken ∧ ∀ failure, result = .error failure → login.Rejected world woken failure := by
  obtain ⟨beside, failing⟩ := wake_beside login world world (World.beside_refl world)
  rw [waking] at beside failing
  refine ⟨beside, fun failure failed => ?_⟩
  obtain ⟨answer, supplied, answered⟩ := failing failure failed
  exact .waker supplied answered

theorem wake_woken {woken : World} (waking : login.wake.perform world = (.ok (), woken)) : login.Woken world woken := by
  unfold wake at waking
  cases waker : login.waker with
  | packet target =>
      simp only [waker] at waking
      obtain rfl : _ = woken := congrArg Prod.snd waking
      exact .packet waker
  | supplied answer =>
      simp only [waker] at waking
      cases answered : answer login.settings.hostName? login.settings.macAddress? with
      | some failure =>
          simp only [answered] at waking
          exact nomatch congrArg Prod.fst waking
      | none =>
          simp only [answered] at waking
          obtain rfl : _ = woken := congrArg Prod.snd waking
          exact .supplied waker answered

theorem ran_rejected {failure : Failure} {final : Scene Client}
    (ran : login.Ran client world (.error failure) final) : login.Rejected world final.world failure := by
  cases ran with
  | unwoken offers waking => exact (waking_beside login world waking).2 failure rfl
  | @unsettled accessControl system woken after thrown settled offers waking settling reported =>
      have course := settle_settled login client accessControl system woken _ settled offers settling
      have refused := settled_failed login client.muted accessControl.muted system.muted course rfl
      have named : system.muted.name = "system" := Client.service_named client "system" system offers.system
      rw [named] at refused
      rw [Reported] at reported
      subst reported
      exact .call refused
  | @interrupted accessControl system woken ready after thrown settled stopped offers waking settling logged reading
      reported =>
      obtain ⟨beside, -⟩ := waking_beside login world waking
      have course := settle_settled login client accessControl system woken _ settled offers settling
      have reached := settled_reached login client.muted accessControl.muted system.muted woken course rfl
      obtain ⟨files, refusals⟩ := logged_faults logged
      obtain ⟨grant, probed, kept, granted, same, focus⟩ := settled_offers login offers course
      obtain ⟨-, -, failing⟩ := reading_perform login granted same ready
      rw [focus] at reading
      rw [reading, Client.service_named client _ _ offers.system] at failing
      refine thrown_rejected login world ?_ ?_ (failing thrown rfl) reported
      · rw [files, reached.faults, beside.files]
      · rw [refusals, reached.refusals, beside.refusals]

theorem ran_decided {outcome : Outcome} {final : Scene Client} (offers : client.Offers accessControl system)
    (ran : login.Ran client world (.ok outcome) final) :
    ∃ woken settled, login.Decided client accessControl system world outcome final woken settled := by
  cases ran with
  | missing absent => simp [offers.accessControl, offers.system] at absent
  | @refused found other woken after _ settled known waking settling refused logged =>
      obtain ⟨rfl, rfl⟩ := Client.offers_unique offers known
      have course := settle_settled login client found other woken _ settled known settling
      have reached := settled_reached login client.muted found.muted other.muted woken course rfl
      exact ⟨woken, settled, wake_woken login world waking, course, (World.reached_trans reached (logged_reached logged)).trace,
        fun accepted => absurd accepted refused, fun _ => ⟨rfl, logged⟩⟩
  | @connected found other woken ready settled _ known waking settling logged reading =>
      obtain ⟨rfl, rfl⟩ := Client.offers_unique offers known
      have course := settle_settled login client found other woken _ settled known settling
      have reached := settled_reached login client.muted found.muted other.muted woken course rfl
      obtain ⟨grant, probed, kept, granted, same, focus⟩ := settled_offers login offers course
      obtain ⟨-, after, -⟩ := reading_perform login granted same ready
      have read := World.reached_mono (fun _ _ _ => trivial) after
      rw [← focus, reading] at read
      refine ⟨woken, settled, wake_woken login world waking, course, ?_, fun _ => ⟨ready, logged, reading⟩, fun outside => absurd rfl outside⟩
      exact (World.reached_trans (World.reached_trans reached (logged_reached logged)) read).trace

-- A login without the two services does nothing. Any other one either is rejected with what was thrown,
-- or wakes the device once and ends as the probes and the registration decide.
theorem run_decides :
    ((client.service? "accessControl" = none ∨ client.service? "system" = none) →
      login.run.perform ⟨client, world⟩ = (.ok .serviceMissing, ⟨client, world⟩)) ∧
    (client.Offers accessControl system →
      (∃ failure final, login.run.perform ⟨client, world⟩ = (.error failure, final) ∧
        login.Rejected world final.world failure) ∨
      ∃ outcome final woken settled, login.run.perform ⟨client, world⟩ = (.ok outcome, final) ∧
        login.Decided client accessControl system world outcome final woken settled) := by
  refine ⟨fun absent => run_missing login client world absent, fun offers => ?_⟩
  have ran := run_ran login client world
  rcases ended : login.run.perform ⟨client, world⟩ with ⟨result, final⟩
  rw [ended] at ran
  cases result with
  | error failure => exact .inl ⟨failure, final, rfl, ran_rejected login client world ran⟩
  | ok outcome =>
      obtain ⟨woken, settled, decided⟩ := ran_decided login client accessControl system world offers ran
      exact .inr ⟨outcome, final, woken, settled, rfl, decided⟩

theorem run_decides_refused :
    let accessControl : Service := { name := "accessControl", channel := { url := "http://tv/sony/accessControl" } }
    let system : Service := { name := "system", channel := { url := "http://tv/sony/system" } }
    let client := Client.ofServices [accessControl, system]
    let denied : Http.Exchange :=
      .answered { status := some 401, headers := [], chunks := [], streamError := none, truncated := false }
    let world : World := { device := fun _ _ => denied, jars := [{ cookies := [("auth", "7")] }] }
    let login : Login :=
      { settings := { deviceAddress := .text "http://tv/sony", deviceMacAddress := .text "aabbccddeeff", accessCode := .text "1234" }
        logger := {}
        jar := 0
        waker := .supplied fun _ _ => none }
    client.Offers accessControl system ∧ ∃ outcome final woken settled,
      login.run.perform ⟨client, world⟩ = (.ok outcome, final) ∧ outcome ≠ .ok ∧
        login.Decided client accessControl system world outcome final woken settled ∧
        woken.trace = [.waking (some "tv") (some "aabbccddeeff")] ∧
        (final.world.trace.filterMap fun
          | .waking ip mac => some (ip, mac)
          | _ => none) = [(some "tv", some "aabbccddeeff")] ∧
        final.world.asked.map (fun request => (request.headers.get? keyHeader, request.headers.get? "Cookie")) =
          [(some "1234", none), (none, some "auth=7"), (none, some "auth=7")] := by
  intro accessControl system client denied world login
  have offers : client.Offers accessControl system := ⟨rfl, rfl⟩
  have outside : (login.run.perform ⟨client, world⟩).1.toOption.any (· ≠ .ok) = true := by decide +kernel +zetaReduce
  have wakes : (login.run.perform ⟨client, world⟩).2.world.trace.filterMap (fun
      | .waking ip mac => some (ip, mac)
      | _ => none) = [(some "tv", some "aabbccddeeff")] := by decide +kernel +zetaReduce
  have probes : (login.run.perform ⟨client, world⟩).2.world.asked.map
      (fun request => (request.headers.get? keyHeader, request.headers.get? "Cookie")) =
        [(some "1234", none), (none, some "auth=7"), (none, some "auth=7")] := by decide +kernel +zetaReduce
  refine ⟨offers, ?_⟩
  rcases (run_decides login client accessControl system world).2 offers with
    ⟨failure, final, ended, -⟩ | ⟨outcome, final, woken, settled, ended, decided⟩
  · rw [ended] at outside
    cases outside
  · rw [ended] at outside wakes probes
    have trace : woken.trace = [.waking (some "tv") (some "aabbccddeeff")] := by
      have host : login.settings.hostName? = some "tv" := by decide +kernel +zetaReduce
      cases decided.waking with
      | supplied waker done => rw [host]; rfl
      | packet waker => cases waker
    exact ⟨outcome, final, woken, settled, ended, of_decide_eq_true outside, decided, trace, wakes, probes⟩

end Login

end DeviceLogin
