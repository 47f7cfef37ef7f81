import DeviceLogin.Proofs.Login.Settling

set_option autoImplicit false

namespace DeviceLogin

open Act

def Credentials.muted (credentials : Credentials) : Credentials := { credentials with autoAuth := false }

def Service.muted (service : Service) : Service := service.carrying Credentials.muted

namespace Client

def muted (client : Client) : Client := Login.granting Credentials.muted client

structure Offers (client : Client) (accessControl system : Service) : Prop where
  accessControl : client.service? "accessControl" = some accessControl
  system : client.service? "system" = some system

theorem offers_named {client : Client} {accessControl system : Service} (offers : client.Offers accessControl system) :
    accessControl.name = "accessControl" ∧ system.name = "system" :=
  ⟨service_named client _ _ offers.accessControl, service_named client _ _ offers.system⟩

theorem offers_apart {client : Client} {accessControl system : Service} (offers : client.Offers accessControl system) :
    accessControl.name ≠ system.name := by
  obtain ⟨accessNamed, systemNamed⟩ := offers_named offers
  rw [accessNamed, systemNamed]
  decide

theorem offers_known {client : Client} {accessControl system : Service} (offers : client.Offers accessControl system) :
    client.service? accessControl.name = some accessControl ∧ client.service? system.name = some system := by
  obtain ⟨accessNamed, systemNamed⟩ := offers_named offers
  rw [accessNamed, systemNamed]
  exact ⟨offers.accessControl, offers.system⟩

theorem offers_unique {client : Client} {accessControl system found other : Service}
    (offers : client.Offers accessControl system) (known : client.Offers found other) :
    found = accessControl ∧ other = system :=
  ⟨Option.some.inj (known.accessControl.symm.trans offers.accessControl),
    Option.some.inj (known.system.symm.trans offers.system)⟩

theorem muted_offers (client : Client) (accessControl system : Service) (offers : client.Offers accessControl system) :
    client.muted.Offers accessControl.muted system.muted := by
  refine ⟨?_, ?_⟩
  · exact (service_changed client _ _).trans (by rw [offers.accessControl]; rfl)
  · exact (service_changed client _ _).trans (by rw [offers.system]; rfl)

end Client

namespace World

-- Another world in which nothing was asked, and nothing may fail otherwise.
structure Beside (start now : World) : Prop where
  files : now.files = start.files
  refusals : now.refusesProperty = start.refusesProperty
  device : now.device = start.device
  sender : now.sender = start.sender
  traffic : now.traffic = start.traffic

theorem beside_refl (world : World) : Beside world world := ⟨rfl, rfl, rfl, rfl, rfl⟩

theorem record_beside (start : World) (event : Event) : Holding (Beside start) (record event) :=
  fun _ beside => ⟨beside.files, beside.refusals, beside.device, beside.sender, beside.traffic⟩

end World

theorem WakeOnLan.broadcast_beside (start : World) (target : Target) (packet : List UInt8) :
    Holding (World.Beside start) (broadcast target packet) := by
  refine Holding.get_bind fun world beside => ?_
  have opened : World.Beside start { world with socketsOpened := world.socketsOpened + 1 } :=
    ⟨beside.files, beside.refusals, beside.device, beside.sender, beside.traffic⟩
  cases plan : (world.sockets world.socketsOpened).bindError with
  | some message =>
      simp only [plan]
      exact World.record_beside start _ _ opened
  | none =>
      simp only [plan]
      exact World.record_beside start _ _ opened

theorem WakeOnLan.wake_beside (start : World) (parent : Logger) (target : Target) (ip mac : Option String) :
    Holding (World.Beside start) (wake parent target ip mac) := by
  have debug (message : String) : Holding (World.Beside start) ((parent.child (.about "Wake")).debug message) :=
    World.record_beside start _
  unfold wake
  cases Text.present? mac with
  | none => exact debug _
  | some mac =>
      dsimp only
      cases packet? mac with
      | none => exact debug _
      | some packet =>
          refine (broadcast_beside start target packet).bind fun failure => ?_
          cases failure with
          | some message => exact debug _
          | none => exact debug _

theorem Login.wake_beside (login : Login) (start : World) :
    Act.Keeps (World.Beside start) (fun _ failure => ∃ answer, login.waker = .supplied answer ∧
      answer login.settings.hostName? login.settings.macAddress? = some failure) login.wake := by
  unfold wake
  cases waker : login.waker with
  | packet target => exact Keeps.always (WakeOnLan.wake_beside start _ _ _ _)
  | supplied answer =>
      cases answered : answer login.settings.hostName? login.settings.macAddress? with
      | some failure =>
          simp only [answered]
          exact Keeps.throw failure fun _ _ => ⟨answer, rfl, answered⟩
      | none =>
          simp only [answered]
          exact Keeps.always (World.record_beside start _)

namespace Login

def incidentLine (login : Login) (operation : String) (thrown : Failure) : String :=
  let about : Incident.About :=
    { category := some .device, operation := some operation, device := login.settings.deviceAddress.value? }
  (Incident.of thrown.message about).line scope about

def Reported (login : Login) (operation : String) (thrown : Failure) (before after : World) : Prop :=
  after = { before with trace := before.trace ++ [.logged .error (login.incidentLine operation thrown)] }

inductive Ran (login : Login) (client : Client) (world : World) : Except Failure Outcome → Scene Client → Prop
  | missing (absent : client.service? "accessControl" = none ∨ client.service? "system" = none) :
      Ran login client world (.ok .serviceMissing) ⟨client, world⟩
  | unwoken {accessControl system : Service} {failure : Failure} {after : World}
      (offers : client.Offers accessControl system) (waking : login.wake.perform world = (.error failure, after)) :
      Ran login client world (.error failure) ⟨client.muted, after⟩
  | unsettled {accessControl system : Service} {woken final : World} {thrown : Failure} {settled : Scene Client}
      (offers : client.Offers accessControl system) (waking : login.wake.perform world = (.ok (), woken))
      (settling : (login.settle accessControl system).perform ⟨client.muted, woken⟩ = (.error thrown, settled))
      (reported : login.Reported "authorize" thrown settled.world final) :
      Ran login client world (.error thrown.asError) ⟨settled.focus, final⟩
  | refused {accessControl system : Service} {woken final : World} {outcome : Outcome} {settled : Scene Client}
      (offers : client.Offers accessControl system) (waking : login.wake.perform world = (.ok (), woken))
      (settling : (login.settle accessControl system).perform ⟨client.muted, woken⟩ = (.ok outcome, settled))
      (refused : outcome ≠ .ok) (logged : World.Logged settled.world final) :
      Ran login client world (.ok outcome) ⟨settled.focus, final⟩
  | connected {accessControl system : Service} {woken ready : World} {settled final : Scene Client}
      (offers : client.Offers accessControl system) (waking : login.wake.perform world = (.ok (), woken))
      (settling : (login.settle accessControl system).perform ⟨client.muted, woken⟩ = (.ok .ok, settled))
      (logged : World.Logged settled.world ready)
      (reading : (login.provision system).perform ⟨settled.focus, ready⟩ = (.ok (), final)) :
      Ran login client world (.ok .ok) final
  | interrupted {accessControl system : Service} {woken ready final : World} {thrown : Failure}
      {settled stopped : Scene Client}
      (offers : client.Offers accessControl system) (waking : login.wake.perform world = (.ok (), woken))
      (settling : (login.settle accessControl system).perform ⟨client.muted, woken⟩ = (.ok .ok, settled))
      (logged : World.Logged settled.world ready)
      (reading : (login.provision system).perform ⟨settled.focus, ready⟩ = (.error thrown, stopped))
      (reported : login.Reported "postLogin" thrown stopped.world final) :
      Ran login client world (.error thrown.asError) ⟨stopped.focus, final⟩

variable (login : Login)

theorem guarded_value {σ α : Type} (operation : String) (stage : Act (Scene σ) α) (before after : Scene σ) (value : α)
    (ended : stage.perform before = (.ok value, after)) :
    (login.guarded operation stage).perform before = (.ok value, after) := by
  have run : (stage.run).run before = (.ok value, after) := ended
  rw [guarded]
  simp only [perform_bind, perform_always, run]
  rfl

theorem guarded_failure {σ α : Type} (operation : String) (stage : Act (Scene σ) α) (before after : Scene σ)
    (thrown : Failure) (ended : stage.perform before = (.error thrown, after)) :
    ∃ final, login.Reported operation thrown after.world final ∧
      (login.guarded operation stage).perform before = (.error thrown.asError, ⟨after.focus, final⟩) := by
  have run : (stage.run).run before = (.error thrown, after) := ended
  have logged (about : Incident.About) (severe : (Incident.of thrown.message about).severity = .error) :
      Incident.log scope about (Incident.of thrown.message about) =
        World.record (.logged .error ((Incident.of thrown.message about).line scope about)) := by
    simp only [Incident.log, severe]
  refine ⟨_, rfl, ?_⟩
  rw [guarded]
  simp only [perform_bind, perform_always, run, Incident.report, Scene.inWorld]
  rw [logged _ rfl]
  rfl

theorem run_missing (client : Client) (world : World)
    (absent : client.service? "accessControl" = none ∨ client.service? "system" = none) :
    login.run.perform ⟨client, world⟩ = (.ok .serviceMissing, ⟨client, world⟩) := by
  rw [run]
  simp only [perform_bind, perform_get]
  rcases absent with none | none
  · rw [none]
    rfl
  · rw [none]
    cases client.service? "accessControl" <;> rfl

theorem settle_settled (client : Client) (accessControl system : Service) (woken : World)
    (result : Except Failure Outcome) (settled : Scene Client) (offers : client.Offers accessControl system)
    (settling : (login.settle accessControl system).perform ⟨client.muted, woken⟩ = (result, settled)) :
    login.Settled client.muted accessControl.muted system.muted woken result settled := by
  have known := Client.offers_known (Client.muted_offers client accessControl system offers)
  have performed : login.Settled client.muted accessControl.muted system.muted woken
      ((login.settle accessControl system).perform ⟨client.muted, woken⟩).1
      ((login.settle accessControl system).perform ⟨client.muted, woken⟩).2 :=
    settle_perform login client.muted accessControl.muted system.muted woken (Ne.symm (Client.offers_apart offers))
      known.1 rfl known.2 rfl
  rwa [settling] at performed

theorem run_found (client : Client) (accessControl system : Service) (world : World)
    (offers : client.Offers accessControl system) :
    login.run.perform ⟨client, world⟩ = (login.proceed accessControl system).perform ⟨client.muted, world⟩ := by
  rw [run]
  simp only [perform_bind, perform_get, offers.accessControl, offers.system, changeAll, perform_modify]
  rfl

theorem conclude_ran {client : Client} {accessControl system : Service} {world woken : World} {outcome : Outcome}
    {settled : Scene Client} (offers : client.Offers accessControl system)
    (waking : login.wake.perform world = (.ok (), woken))
    (settling : (login.settle accessControl system).perform ⟨client.muted, woken⟩ = (.ok outcome, settled)) :
    let ended := (login.conclude system outcome).perform settled
    login.Ran client world ended.1 ended.2 := by
  rw [conclude]
  by_cases accepted : outcome = .ok
  · subst accepted
    let ready := ((login.logger.debug "Scalar web device now connected").run settled.world).2
    have logged : World.Logged settled.world ready := logged_write _ .debug _ {} settled.world (by simp)
    have noted : ((Scene.inWorld (login.logger.debug "Scalar web device now connected")).run settled).2 =
        ⟨settled.focus, ready⟩ := rfl
    simp only [if_true, perform_bind, perform_always, noted]
    rcases reading : (login.provision system).perform ⟨settled.focus, ready⟩ with ⟨read, final⟩
    cases read with
    | ok _ =>
        simp only [guarded_value login "postLogin" _ _ _ _ reading]
        exact .connected offers waking settling logged reading
    | error thrown =>
        obtain ⟨world, reported, same⟩ := guarded_failure login "postLogin" _ _ _ _ reading
        simp only [same]
        exact .interrupted offers waking settling logged reading reported
  · simp only [if_neg accepted, perform_bind, perform_always]
    exact .refused offers waking settling accepted (logged_write _ .info _ {} settled.world (by simp))

theorem ran_found (client : Client) (accessControl system : Service) (world : World)
    (offers : client.Offers accessControl system) :
    login.Ran client world (login.run.perform ⟨client, world⟩).1 (login.run.perform ⟨client, world⟩).2 := by
  rw [run_found login client accessControl system world offers, proceed]
  simp only [perform_bind, Scene.onWorld, perform_inside]
  -- Each stage is split by what it came to before the next one is run.
  rcases waking : login.wake.perform world with ⟨woke, woken⟩
  cases woke with
  | error failure => exact .unwoken offers waking
  | ok _ =>
      rcases settling : (login.settle accessControl system).perform ⟨client.muted, woken⟩ with ⟨result, settled⟩
      cases result with
      | error thrown =>
          obtain ⟨final, reported, same⟩ := guarded_failure login "authorize" _ _ _ _ settling
          simp only [same]
          exact .unsettled offers waking settling reported
      | ok outcome =>
          simp only [guarded_value login "authorize" _ _ _ _ settling]
          exact conclude_ran login offers waking settling

theorem run_ran (client : Client) (world : World) :
    login.Ran client world (login.run.perform ⟨client, world⟩).1 (login.run.perform ⟨client, world⟩).2 := by
  cases foundAccess : client.service? "accessControl" with
  | none =>
      rw [run_missing login client world (.inl foundAccess)]
      exact .missing (.inl foundAccess)
  | some accessControl =>
      cases foundSystem : client.service? "system" with
      | none =>
          rw [run_missing login client world (.inr foundSystem)]
          exact .missing (.inr foundSystem)
      | some system => exact ran_found login client accessControl system world ⟨foundAccess, foundSystem⟩

end Login

end DeviceLogin
