import DeviceLogin.Proofs.Pairing.Registration

set_option autoImplicit false

namespace DeviceLogin

open Act

-- A client with fresh channels, of which the two that a login needs reach the device.
structure Client.Ready (client : Client) (sender : Http.Sender) (accessControl system : Service) : Prop where
  offers : client.Offers accessControl system
  bare : client.AllBare
  clear : (∃ url, accessControl.channel.Open sender url) ∧ ∃ url, system.channel.Open sender url
  probes : system.Probes

def Waker.Works (waker : Waker) : Prop := ∀ answer, waker = .supplied answer → ∀ ip mac, answer ip mac = none

namespace Login

inductive Served (login : Login) (path pin value : String) (world : World) : Outcome → World → Prop
  | admitted {after : World} (held : world.Holds login.jar value) (kept : World.Keeping login.jar path world after) :
      Served login path pin value world .ok after
  | denied {outcome : Outcome} {after : World} (unheld : ¬ world.Holds login.jar value)
      (unfit : ¬ login.settings.HasKey pin) (steady : World.Steady login.jar path world after)
      (still : ¬ after.Holds login.jar value) (refused : outcome ≠ .ok)
      (pending : ∀ code, login.settings.HasCode code → Settings.isRequest code = true → outcome = .pending) :
      Served login path pin value world outcome after
  | enrolled {asking after : World} (unheld : ¬ world.Holds login.jar value) (given : login.settings.HasKey pin)
      (kept : World.Keeping login.jar path world asking) (enrolled : World.Enrolled login.jar path value asking after) :
      Served login path pin value world .ok after

structure Fit (login : Login) (client : Client) (sender : Http.Sender) (accessControl system : Service) : Prop where
  ready : client.Ready sender accessControl system
  welcome : login.refusals.Open
  wakes : login.waker.Works

variable {login : Login} {client : Client} {accessControl system : Service} {path pin value : String} {world : World}

theorem paired_served {code : String} {outcome : Outcome} {asking after : World} (fit : accessControl.channel.Fit world.sender)
    (plain : ';' ∉ value.toList) (serves : world.Serves login.jar path pin value) (unheld : ¬ world.Holds login.jar value)
    (kept : World.Keeping login.jar path world asking) (given : login.settings.HasCode code)
    (paired : login.Paired accessControl asking code outcome after) :
    login.Served path pin value world outcome after := by
  have asked := World.serves_steady serves kept.toSteady
  have still : accessControl.channel.Fit asking.sender := kept.sender.symm ▸ fit
  have bare : ¬ asking.Holds login.jar value := (World.holds_keeping kept).not.mpr unheld
  by_cases taken : code = pin ∧ Settings.isRequest code = false
  · obtain ⟨rfl, plainCode⟩ := taken
    obtain ⟨rfl, enrolled⟩ := paired_taken asked still plain bare plainCode paired
    exact .enrolled unheld ⟨given, plainCode⟩ kept enrolled
  · have other : Settings.isRequest code = true ∨ code ≠ pin := by
      rw [← Bool.not_eq_false, or_comm]
      exact Decidable.not_and_iff_or_not.mp taken
    obtain ⟨steady, same, refused, pending⟩ := paired_denied asked still other paired
    refine .denied unheld ?_ (World.steady_trans kept.toSteady steady) (same.not.mpr bare) refused ?_
    · rintro ⟨held, key⟩
      obtain rfl := has_code_unique given held
      exact taken ⟨rfl, key⟩
    · intro other held asks
      obtain rfl := has_code_unique given held
      exact pending asks

theorem settled_served {result : Except Failure Outcome} {settled : Scene Client} (fitAccess : accessControl.channel.Fit world.sender)
    (fitSystem : system.channel.Fit world.sender) (probes : system.Probes) (welcome : login.refusals.Open) (plain : ';' ∉ value.toList)
    (serves : world.Serves login.jar path pin value)
    (settling : login.Settled client accessControl system world result settled) :
    ∃ outcome, result = .ok outcome ∧ login.Served path pin value world outcome settled.world := by
  -- The check decides between the cookie and the registration; no other way is open.
  have found {verdict : Except Failure Verdict} {probed : Service} {after : World}
      (checked : login.Checked system world verdict probed after) :
      World.Keeping login.jar path world after ∧ (world.Holds login.jar value ∧ verdict = .ok .byCookie ∨
        ¬ world.Holds login.jar value ∧ verdict = .ok (.none .needsPairing)) := by
    obtain ⟨kept, allowed, denied⟩ := checked_served welcome serves fitSystem probes checked
    by_cases held : world.Holds login.jar value
    · exact ⟨kept, .inl ⟨held, allowed held⟩⟩
    · exact ⟨kept, .inr ⟨held, denied held⟩⟩
  cases settling with
  | failed checked =>
      obtain ⟨kept, ⟨held, same⟩ | ⟨unheld, same⟩⟩ := found checked
      · cases same
      · cases same
  | byKey usable checked =>
      obtain ⟨kept, ⟨held, same⟩ | ⟨unheld, same⟩⟩ := found checked
      · cases same
      · cases same
  | byCookies checked =>
      obtain ⟨kept, ⟨held, same⟩ | ⟨unheld, same⟩⟩ := found checked
      · exact ⟨.ok, rfl, .admitted held kept⟩
      · cases same
  | stopped checked final =>
      obtain ⟨kept, ⟨held, same⟩ | ⟨unheld, same⟩⟩ := found checked
      · cases same
      · cases same
        exact absurd rfl final
  | blank checked none =>
      obtain ⟨kept, ⟨held, same⟩ | ⟨unheld, same⟩⟩ := found checked
      · cases same
      · refine ⟨_, rfl, .denied unheld (fun key => none pin key.1) kept.toSteady ((World.holds_keeping kept).not.mpr unheld)
          (by simp) fun code given => absurd given (none code)⟩
  | paired checked given accepted =>
      obtain ⟨kept, ⟨held, same⟩ | ⟨unheld, same⟩⟩ := found checked
      · cases same
      · exact ⟨.ok, rfl, paired_served fitAccess plain serves unheld kept given accepted⟩
  | unpaired checked given answered refused =>
      obtain ⟨kept, ⟨held, same⟩ | ⟨unheld, same⟩⟩ := found checked
      · cases same
      · exact ⟨_, rfl, paired_served fitAccess plain serves unheld kept given answered⟩

theorem served_steady {outcome : Outcome} {after : World} (served : login.Served path pin value world outcome after) :
    World.Steady login.jar path world after := by
  cases served with
  | admitted held kept => exact kept.toSteady
  | denied unheld unfit steady still refused pending => exact steady
  | enrolled unheld given kept enrolled => exact World.steady_trans kept.toSteady enrolled.toSteady

theorem waking_served (wakes : login.waker.Works) (serves : world.Serves login.jar path pin value)
    {result : Except Failure Unit} {woken : World} (waking : login.wake.perform world = (result, woken)) :
    result = .ok () ∧ World.Keeping login.jar path world woken := by
  obtain ⟨beside, failing⟩ := wake_beside login world world (World.beside_refl world)
  rw [waking] at beside failing
  refine ⟨?_, World.keeping_quiet serves.backs serves.sound beside.device beside.sender
    (congrArg Traffic.asked beside.traffic) (congrArg Traffic.jars beside.traffic) (congrArg Files.contents beside.files)
    (congrArg Files.folders beside.files) (congrArg Files.fault beside.files) beside.refusals⟩
  cases result with
  | ok _ => rfl
  | error failure =>
      obtain ⟨answer, supplied, answered⟩ := failing failure rfl
      rw [wakes answer supplied] at answered
      exact nomatch answered

theorem granted_jarred {result : Except Failure Outcome} {grant : Credentials → Credentials} {woken : World}
    (granted : login.Granted accessControl system woken result grant) (credentials : Credentials)
    (bare : credentials.jar = none) :
    (grant credentials).jar = none ∨ (grant credentials).jar = some login.jar := by
  cases granted with
  | key usable tried => exact .inl bare
  | cookies without tried => exact .inr rfl
  | paired checked given accepted => exact .inr rfl
  | nothing outside => exact .inl bare

theorem muted_fit {sender : Http.Sender} (ready : client.Ready sender accessControl system) :
    accessControl.muted.channel.Fit sender ∧ system.muted.channel.Fit sender := by
  obtain ⟨⟨url, clear⟩, ⟨address, usable⟩⟩ := ready.clear
  refine ⟨⟨rfl, ⟨url, clear.read, clear.path, clear.timed⟩, ?_⟩, ⟨rfl, ⟨address, usable.read, usable.path, usable.timed⟩, ?_⟩⟩
  · exact ready.bare accessControl.channel (Client.channel_mem client _ _ ready.offers.accessControl)
  · exact ready.bare system.channel (Client.channel_mem client _ _ ready.offers.system)

theorem settling_served (fit : login.Fit client world.sender accessControl system) (plain : ';' ∉ value.toList)
    (serves : world.Serves login.jar path pin value) {result : Except Failure Outcome} {settled : Scene Client}
    (settling : (login.settle accessControl system).perform ⟨client.muted, world⟩ = (result, settled)) :
    ∃ outcome, result = .ok outcome ∧ login.Served path pin value world outcome settled.world := by
  obtain ⟨fitAccess, fitSystem⟩ := muted_fit fit.ready
  have course := settle_settled login client accessControl system world result settled fit.ready.offers settling
  exact settled_served fitAccess fitSystem fit.ready.probes fit.welcome plain serves course

theorem reading_served (fit : login.Fit client world.sender accessControl system) (plain : ';' ∉ value.toList)
    (serves : world.Serves login.jar path pin value) {ready : World} {settled final : Scene Client}
    {result : Except Failure Unit}
    (settling : (login.settle accessControl system).perform ⟨client.muted, world⟩ = (.ok .ok, settled))
    (logged : World.Logged settled.world ready)
    (reading : (login.provision system).perform ⟨settled.focus, ready⟩ = (result, final)) :
    World.Keeping login.jar path settled.world final.world ∧ result = .ok () := by
  obtain ⟨outcome, -, served⟩ := settling_served fit plain serves settling
  have noted := World.logged_kept (served_steady served) logged
  have later := World.serves_steady serves (World.steady_trans (served_steady served) noted.toSteady)
  obtain ⟨grant, probed, kept, granted, same, focus⟩ :=
    settled_granted login client accessControl system fit.ready.offers settling
  obtain ⟨known, muted⟩ := granted_system login granted same
  have bare := (muted_fit fit.ready).2.bare
  have fresh : probed.channel.credentials.jar = none := by
    rw [same.restored.taken (fresh_of_bare bare)]
    exact bare.2
  have jarred := granted_jarred granted probed.channel.credentials fresh
  have steps : Provisioning.Kept login.refusals (probed.carrying grant) (World.Keeping login.jar path ready)
      fun _ _ => False :=
    readings_keeping login.refusals fit.welcome (probed.carrying grant) jarred later.pairs later.delivers later.calm
  obtain ⟨-, after, failing⟩ := provision_keeps login (granting grant kept) ready system (probed.carrying grant) known muted
    steps (World.keeping_refl later.backs later.sound)
  rw [← focus, reading] at after failing
  refine ⟨World.keeping_trans noted after, ?_⟩
  cases result with
  | ok _ => rfl
  | error thrown => exact (failing thrown rfl).elim

theorem run_served (fit : login.Fit client world.sender accessControl system) (plain : ';' ∉ value.toList)
    (serves : world.Serves login.jar path pin value) :
    ∃ woken outcome settled final, login.run.perform ⟨client, world⟩ = (.ok outcome, final) ∧
      World.Keeping login.jar path world woken ∧ login.Served path pin value woken outcome settled ∧
      World.Keeping login.jar path settled final.world := by
  have ran := run_ran login client world
  rcases ended : login.run.perform ⟨client, world⟩ with ⟨result, final⟩
  rw [ended] at ran
  have waked {woke : Except Failure Unit} {woken : World} (waking : login.wake.perform world = (woke, woken)) :
      woke = .ok () ∧ World.Keeping login.jar path world woken ∧ woken.Serves login.jar path pin value ∧
        login.Fit client woken.sender accessControl system := by
    obtain ⟨done, kept⟩ := waking_served fit.wakes serves waking
    exact ⟨done, kept, World.serves_steady serves kept.toSteady, kept.sender.symm ▸ fit⟩
  cases ran with
  | missing absent => simp [fit.ready.offers.accessControl, fit.ready.offers.system] at absent
  | unwoken _ waking => cases (waked waking).1
  | unsettled given waking settling reported =>
      obtain ⟨rfl, rfl⟩ := Client.offers_unique fit.ready.offers given
      obtain ⟨-, -, awake, fit⟩ := waked waking
      obtain ⟨outcome, same, -⟩ := settling_served fit plain awake settling
      cases same
  | refused given waking settling refused logged =>
      obtain ⟨rfl, rfl⟩ := Client.offers_unique fit.ready.offers given
      obtain ⟨-, kept, awake, fit⟩ := waked waking
      obtain ⟨outcome, same, served⟩ := settling_served fit plain awake settling
      cases same
      exact ⟨_, _, _, _, rfl, kept, served, World.logged_kept (served_steady served) logged⟩
  | connected given waking settling logged reading =>
      obtain ⟨rfl, rfl⟩ := Client.offers_unique fit.ready.offers given
      obtain ⟨-, kept, awake, fit⟩ := waked waking
      obtain ⟨outcome, same, served⟩ := settling_served fit plain awake settling
      cases same
      exact ⟨_, _, _, _, rfl, kept, served, (reading_served fit plain awake settling logged reading).1⟩
  | interrupted given waking settling logged reading reported =>
      obtain ⟨rfl, rfl⟩ := Client.offers_unique fit.ready.offers given
      obtain ⟨-, -, awake, fit⟩ := waked waking
      cases (reading_served fit plain awake settling logged reading).2

end Login

end DeviceLogin
