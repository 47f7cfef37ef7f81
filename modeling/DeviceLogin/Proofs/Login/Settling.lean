import DeviceLogin.Proofs.Login.Course

set_option autoImplicit false

namespace DeviceLogin

open Act

def Credentials.Fresh (credentials : Credentials) : Prop := credentials.key? = none ∧ credentials.jar = none

namespace Credentials

theorem key_taken_back (credentials : Credentials) (key : String) (fresh : credentials.Fresh) :
    (credentials.withHeader keyHeader key).withoutHeader keyHeader = credentials := by
  simp only [withHeader, withoutHeader, Ordered.erase_put, Ordered.erase_absent _ _ fresh.1]

theorem jar_taken_back (credentials : Credentials) (jar : Nat) (fresh : credentials.Fresh) :
    (credentials.withJar jar).withoutJar = credentials := by
  obtain ⟨autoAuth, headers, held⟩ := credentials
  have none : held = none := fresh.2
  rw [none]
  rfl

theorem jar_missing (credentials : Credentials) (fresh : credentials.Fresh) : credentials.withoutJar = credentials :=
  jar_taken_back credentials 0 fresh

end Credentials

-- A key or a jar that the channel had before may be gone; without one the channel is as it was.
structure Service.Restored (before after : Service) : Prop where
  named : after.name = before.name
  muted : after.channel.Muted
  taken : before.channel.credentials.Fresh → after.channel = before.channel

theorem restored_trans {first middle last : Service} (early : Service.Restored first middle)
    (late : Service.Restored middle last) : Service.Restored first last := by
  refine ⟨late.named.trans early.named, late.muted, fun fresh => ?_⟩
  have kept := early.taken fresh
  exact (late.taken (by rw [kept]; exact fresh)).trans kept

namespace Pairing

theorem request_answered (service : Service) (clientId : String) (jar : Nat) (parent : Logger) (pin : Option String)
    {world : World} {response : Http.Response} {after : Scene Channel}
    (sent : (Channel.send (message clientId) (headers pin)).perform ⟨(service.carrying (·.withJar jar)).channel, world⟩ =
      (.ok response, after)) :
    ∃ told, World.Logged after.world told ∧
      (request clientId jar parent pin).perform ⟨service, world⟩ =
        (.ok (judge pin (Reply.ofResponse response)).1,
          ⟨({ service with channel := after.focus }).carrying Credentials.withoutJar, told⟩) := by
  have ended : (Act.ensuring (Service.onChannel (Channel.send (message clientId) (headers pin)))
        (Scene.change (Service.changeChannel (Channel.change Credentials.withoutJar)))).perform
          (Scene.change (Service.changeChannel (Channel.change (·.withJar jar))) ⟨service, world⟩) =
      (.ok response, ⟨({ service with channel := after.focus }).carrying Credentials.withoutJar, after.world⟩) := by
    simp only [Service.carrying, Service.changeChannel] at sent
    simp only [perform_ensuring, Service.onChannel, Scene.zoom, perform_inside, Scene.change, Service.changeChannel, sent,
      Service.carrying]
  rcases judged : judge pin (Reply.ofResponse response) with ⟨outcome, line⟩
  rw [request]
  simp only [perform_bind, perform_modify, ended, judged]
  cases line with
  | none => exact ⟨after.world, logged_refl _, rfl⟩
  | some line => exact ⟨_, logged_write _ .info line {} after.world (by simp), rfl⟩

end Pairing

namespace Login

variable (login : Login) (client : Client) (accessControl system : Service) (world : World)

theorem attempt_perform (put back : Credentials → Credentials) (service : Service) (world : World) :
    ∃ probed, Probe.Probed login.refusals ⟨service.carrying put, world⟩
        ((Authorization.attempt put back (Probe.run login.refusals)).perform ⟨service, world⟩).1 probed ∧
      ((Authorization.attempt put back (Probe.run login.refusals)).perform ⟨service, world⟩).2 =
        ⟨probed.focus.carrying back, probed.world⟩ := by
  refine ⟨_, Probe.probed_run login.refusals ⟨service.carrying put, world⟩, rfl⟩

theorem try_key_perform (parent : Logger) :
    let tried := (Authorization.tryKey login.settings.code? parent (Probe.run login.refusals)).perform ⟨system, world⟩
    ((∀ key, ¬ login.settings.HasKey key) ∧ tried = (.ok false, ⟨system, world⟩)) ∨
      ∃ key result, login.settings.HasKey key ∧
        login.TriedKey key system world result tried.2.focus tried.2.world ∧
        tried.1 = result.map (· == .ok) := by
  cases found : Authorization.key? login.settings.code? with
  | none =>
      refine .inl ⟨no_key login.settings found, ?_⟩
      rw [Authorization.tryKey, found]
      rfl
  | some key =>
      refine .inr ⟨key, ((Authorization.attempt (·.withHeader keyHeader key) (·.withoutHeader keyHeader)
        (Probe.run login.refusals)).perform ⟨system, world⟩).1, (key_iff login.settings key).mp found, ?_⟩
      obtain ⟨probed, asked, ended⟩ := attempt_perform login (·.withHeader keyHeader key) (·.withoutHeader keyHeader)
        system world
      rw [Authorization.tryKey, found]
      simp only [perform_bind]
      rcases attempted : (Authorization.attempt (·.withHeader keyHeader key) (·.withoutHeader keyHeader)
        (Probe.run login.refusals)).perform ⟨system, world⟩ with ⟨result, after⟩
      rw [attempted] at asked ended
      dsimp only at ended
      subst ended
      cases result with
      | error failure => exact ⟨.mk asked (logged_refl _), rfl⟩
      | ok outcome => exact ⟨.mk asked (logged_write _ .debug _ {} _ (by simp)), rfl⟩

theorem try_cookies_perform (logger : Logger) (service : Service) (world : World) :
    let tried := (Authorization.tryCookies login.jar logger (Probe.run login.refusals)).perform ⟨service, world⟩
    login.TriedCookies service world tried.1 tried.2.focus tried.2.world := by
  obtain ⟨probed, asked, ended⟩ := attempt_perform login (·.withJar login.jar) Credentials.withoutJar service world
  rw [Authorization.tryCookies]
  simp only [perform_bind]
  rcases attempted : (Authorization.attempt (·.withJar login.jar) Credentials.withoutJar
    (Probe.run login.refusals)).perform ⟨service, world⟩ with ⟨result, after⟩
  rw [attempted] at asked ended
  dsimp only at ended
  subst ended
  cases result with
  | error failure => exact .mk asked (logged_refl _)
  | ok outcome =>
      dsimp only
      split
      · exact .mk asked (logged_write _ .debug _ {} _ (by simp))
      · exact .mk asked (logged_refl _)

theorem request_perform (muted : accessControl.channel.Muted) (pin : Option String) :
    ∃ outcome after, (Pairing.request login.settings.client login.jar login.logger pin).perform ⟨accessControl, world⟩ =
        (.ok outcome, ⟨accessControl.carrying Credentials.withoutJar, after⟩) ∧
      ∃ response posted, ((accessControl.carrying (·.withJar login.jar)).channel.post
          (Pairing.message login.settings.client) (Pairing.headers pin)).run world = (response, posted) ∧
        Pairing.Registered pin (Reply.ofResponse response) outcome ∧ World.Logged posted after := by
  have quiet : (accessControl.carrying (·.withJar login.jar)).channel.Muted := muted
  obtain ⟨told, logged, ended⟩ := Pairing.request_answered accessControl login.settings.client login.jar login.logger pin
    (send_muted _ (Pairing.message login.settings.client) (Pairing.headers pin) world quiet)
  exact ⟨_, told, ended, _, _, rfl, Pairing.registered_judge pin _, logged⟩

theorem tried_logged {put back : Credentials → Credentials} {service probed : Service} {before after later : World}
    {result : Except Failure Outcome} (tried : login.Attempted put back service before result probed after)
    (logged : World.Logged after later) : login.Attempted put back service before result probed later := by
  obtain ⟨asked, first⟩ := tried
  exact .mk asked (logged_trans first logged)

theorem tried_service {put back : Credentials → Credentials} {service probed : Service} {before after : World}
    {result : Except Failure Outcome} (tried : login.Attempted put back service before result probed after)
    (muted : (service.carrying put).channel.Muted) : ∃ number, probed = { (service.carrying put).carrying back with lastId := number } := by
  obtain ⟨asked, _⟩ := tried
  obtain ⟨number, same⟩ := (Probe.probed_around _ _ _ _ _ muted asked).1.same
  exact ⟨number, by rw [same]; rfl⟩

theorem tried_restored {put back : Credentials → Credentials} {service probed : Service} {before after : World}
    {result : Except Failure Outcome} (tried : login.Attempted put back service before result probed after)
    (muted : service.channel.Muted) (quiet : ∀ credentials, (put credentials).autoAuth = credentials.autoAuth)
    (still : ∀ credentials, (back credentials).autoAuth = credentials.autoAuth)
    (taken : ∀ credentials : Credentials, credentials.Fresh → back (put credentials) = credentials) :
    service.Restored probed := by
  have silent : (service.carrying put).channel.Muted := (quiet service.channel.credentials).trans muted
  obtain ⟨number, rfl⟩ := tried_service login tried silent
  refine ⟨rfl, (still _).trans silent, fun fresh => ?_⟩
  simp only [Service.carrying, Service.changeChannel, Channel.change, taken _ fresh]

theorem tried_key_restored {key : String} {service probed : Service} {before after : World}
    {result : Except Failure Outcome} (tried : login.TriedKey key service before result probed after)
    (muted : service.channel.Muted) : service.Restored probed :=
  tried_restored login tried muted (fun _ => rfl) (fun _ => rfl) fun credentials => credentials.key_taken_back key

theorem tried_cookies_restored {service probed : Service} {before after : World} {result : Except Failure Outcome}
    (tried : login.TriedCookies service before result probed after) (muted : service.channel.Muted) :
    service.Restored probed :=
  tried_restored login tried muted (fun _ => rfl) (fun _ => rfl) fun credentials => credentials.jar_taken_back login.jar

theorem without_key_restored {keyless : Service} {after : World}
    (without : login.WithoutKey system world keyless after) (muted : system.channel.Muted) : system.Restored keyless := by
  cases without with
  | unusable none => exact ⟨rfl, muted, fun _ => rfl⟩
  | rejected usable tried refused => exact tried_key_restored login tried muted

theorem both_restored {keyless probed : Service} {middle after : World} {result : Except Failure Outcome}
    (without : login.WithoutKey system world keyless middle)
    (tried : login.TriedCookies keyless middle result probed after) (muted : system.channel.Muted) :
    system.Restored probed := by
  have early := without_key_restored login system world without muted
  exact restored_trans early (tried_cookies_restored login tried early.muted)

theorem checked_restored {result : Except Failure Verdict} {probed : Service} {after : World}
    (checked : login.Checked system world result probed after) (muted : system.channel.Muted) : system.Restored probed := by
  cases checked with
  | keyFailed usable tried => exact tried_key_restored login tried muted
  | byKey usable tried => exact tried_key_restored login tried muted
  | cookiesFailed without tried => exact both_restored login system world without tried muted
  | byCookies without tried => exact both_restored login system world without tried muted
  | refused without tried refused => exact both_restored login system world without tried muted

theorem cookies_checked (logger : Logger) (before : Scene Service)
    (without : login.WithoutKey system world before.focus before.world) :
    let checked := (Authorization.tryCookies login.jar logger (Probe.run login.refusals) >>= fun outcome =>
      if outcome = .ok then pure Verdict.byCookie else pure (Verdict.none outcome) : Act (Scene Service) Verdict).perform before
    login.Checked system world checked.1 checked.2.focus checked.2.world := by
  obtain ⟨keyless, middle⟩ := before
  have tried := try_cookies_perform login logger keyless middle
  dsimp only at tried ⊢
  rw [perform_bind]
  rcases ended : (Authorization.tryCookies login.jar logger (Probe.run login.refusals)).perform ⟨keyless, middle⟩ with ⟨result, after⟩
  rw [ended] at tried
  cases result with
  | error failure => exact .cookiesFailed without tried
  | ok outcome =>
      dsimp only
      by_cases accepted : outcome = .ok
      · subst accepted
        exact .byCookies without tried
      · rw [if_neg accepted]
        exact .refused without tried accepted

theorem check_perform :
    let checked := (Authorization.check login.settings.code? login.jar login.logger (Probe.run login.refusals)).perform
      ⟨system, world⟩
    login.Checked system world checked.1 checked.2.focus checked.2.world := by
  rw [Authorization.check]
  simp only [perform_bind]
  have first := try_key_perform login system world (login.logger.child (.about "Auth"))
  rcases tried : (Authorization.tryKey login.settings.code? (login.logger.child (.about "Auth"))
    (Probe.run login.refusals)).perform ⟨system, world⟩ with ⟨accepted, keyless⟩
  rw [tried] at first
  -- Without a usable code the cookies are tried at once, else only if the key was not accepted.
  rcases first with ⟨unusable, same⟩ | ⟨key, result, usable, attempted, judged⟩
  · obtain ⟨rfl, rfl⟩ := Prod.mk.inj same
    exact cookies_checked login system world _ ⟨system, world⟩ (.unusable unusable)
  · cases result with
    | error failure =>
        cases judged
        exact .keyFailed usable attempted
    | ok outcome =>
        cases judged
        by_cases sound : outcome = .ok
        · subst sound
          exact .byKey usable attempted
        · have wrong : (outcome == Outcome.ok) = false := by simpa using sound
          simp only [wrong]
          exact cookies_checked login system world _ keyless (.rejected usable attempted sound)

theorem pair_perform {given probed : Service} {asking : World}
    (checked : login.Checked system world (.ok (.none .needsPairing)) probed asking)
    (known : (client.replace probed).service? given.name = some accessControl) (muted : accessControl.channel.Muted) :
    let settled := (login.pair given).perform ⟨client.replace probed, asking⟩
    login.Settled client accessControl system world settled.1 settled.2 := by
  rw [pair]
  cases present : Text.present? login.settings.code? with
  | none => exact .blank checked (no_code login.settings present)
  | some code =>
      have given := (present_iff login.settings code).mp present
      have requests : login.settings.requestsPin = Settings.isRequest code := by simp [Settings.requestsPin, given.1]
      obtain ⟨outcome, after, requested, response, posted, asked, registered, logged⟩ :=
        request_perform login accessControl asking muted (if Settings.isRequest code then none else some code)
      have answered : login.Paired accessControl asking code outcome after := .mk rfl asked registered logged
      simp only [requests, perform_bind, Client.on_service_perform _ _ _ _ _ known, requested]
      by_cases accepted : outcome = .ok
      · subst accepted
        exact .paired checked given answered
      · simp only [if_neg accepted]
        exact .unpaired checked given answered accepted

theorem authorize_perform {given : Service} {verdict : Verdict} {probed : Service} {asking : World}
    (checked : login.Checked system world (.ok verdict) probed asking)
    (known : (client.replace probed).service? given.name = some accessControl) (muted : accessControl.channel.Muted) :
    let settled := (login.authorize given verdict).perform ⟨client.replace probed, asking⟩
    login.Settled client accessControl system world settled.1 settled.2 := by
  cases verdict with
  | byKey =>
      cases checked with
      | byKey usable tried =>
          have present := (present_iff login.settings _).mpr usable.1
          simp only [authorize, present]
          exact .byKey usable (.byKey usable tried)
  | byCookie => exact .byCookies checked
  | none outcome =>
      by_cases pairing : outcome = .needsPairing
      · subst pairing
        exact pair_perform login client accessControl system world checked known muted
      · have ended : login.authorize given (.none outcome) = pure outcome := by
          unfold authorize
          split <;> simp_all
        rw [ended]
        exact .stopped checked pairing

theorem checked_logged {verdict : Except Failure Verdict} {probed : Service} {after later : World}
    (checked : login.Checked system world verdict probed after) (logged : World.Logged after later) :
    login.Checked system world verdict probed later := by
  cases checked with
  | keyFailed usable tried => exact .keyFailed usable (tried_logged login tried logged)
  | byKey usable tried => exact .byKey usable (tried_logged login tried logged)
  | cookiesFailed without tried => exact .cookiesFailed without (tried_logged login tried logged)
  | byCookies without tried => exact .byCookies without (tried_logged login tried logged)
  | refused without tried refused => exact .refused without (tried_logged login tried logged) refused

theorem settle_perform {givenAccess givenSystem : Service} (apart : givenSystem.name ≠ givenAccess.name)
    (knownAccess : client.service? givenAccess.name = some accessControl) (mutedAccess : accessControl.channel.Muted)
    (knownSystem : client.service? givenSystem.name = some system) (mutedSystem : system.channel.Muted) :
    let settled := (login.settle givenAccess givenSystem).perform ⟨client, world⟩
    login.Settled client accessControl system world settled.1 settled.2 := by
  have checked := check_perform login system world
  rw [settle]
  simp only [perform_bind, Client.on_service_perform _ _ _ _ _ knownSystem]
  rcases ended : (Authorization.check login.settings.code? login.jar login.logger (Probe.run login.refusals)).perform
    ⟨system, world⟩ with ⟨result, ⟨probed, asking⟩⟩
  rw [ended] at checked
  cases result with
  | error failure => exact .failed checked
  | ok verdict =>
      have named : probed.name = givenSystem.name :=
        (checked_restored login system world checked mutedSystem).named.trans (Client.service_named client _ _ knownSystem)
      have known : (client.replace probed).service? givenAccess.name = some accessControl := by
        rw [Client.service_replaced, if_neg (named ▸ apart), knownAccess]
      exact authorize_perform login client accessControl system world
        (checked_logged login system world checked (logged_write _ .debug _ {} asking (by simp))) known mutedAccess

inductive Granted (login : Login) (accessControl system : Service) (world : World) :
    Except Failure Outcome → (Credentials → Credentials) → Prop
  | key {key : String} {probed : Service} {after : World} (usable : login.settings.HasKey key)
      (tried : login.TriedKey key system world (.ok .ok) probed after) :
      Granted login accessControl system world (.ok .ok) (·.withHeader keyHeader key)
  | cookies {keyless probed : Service} {middle after : World} (without : login.WithoutKey system world keyless middle)
      (tried : login.TriedCookies keyless middle (.ok .ok) probed after) :
      Granted login accessControl system world (.ok .ok) (·.withJar login.jar)
  | paired {code : String} {probed : Service} {asking after : World}
      (checked : login.Checked system world (.ok (.none .needsPairing)) probed asking)
      (given : login.settings.HasCode code) (accepted : login.Paired accessControl asking code .ok after) :
      Granted login accessControl system world (.ok .ok) (·.withJar login.jar)
  | nothing {result : Except Failure Outcome} (outside : result ≠ .ok .ok) :
      Granted login accessControl system world result id

structure Kept (client : Client) (accessControl system probed : Service) (kept : Client) : Prop where
  known : kept.service? system.name = some probed
  restored : system.Restored probed
  channels : accessControl.channel.credentials.Fresh → system.channel.credentials.Fresh →
    kept.channels = client.channels

theorem checked_kept {result : Except Failure Verdict} {probed : Service} {after : World}
    (checked : login.Checked system world result probed after) (muted : system.channel.Muted)
    (known : client.service? system.name = some system) :
    Kept client accessControl system probed (client.replace probed) := by
  have restored := checked_restored login system world checked muted
  refine ⟨?_, restored, fun _ fresh => ?_⟩
  · rw [Client.service_replaced, if_pos restored.named, known]
    rfl
  · exact Client.channels_replaced client system probed (by rw [restored.named, known]) (restored.taken fresh)

theorem paired_kept {probed : Service} {middle : Client} (kept : Kept client accessControl system probed middle)
    (apart : accessControl.name ≠ system.name) (known : middle.service? accessControl.name = some accessControl) :
    Kept client accessControl system probed (middle.replace (accessControl.carrying Credentials.withoutJar)) := by
  refine ⟨?_, kept.restored, fun fresh calm => ?_⟩
  · rw [Client.service_replaced]
    exact (if_neg apart).trans kept.known
  · have same : (accessControl.carrying Credentials.withoutJar).channel = accessControl.channel := by
      simp only [Service.carrying, Service.changeChannel, Channel.change, Credentials.jar_missing _ fresh]
    exact (Client.channels_replaced middle accessControl (accessControl.carrying Credentials.withoutJar) known same).trans
      (kept.channels fresh calm)

theorem checked_refused {outcome : Outcome} {probed : Service} {after : World}
    (checked : login.Checked system world (.ok (.none outcome)) probed after) : outcome ≠ .ok := by
  cases checked with
  | refused without tried refused => exact refused

theorem has_code_unique {settings : Settings} {code other : String} (one : settings.HasCode code)
    (two : settings.HasCode other) : code = other :=
  Option.some.inj (one.1.symm.trans two.1)

theorem checked_key {key : String} {probed : Service} {after : World} (usable : login.settings.HasKey key)
    (checked : login.Checked system world (.ok .byKey) probed after) :
    ∃ probed after, login.TriedKey key system world (.ok .ok) probed after := by
  cases checked with
  | @byKey other _ _ given tried =>
      obtain rfl : key = other := has_code_unique usable.1 given.1
      exact ⟨probed, after, tried⟩

theorem checked_cookies {probed : Service} {after : World}
    (checked : login.Checked system world (.ok .byCookie) probed after) :
    ∃ keyless middle, login.WithoutKey system world keyless middle ∧
      login.TriedCookies keyless middle (.ok .ok) probed after := by
  cases checked with
  | byCookies without tried => exact ⟨_, _, without, tried⟩

theorem settled_kept {result : Except Failure Outcome} {settled : Scene Client}
    (settling : login.Settled client accessControl system world result settled) (muted : system.channel.Muted)
    (apart : accessControl.name ≠ system.name) (knownAccess : client.service? accessControl.name = some accessControl)
    (knownSystem : client.service? system.name = some system) :
    ∃ grant probed kept, login.Granted accessControl system world result grant ∧ Kept client accessControl system probed kept ∧
      settled.focus = granting grant kept := by
  have plain (kept : Client) : kept = granting id kept := (Client.changed_id kept).symm
  have still {result : Except Failure Verdict} {probed : Service} {after : World}
      (checked : login.Checked system world result probed after) :
      (client.replace probed).service? accessControl.name = some accessControl := by
    rw [Client.service_replaced, (checked_restored login system world checked muted).named, if_neg (Ne.symm apart), knownAccess]
  have kept {result : Except Failure Verdict} {probed : Service} {after : World}
      (checked : login.Checked system world result probed after) :
      Kept client accessControl system probed (client.replace probed) :=
    checked_kept login client accessControl system world checked muted knownSystem
  cases settling with
  | failed checked =>
      exact ⟨id, _, _, .nothing (by simp), kept checked, plain _⟩
  | byKey usable checked =>
      obtain ⟨probed, after, tried⟩ := checked_key login system world usable checked
      exact ⟨_, _, _, .key usable tried, kept checked, rfl⟩
  | byCookies checked =>
      obtain ⟨keyless, middle, without, tried⟩ := checked_cookies login system world checked
      exact ⟨_, _, _, .cookies without tried, kept checked, rfl⟩
  | stopped checked final =>
      have refused := checked_refused login system world checked
      exact ⟨id, _, _, .nothing (by simpa using refused), kept checked, plain _⟩
  | blank checked none =>
      exact ⟨id, _, _, .nothing (by simp), kept checked, plain _⟩
  | paired checked given accepted =>
      exact ⟨_, _, _, .paired checked given accepted, paired_kept client accessControl system (kept checked) apart (still checked), rfl⟩
  | unpaired checked given answered refused =>
      have answer := paired_kept client accessControl system (kept checked) apart (still checked)
      exact ⟨id, _, _, .nothing (by simpa using refused), answer, plain _⟩

end Login

end DeviceLogin
