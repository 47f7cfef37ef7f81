import DeviceLogin.Proofs.Login.Running

set_option autoImplicit false

namespace DeviceLogin

open Act

namespace Login

def KeyProbe (login : Login) (system : Service) (traffic : Traffic) (sent : Sent) : Prop :=
  ∃ key, login.settings.HasKey key ∧ Sent.Over (system.carrying (·.withHeader keyHeader key)).channel Probe.IsCall traffic sent

def CookieProbe (login : Login) (system : Service) : Traffic → Sent → Prop :=
  Sent.Over (system.carrying (·.withJar login.jar)).channel Probe.IsCall

def Registration (login : Login) (accessControl : Service) (traffic : Traffic) (sent : Sent) : Prop :=
  ∃ code, login.settings.HasCode code ∧
    sent ∈ (accessControl.carrying (·.withJar login.jar)).channel.sends (Pairing.message login.settings.client)
      (Pairing.headers (if Settings.isRequest code then none else some code)) traffic

-- The requests of an authorization: the probe with the key, the probe with the cookies, and registration.
inductive Authorizing (login : Login) (accessControl system : Service) (start settled : World) : Prop
  | mk {keyless : Service} {keyed asking : World} (restored : system.Restored keyless)
      (keyProbe : World.Reached (login.KeyProbe system) start keyed)
      (cookieProbe : World.Reached (login.CookieProbe keyless) keyed asking)
      (registration : World.Reached (login.Registration accessControl) asking settled) :
      Authorizing login accessControl system start settled

variable (login : Login) (client : Client) (accessControl system : Service) (world : World)

theorem tried_reached {put back : Credentials → Credentials} {service probed : Service} {before after : World}
    {result : Except Failure Outcome} (tried : login.Attempted put back service before result probed after)
    (muted : service.channel.Muted) (quiet : ∀ credentials, (put credentials).autoAuth = credentials.autoAuth) :
    World.Reached (Sent.Over (service.carrying put).channel Probe.IsCall) before after := by
  obtain ⟨asked, logged⟩ := tried
  have still : (service.carrying put).channel.Muted := (quiet service.channel.credentials).trans muted
  exact World.reached_trans (Probe.probed_around _ _ _ _ _ still asked).1.world (logged_reached logged)

theorem tried_key_reached {key : String} {service probed : Service} {before after : World}
    {result : Except Failure Outcome} (usable : login.settings.HasKey key)
    (tried : login.TriedKey key service before result probed after) (muted : service.channel.Muted) :
    World.Reached (login.KeyProbe service) before after :=
  World.reached_mono (fun _ _ sent => ⟨key, usable, sent⟩) (tried_reached login tried muted fun _ => rfl)

theorem tried_cookies_reached {service probed : Service} {before after : World} {result : Except Failure Outcome}
    (tried : login.TriedCookies service before result probed after) (muted : service.channel.Muted) :
    World.Reached (login.CookieProbe service) before after :=
  tried_reached login tried muted fun _ => rfl

theorem without_key_reached {keyless : Service} {after : World} (without : login.WithoutKey system world keyless after)
    (muted : system.channel.Muted) : World.Reached (login.KeyProbe system) world after := by
  cases without with
  | unusable none => exact World.reached_refl _ world
  | rejected usable tried refused => exact tried_key_reached login usable tried muted

theorem paired_reached {code : String} {outcome : Outcome} {after : World} (given : login.settings.HasCode code)
    (paired : login.Paired accessControl world code outcome after) :
    World.Reached (login.Registration accessControl) world after := by
  obtain ⟨pin, asked, registered, logged⟩ := paired
  subst pin
  have posted := (Channel.post_reached (accessControl.carrying (·.withJar login.jar)).channel
    (Pairing.message login.settings.client) (Pairing.headers (if Settings.isRequest code then none else some code)) world).1
  rw [asked] at posted
  exact World.reached_trans (World.reached_mono (fun _ _ member => ⟨code, given, member⟩) posted) (logged_reached logged)

theorem key_authorizing {key : String} {probed : Service} {asking after : World} {result : Except Failure Outcome}
    (usable : login.settings.HasKey key) (tried : login.TriedKey key system world result probed asking)
    (muted : system.channel.Muted) (registration : World.Reached (login.Registration accessControl) asking after) :
    login.Authorizing accessControl system world after :=
  .mk ⟨rfl, muted, fun _ => rfl⟩ (tried_key_reached login usable tried muted) (World.reached_refl _ asking) registration

theorem both_authorizing {keyless probed : Service} {middle asking after : World} {result : Except Failure Outcome}
    (without : login.WithoutKey system world keyless middle)
    (tried : login.TriedCookies keyless middle result probed asking)
    (muted : system.channel.Muted) (registration : World.Reached (login.Registration accessControl) asking after) :
    login.Authorizing accessControl system world after := by
  have restored := without_key_restored login system world without muted
  exact .mk restored (without_key_reached login system world without muted)
    (tried_cookies_reached login tried restored.muted) registration

theorem checked_authorizing {result : Except Failure Verdict} {probed : Service} {asking after : World}
    (checked : login.Checked system world result probed asking) (muted : system.channel.Muted)
    (registration : World.Reached (login.Registration accessControl) asking after) :
    login.Authorizing accessControl system world after := by
  cases checked with
  | keyFailed usable tried => exact key_authorizing login accessControl system world usable tried muted registration
  | byKey usable tried => exact key_authorizing login accessControl system world usable tried muted registration
  | cookiesFailed without tried => exact both_authorizing login accessControl system world without tried muted registration
  | byCookies without tried => exact both_authorizing login accessControl system world without tried muted registration
  | refused without tried refused =>
      exact both_authorizing login accessControl system world without tried muted registration

theorem settled_authorizing {result : Except Failure Outcome} {settled : Scene Client}
    (settling : login.Settled client accessControl system world result settled) (muted : system.channel.Muted) :
    login.Authorizing accessControl system world settled.world := by
  have unasked := World.reached_refl (login.Registration accessControl) settled.world
  cases settling with
  | failed checked => exact checked_authorizing login accessControl system world checked muted unasked
  | byKey usable checked => exact checked_authorizing login accessControl system world checked muted unasked
  | byCookies checked => exact checked_authorizing login accessControl system world checked muted unasked
  | stopped checked final => exact checked_authorizing login accessControl system world checked muted unasked
  | blank checked none => exact checked_authorizing login accessControl system world checked muted unasked
  | paired checked given accepted =>
      exact checked_authorizing login accessControl system world checked muted
        (paired_reached login accessControl _ given accepted)
  | unpaired checked given answered refused =>
      exact checked_authorizing login accessControl system world checked muted
        (paired_reached login accessControl _ given answered)

theorem provision_keeps {inv : World → Prop} {faults : World → Failure → Prop} (given found : Service)
    (known : client.service? given.name = some found) (muted : found.channel.Muted)
    (kept : Provisioning.Kept login.refusals found inv faults) (started : inv world) :
    let ended := (login.provision given).perform ⟨client, world⟩
    (∃ number, ended.2.focus = client.replace { found with lastId := number }) ∧ inv ended.2.world ∧
      ∀ thrown, ended.1 = .error thrown → faults ended.2.world thrown := by
  rw [provision, Client.on_service_perform _ _ _ _ _ known]
  have reading : Act.Keeps (Provisioning.At found inv) (fun scene => faults scene.world) (Provisioning.run login.plan) :=
    Provisioning.run_keeps kept muted
  obtain ⟨around, failing⟩ := reading ⟨⟨found, login.source⟩, world⟩ ⟨⟨found.lastId, rfl⟩, started⟩
  obtain ⟨number, same⟩ := around.same
  exact ⟨⟨number, congrArg client.replace same⟩, around.world, failing⟩

theorem granted_muted {result : Except Failure Outcome} {grant : Credentials → Credentials}
    (granted : login.Granted accessControl system world result grant) (credentials : Credentials) :
    (grant credentials).autoAuth = credentials.autoAuth := by
  cases granted <;> rfl

theorem settled_offers {client : Client} {accessControl system : Service} {woken : World}
    {result : Except Failure Outcome} {settled : Scene Client} (offers : client.Offers accessControl system)
    (settling : login.Settled client.muted accessControl.muted system.muted woken result settled) :
    ∃ grant probed kept, login.Granted accessControl.muted system.muted woken result grant ∧
      Kept client.muted accessControl.muted system.muted probed kept ∧ settled.focus = granting grant kept := by
  have quiet := Client.muted_offers client accessControl system offers
  have known := Client.offers_known quiet
  exact settled_kept login client.muted accessControl.muted system.muted woken settling rfl
    (Client.offers_apart quiet) known.1 known.2

theorem granted_system {client : Client} {accessControl system : Service} {grant : Credentials → Credentials}
    {probed : Service} {kept : Client} {woken : World} {result : Except Failure Outcome}
    (granted : login.Granted accessControl.muted system.muted woken result grant)
    (same : Kept client.muted accessControl.muted system.muted probed kept) :
    (granting grant kept).service? system.name = some (probed.carrying grant) ∧ (probed.carrying grant).channel.Muted := by
  have found : kept.service? system.name = some probed := same.known
  refine ⟨(Client.service_changed kept _ _).trans (by rw [found]; rfl), ?_⟩
  exact (granted_muted login _ _ _ granted probed.channel.credentials).trans same.restored.muted

theorem reading_perform {client : Client} {accessControl system : Service} {grant : Credentials → Credentials}
    {probed : Service} {kept : Client} {woken : World}
    (granted : login.Granted accessControl.muted system.muted woken (.ok .ok) grant)
    (same : Kept client.muted accessControl.muted system.muted probed kept) (ready : World) :
    let ended := (login.provision system).perform ⟨granting grant kept, ready⟩
    (∃ number, ended.2.focus = (granting grant kept).replace { probed.carrying grant with lastId := number }) ∧
      World.Reached (Sent.Reading (probed.carrying grant).channel) ready ended.2.world ∧
      ∀ thrown, ended.1 = .error thrown →
        Provisioning.Thrown login.refusals ready system.name ended.2.world thrown := by
  obtain ⟨known, muted⟩ := granted_system login granted same
  have named : (probed.carrying grant).name = system.name := same.restored.named
  rw [← named]
  exact provision_keeps login (granting grant kept) ready system (probed.carrying grant) known muted
    (Provisioning.kept_reached login.refusals (probed.carrying grant) ready) (World.reached_refl _ ready)

end Login

end DeviceLogin
