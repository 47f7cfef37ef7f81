import DeviceLogin.Proofs.Login.Requests

set_option autoImplicit false

namespace DeviceLogin

open Act

-- The same channel but for the credentials that a login may change.
structure Channel.Regranted (before after : Channel) : Prop where
  muted : after.Muted
  headers : after.credentials.headers.erase keyHeader = before.credentials.headers
  rest : after = { before with credentials := after.credentials }

namespace Client

def AllByKey (client : Client) (code : String) : Prop :=
  ∀ channel ∈ client.channels, channel.credentials.key? = some code ∧ channel.credentials.jar = none

def AllByJar (client : Client) (jar : Nat) : Prop :=
  ∀ channel ∈ client.channels, channel.credentials.jar = some jar ∧ channel.credentials.key? = none

def AllFresh (client : Client) : Prop := ∀ channel ∈ client.channels, channel.credentials.Fresh

theorem channel_mem (client : Client) (name : String) (service : Service) (found : client.service? name = some service) :
    service.channel ∈ client.channels :=
  List.mem_map.mpr ⟨(name, service), Ordered.mem_of_get _ _ _ found, rfl⟩

end Client

namespace Login

def authorization (login : Login) (accessControl system : Service) : Act (Scene Client) Outcome := do
  Scene.onWorld login.wake
  login.settle accessControl system

def authorized (login : Login) (accessControl system : Service) (client : Client) (world : World) :
    Except Failure Outcome :=
  ((login.authorization accessControl system).perform ⟨client.muted, world⟩).1

variable (login : Login) (client : Client) (accessControl system : Service) (world : World)

theorem authorized_unwoken {failure : Failure} {after : World} (waking : login.wake.perform world = (.error failure, after)) :
    login.authorized accessControl system client world = .error failure := by
  simp only [authorized, authorization, perform_bind, Scene.onWorld, perform_inside, waking]

theorem authorized_settled {result : Except Failure Outcome} {woken : World} {settled : Scene Client}
    (waking : login.wake.perform world = (.ok (), woken))
    (settling : (login.settle accessControl system).perform ⟨client.muted, woken⟩ = (result, settled)) :
    login.authorized accessControl system client world = result := by
  simp only [authorized, authorization, perform_bind, Scene.onWorld, perform_inside, waking, settling]

inductive Follows : Except Failure Outcome → Except Failure Outcome → Prop
  | stopped (thrown failure : Failure) : Follows (.error thrown) (.error failure)
  | refused {outcome : Outcome} (refused : outcome ≠ .ok) : Follows (.ok outcome) (.ok outcome)
  | connected : Follows (.ok .ok) (.ok .ok)
  | interrupted (failure : Failure) : Follows (.ok .ok) (.error failure)

theorem granting_channels (client : Client) (grant : Credentials → Credentials) :
    (granting grant client).channels = client.channels.map (Channel.change grant) :=
  Client.channels_changed client (Channel.change grant)

theorem read_channels {grant : Credentials → Credentials} {probed : Service} {kept : Client} {woken ready : World}
    {result : Except Failure Unit} {final : Scene Client}
    (granted : login.Granted accessControl.muted system.muted woken (.ok .ok) grant)
    (same : Kept client.muted accessControl.muted system.muted probed kept)
    (reading : (login.provision system).perform ⟨granting grant kept, ready⟩ = (result, final)) :
    final.focus.channels = (granting grant kept).channels := by
  obtain ⟨⟨number, focus⟩, -, -⟩ := reading_perform login granted same ready
  rw [reading] at focus
  have named : probed.name = system.name := same.restored.named
  have found : kept.service? system.name = some probed := same.known
  have known : (granting grant kept).service? probed.name = some (probed.carrying grant) :=
    (Client.service_changed kept _ _).trans (by rw [named, found]; rfl)
  rw [focus]
  exact Client.channels_replaced (granting grant kept) (probed.carrying grant) _ known rfl

theorem settled_granted {result : Except Failure Outcome} {woken : World} {settled : Scene Client}
    (offers : client.Offers accessControl system)
    (settling : (login.settle accessControl system).perform ⟨client.muted, woken⟩ = (result, settled)) :
    ∃ grant probed kept, login.Granted accessControl.muted system.muted woken result grant ∧
      Kept client.muted accessControl.muted system.muted probed kept ∧ settled.focus = granting grant kept :=
  settled_offers login offers (settle_settled login client accessControl system woken result settled offers settling)

theorem muted_kept (offers : client.Offers accessControl system) :
    Kept client.muted accessControl.muted system.muted system.muted client.muted := by
  have known := Client.offers_known (Client.muted_offers client accessControl system offers)
  exact ⟨known.2, ⟨rfl, rfl, fun _ => rfl⟩, fun _ _ => rfl⟩

theorem ran_granted {result : Except Failure Outcome} {final : Scene Client}
    (offers : client.Offers accessControl system) (ran : login.Ran client world result final) :
    Follows (login.authorized accessControl system client world) result ∧
      ∃ woken grant probed kept, login.Granted accessControl.muted system.muted woken
          (login.authorized accessControl system client world) grant ∧
        Kept client.muted accessControl.muted system.muted probed kept ∧
        final.focus.channels = (granting grant kept).channels := by
  -- What a run leaves on the channels was decided by its authorization; the cases differ in how they end.
  cases ran with
  | missing absent => simp [offers.accessControl, offers.system] at absent
  | unwoken _ waking =>
      rw [authorized_unwoken login client accessControl system world waking]
      exact ⟨.stopped _ _, world, id, _, _, .nothing (by simp), muted_kept client accessControl system offers,
        congrArg Client.channels (Client.changed_id client.muted).symm⟩
  | unsettled given waking settling reported =>
      obtain ⟨rfl, rfl⟩ := Client.offers_unique offers given
      rw [authorized_settled login client _ _ world waking settling]
      obtain ⟨grant, probed, kept, granted, same, focus⟩ := settled_granted login client _ _ offers settling
      exact ⟨.stopped _ _, _, grant, probed, kept, granted, same, congrArg Client.channels focus⟩
  | refused given waking settling refused logged =>
      obtain ⟨rfl, rfl⟩ := Client.offers_unique offers given
      rw [authorized_settled login client _ _ world waking settling]
      obtain ⟨grant, probed, kept, granted, same, focus⟩ := settled_granted login client _ _ offers settling
      exact ⟨.refused refused, _, grant, probed, kept, granted, same, congrArg Client.channels focus⟩
  | connected given waking settling logged reading =>
      obtain ⟨rfl, rfl⟩ := Client.offers_unique offers given
      rw [authorized_settled login client _ _ world waking settling]
      obtain ⟨grant, probed, kept, granted, same, focus⟩ := settled_granted login client _ _ offers settling
      rw [focus] at reading
      exact ⟨.connected, _, grant, probed, kept, granted, same, read_channels login client _ _ granted same reading⟩
  | interrupted given waking settling logged reading reported =>
      obtain ⟨rfl, rfl⟩ := Client.offers_unique offers given
      rw [authorized_settled login client _ _ world waking settling]
      obtain ⟨grant, probed, kept, granted, same, focus⟩ := settled_granted login client _ _ offers settling
      rw [focus] at reading
      have held := read_channels login client _ _ granted same reading
      exact ⟨.interrupted _, _, grant, probed, kept, granted, same, held⟩

theorem ran_channels {result : Except Failure Outcome} {final : Scene Client}
    (offers : client.Offers accessControl system) (fresh : client.AllFresh)
    (ran : login.Ran client world result final) :
    Follows (login.authorized accessControl system client world) result ∧
      ∃ woken grant, login.Granted accessControl.muted system.muted woken
          (login.authorized accessControl system client world) grant ∧
        final.focus.channels = client.channels.map (Channel.change (grant ∘ Credentials.muted)) := by
  obtain ⟨follows, woken, grant, probed, kept, granted, same, channels⟩ :=
    ran_granted login client accessControl system world offers ran
  have accessFresh := fresh _ (Client.channel_mem client _ _ offers.accessControl)
  have systemFresh := fresh _ (Client.channel_mem client _ _ offers.system)
  have held := same.channels accessFresh systemFresh
  refine ⟨follows, woken, grant, granted, ?_⟩
  rw [channels, granting_channels, held, Client.muted, granting_channels, List.map_map]
  rfl

theorem granted_regranted {result : Except Failure Outcome} {grant : Credentials → Credentials}
    (granted : login.Granted accessControl system world result grant) (channel : Channel) (fresh : channel.credentials.Fresh) :
    channel.Regranted (channel.change (grant ∘ Credentials.muted)) := by
  have absent : channel.credentials.headers.erase keyHeader = channel.credentials.headers :=
    Ordered.erase_absent _ _ fresh.1
  cases granted with
  | key usable tried => exact ⟨rfl, (Ordered.erase_put _ _ _).trans absent, rfl⟩
  | cookies without tried => exact ⟨rfl, absent, rfl⟩
  | paired checked given accepted => exact ⟨rfl, absent, rfl⟩
  | nothing outside => exact ⟨rfl, absent, rfl⟩

structure HandedOut (login : Login) (result : Except Failure Outcome) (client : Client) : Prop where
  accepted : result = .ok .ok →
    (∃ code, login.settings.code? = some code ∧ client.AllByKey code) ∨ client.AllByJar login.jar
  otherwise : result ≠ .ok .ok → client.AllFresh

theorem granted_handed {result : Except Failure Outcome} {grant : Credentials → Credentials} {final : Client}
    (granted : login.Granted accessControl system world result grant) (fresh : client.AllFresh)
    (channels : final.channels = client.channels.map (Channel.change (grant ∘ Credentials.muted))) :
    login.HandedOut result final := by
  have each (property : Channel → Prop)
      (changed : ∀ channel : Channel, channel.credentials.Fresh → property (channel.change (grant ∘ Credentials.muted))) :
      ∀ channel ∈ final.channels, property channel := by
    intro channel member
    rw [channels] at member
    obtain ⟨before, known, rfl⟩ := List.mem_map.mp member
    exact changed before (fresh before known)
  cases granted with
  | @key code _ _ usable tried =>
      refine ⟨fun _ => .inl ⟨code, usable.1.1, each _ fun channel bare => ⟨?_, bare.2⟩⟩, fun outside => absurd rfl outside⟩
      exact (Ordered.get_put _ _ _ _).trans (if_pos rfl)
  | cookies without tried =>
      exact ⟨fun _ => .inr (each _ fun channel bare => ⟨rfl, bare.1⟩), fun outside => absurd rfl outside⟩
  | paired checked given accepted =>
      exact ⟨fun _ => .inr (each _ fun channel bare => ⟨rfl, bare.1⟩), fun outside => absurd rfl outside⟩
  | nothing outside => exact ⟨fun accepted => absurd accepted outside, fun _ => each _ fun _ bare => bare⟩

-- After a login all channels carry the key, or all carry the jar, exactly if the authorization went well;
-- otherwise none carries anything. Nothing else about the channels changes.
theorem run_grants (result : Except Failure Outcome) (final : Scene Client) (fresh : client.AllFresh)
    (ended : login.run.perform ⟨client, world⟩ = (result, final)) :
    ((client.service? "accessControl" = none ∨ client.service? "system" = none) → final.focus = client) ∧
    (client.Offers accessControl system →
      Follows (login.authorized accessControl system client world) result ∧
      login.HandedOut (login.authorized accessControl system client world) final.focus ∧
      ∃ change, final.focus.channels = client.channels.map change ∧
        ∀ channel ∈ client.channels, channel.Regranted (change channel)) := by
  have ran := run_ran login client world
  rw [ended] at ran
  refine ⟨fun absent => ?_, fun offers => ?_⟩
  · rw [run_missing login client world absent] at ended
    exact (congrArg (fun ended => ended.2.focus) ended).symm
  · obtain ⟨follows, woken, grant, granted, channels⟩ := ran_channels login client accessControl system world offers fresh ran
    refine ⟨follows, granted_handed login client _ _ _ granted fresh channels, _, channels, fun channel member => ?_⟩
    exact granted_regranted login _ _ _ granted channel (fresh channel member)

theorem run_grants_open_device :
    let channel : Channel := { url := "http://tv/sony/system" }
    let accessControl : Service := { name := "accessControl", channel := channel }
    let system : Service := { name := "system", channel := channel, methods := some [("getDeviceMode", ["1.0"])] }
    let client := Client.ofServices [accessControl, system]
    let world : World :=
      { device := fun _ _ =>
          .answered { status := some 200, headers := [], chunks := [], streamError := none, truncated := false } }
    let login : Login :=
      { settings := { deviceAddress := .absent, accessCode := .text "0000" }, logger := {}, jar := 0 }
    client.AllFresh ∧ client.Offers accessControl system ∧
      (login.authorized accessControl system client world).toOption = some .ok ∧
      ∃ result final, login.run.perform ⟨client, world⟩ = (result, final) ∧
        Follows (login.authorized accessControl system client world) result ∧
        login.HandedOut (login.authorized accessControl system client world) final.focus := by
  intro channel accessControl system client world login
  have offers : client.Offers accessControl system := ⟨rfl, rfl⟩
  have fresh : client.AllFresh := by
    have channels : client.channels = [channel, channel] := rfl
    intro given member
    rw [channels] at member
    obtain rfl : given = channel := by simpa using member
    exact ⟨rfl, rfl⟩
  have accepted : (login.authorized accessControl system client world).toOption = some .ok := by
    decide +kernel +zetaReduce
  rcases ended : login.run.perform ⟨client, world⟩ with ⟨result, final⟩
  obtain ⟨follows, handed, -⟩ := (run_grants login client accessControl system world result final fresh ended).2 offers
  exact ⟨fresh, offers, accepted, result, final, rfl, follows, handed⟩

end Login

end DeviceLogin
