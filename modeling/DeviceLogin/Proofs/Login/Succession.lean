import DeviceLogin.Proofs.Login.Grants

set_option autoImplicit false

namespace DeviceLogin

open Act

-- The service has the credentials that it had, or has lost its key, its jar or both.
structure Service.Loses (before after : Service) : Prop where
  key : after.channel.credentials.key? = before.channel.credentials.key? ∨ after.channel.credentials.key? = none
  jar : after.channel.credentials.jar = before.channel.credentials.jar ∨ after.channel.credentials.jar = none

theorem loses_refl (service : Service) : service.Loses service := ⟨.inl rfl, .inl rfl⟩

theorem loses_trans {first middle last : Service} (early : first.Loses middle) (late : middle.Loses last) :
    first.Loses last := by
  refine ⟨?_, ?_⟩
  · rcases late.key with same | lost
    · rw [same]
      exact early.key
    · exact .inr lost
  · rcases late.jar with same | lost
    · rw [same]
      exact early.jar
    · exact .inr lost

namespace Client

structure Carries (name : String) (credentials : Credentials) (key : Option String) (jar : Option Nat) : Prop where
  key : credentials.key? = key ∨ (name = "system" ∧ credentials.key? = none)
  jar : credentials.jar = jar ∨ ((name = "system" ∨ name = "accessControl") ∧ credentials.jar = none)

def Lags (client : Client) (key : Option String) (jar : Option Nat) : Prop :=
  ∀ name service, client.service? name = some service → Carries name service.channel.credentials key jar

def Concords (client : Client) : Prop :=
  ∃ key jar, ∀ channel ∈ client.channels, channel.credentials.key? = key ∧ channel.credentials.jar = jar

def AllKeyed (client : Client) (code : String) : Prop :=
  ∀ channel ∈ client.channels, channel.credentials.key? = some code

def AllJarred (client : Client) (jar : Nat) : Prop :=
  ∀ channel ∈ client.channels, channel.credentials.jar = some jar

variable {client : Client} {key : Option String} {jar : Option Nat}

theorem fresh_lags (fresh : client.AllFresh) : client.Lags none none := by
  intro name service found
  have bare := fresh service.channel (channel_mem client name service found)
  exact ⟨.inl bare.1, .inl bare.2⟩

theorem lags_replaced {old service : Service} (lags : client.Lags key jar) (found : client.service? service.name = some old)
    (loses : old.Loses service)
    (tried : service.name = "system" ∨
      service.name = "accessControl" ∧ service.channel.credentials.key? = old.channel.credentials.key?) :
    (client.replace service).Lags key jar := by
  intro name other known
  rw [service_replaced] at known
  by_cases here : service.name = name
  · subst here
    rw [if_pos rfl, found] at known
    obtain rfl : service = other := Option.some.inj known
    have carried := lags service.name old found
    refine ⟨?_, ?_⟩
    · rcases tried with named | ⟨-, same⟩
      · rcases loses.key with same | lost
        · rw [same]
          exact carried.key
        · exact .inr ⟨named, lost⟩
      · rw [same]
        exact carried.key
    · rcases loses.jar with same | lost
      · rw [same]
        exact carried.jar
      · exact .inr ⟨tried.imp_right And.left, lost⟩
  · rw [if_neg here] at known
    exact lags name other known

theorem lags_granted {grant : Credentials → Credentials} {newKey : Option String} {newJar : Option Nat}
    (lags : client.Lags key jar)
    (changed : ∀ name credentials, Carries name credentials key jar → Carries name (grant credentials) newKey newJar) :
    (Login.granting grant client).Lags newKey newJar := by
  intro name service found
  rw [Login.granting, service_changed] at found
  obtain ⟨old, known, rfl⟩ := Option.map_eq_some_iff.mp found
  exact changed name _ (lags name old known)

end Client

namespace Login

variable (login : Login) (client : Client) (accessControl system : Service) (world : World)

theorem tried_key_loses {key : String} {service probed : Service} {before after : World}
    {result : Except Failure Outcome} (tried : login.TriedKey key service before result probed after)
    (muted : service.channel.Muted) : service.Loses probed := by
  obtain ⟨number, rfl⟩ := tried_service login tried muted
  exact ⟨.inr ((Ordered.get_erase _ _ _).trans (if_pos rfl)), .inl rfl⟩

theorem tried_cookies_loses {service probed : Service} {before after : World} {result : Except Failure Outcome}
    (tried : login.TriedCookies service before result probed after) (muted : service.channel.Muted) :
    service.Loses probed := by
  obtain ⟨number, rfl⟩ := tried_service login tried muted
  exact ⟨.inl rfl, .inr rfl⟩

theorem without_key_loses {keyless : Service} {after : World} (without : login.WithoutKey system world keyless after)
    (muted : system.channel.Muted) : system.Loses keyless := by
  cases without with
  | unusable none => exact loses_refl system
  | rejected usable tried refused => exact tried_key_loses login tried muted

theorem both_loses {keyless probed : Service} {middle after : World} {result : Except Failure Outcome}
    (without : login.WithoutKey system world keyless middle)
    (tried : login.TriedCookies keyless middle result probed after) (muted : system.channel.Muted) :
    system.Loses probed := by
  have restored := without_key_restored login system world without muted
  exact loses_trans (without_key_loses login system world without muted) (tried_cookies_loses login tried restored.muted)

theorem checked_loses {result : Except Failure Verdict} {probed : Service} {after : World}
    (checked : login.Checked system world result probed after) (muted : system.channel.Muted) : system.Loses probed := by
  cases checked with
  | keyFailed usable tried => exact tried_key_loses login tried muted
  | byKey usable tried => exact tried_key_loses login tried muted
  | cookiesFailed without tried => exact both_loses login system world without tried muted
  | byCookies without tried => exact both_loses login system world without tried muted
  | refused without tried refused => exact both_loses login system world without tried muted

inductive Extends (jar : Nat) (key : Option String) (held : Option Nat) : Option String → Option Nat → Prop
  | same : Extends jar key held key held
  | key (code : String) : Extends jar key held (some code) held
  | jar : Extends jar key held key (some jar)

theorem settled_lags {result : Except Failure Outcome} {settled : Scene Client} {key : Option String} {held : Option Nat}
    (settling : login.Settled client accessControl system world result settled) (muted : system.channel.Muted)
    (offers : client.Offers accessControl system) (lags : client.Lags key held) :
    ∃ newKey newHeld, Extends login.jar key held newKey newHeld ∧ settled.focus.Lags newKey newHeld := by
  have named := Client.offers_named offers
  have apart := Client.offers_apart offers
  have probing {result : Except Failure Verdict} {probed : Service} {after : World}
      (checked : login.Checked system world result probed after) : (client.replace probed).Lags key held := by
    have same := (checked_restored login system world checked muted).named
    have known : client.service? probed.name = some system := by
      rw [same, named.2]
      exact offers.system
    exact Client.lags_replaced lags known (checked_loses login system world checked muted) (.inl (same.trans named.2))
  have pairing {result : Except Failure Verdict} {probed : Service} {after : World}
      (checked : login.Checked system world result probed after) :
      ((client.replace probed).replace (accessControl.carrying Credentials.withoutJar)).Lags key held := by
    have still : (client.replace probed).service? accessControl.name = some accessControl := by
      rw [Client.service_replaced, (checked_restored login system world checked muted).named, if_neg (Ne.symm apart), named.1]
      exact offers.accessControl
    exact Client.lags_replaced (probing checked) still ⟨.inl rfl, .inr rfl⟩ (.inr ⟨named.1, rfl⟩)
  have keyed {code : String} {middle : Client} (lags : middle.Lags key held) :
      (granting (·.withHeader keyHeader code) middle).Lags (some code) held :=
    Client.lags_granted lags fun name credentials carried =>
      ⟨.inl ((Ordered.get_put _ _ _ _).trans (if_pos rfl)), carried.jar⟩
  have jarred {middle : Client} (lags : middle.Lags key held) :
      (granting (·.withJar login.jar) middle).Lags key (some login.jar) :=
    Client.lags_granted lags fun name credentials carried => ⟨carried.key, .inl rfl⟩
  cases settling with
  | failed checked => exact ⟨key, held, .same, probing checked⟩
  | byKey usable checked => exact ⟨_, held, .key _, keyed (probing checked)⟩
  | byCookies checked => exact ⟨key, _, .jar, jarred (probing checked)⟩
  | stopped checked final => exact ⟨key, held, .same, probing checked⟩
  | blank checked none => exact ⟨key, held, .same, probing checked⟩
  | paired checked given accepted => exact ⟨key, _, .jar, jarred (pairing checked)⟩
  | unpaired checked given answered refused => exact ⟨key, held, .same, pairing checked⟩

theorem muted_lags {key : Option String} {held : Option Nat} (lags : client.Lags key held) : client.muted.Lags key held :=
  Client.lags_granted lags fun _ _ carried => ⟨carried.key, carried.jar⟩

theorem read_lags {grant : Credentials → Credentials} {probed : Service} {kept : Client} {woken ready : World}
    {result : Except Failure Unit} {final : Scene Client} {key : Option String} {held : Option Nat}
    (offers : client.Offers accessControl system)
    (granted : login.Granted accessControl.muted system.muted woken (.ok .ok) grant)
    (same : Kept client.muted accessControl.muted system.muted probed kept)
    (reading : (login.provision system).perform ⟨granting grant kept, ready⟩ = (result, final))
    (lags : (granting grant kept).Lags key held) : final.focus.Lags key held := by
  obtain ⟨⟨number, focus⟩, -, -⟩ := reading_perform login granted same ready
  rw [reading] at focus
  have named : probed.name = system.name := same.restored.named
  have found : kept.service? system.name = some probed := same.known
  have known : (granting grant kept).service? probed.name = some (probed.carrying grant) :=
    (Client.service_changed kept _ _).trans (by rw [named, found]; rfl)
  rw [focus]
  exact Client.lags_replaced lags known ⟨.inl rfl, .inl rfl⟩
    (.inl (named.trans (Client.offers_named offers).2))

theorem ran_lags {result : Except Failure Outcome} {final : Scene Client} {key : Option String} {held : Option Nat}
    (ran : login.Ran client world result final) (lags : client.Lags key held) :
    ∃ newKey newHeld, Extends login.jar key held newKey newHeld ∧ final.focus.Lags newKey newHeld := by
  have settled {accessControl system : Service} {woken : World} {result : Except Failure Outcome} {settled : Scene Client}
      (offers : client.Offers accessControl system)
      (settling : (login.settle accessControl system).perform ⟨client.muted, woken⟩ = (result, settled)) :
      ∃ newKey newHeld, Extends login.jar key held newKey newHeld ∧ settled.focus.Lags newKey newHeld :=
    settled_lags login client.muted accessControl.muted system.muted woken
      (settle_settled login client accessControl system woken result settled offers settling) rfl
      (Client.muted_offers client accessControl system offers) (muted_lags client lags)
  cases ran with
  | missing absent => exact ⟨key, held, .same, lags⟩
  | unwoken offers waking => exact ⟨key, held, .same, muted_lags client lags⟩
  | unsettled offers waking settling reported =>
      have lagging := settled offers settling
      exact lagging
  | refused offers waking settling refused logged =>
      have lagging := settled offers settling
      exact lagging
  | connected offers waking settling logged reading =>
      obtain ⟨newKey, newHeld, extended, lagging⟩ := settled offers settling
      obtain ⟨grant, probed, kept, granted, same, focus⟩ := settled_granted login client _ _ offers settling
      rw [focus] at reading lagging
      exact ⟨newKey, newHeld, extended, read_lags login client _ _ offers granted same reading lagging⟩
  | interrupted offers waking settling logged reading reported =>
      obtain ⟨newKey, newHeld, extended, lagging⟩ := settled offers settling
      obtain ⟨grant, probed, kept, granted, same, focus⟩ := settled_granted login client _ _ offers settling
      rw [focus] at reading lagging
      have read := read_lags login client _ _ offers granted same reading lagging
      exact ⟨newKey, newHeld, extended, read⟩

theorem granted_all {result : Except Failure Outcome} {grant : Credentials → Credentials} {kept final : Client}
    (granted : login.Granted accessControl system world result grant) (accepted : result = .ok .ok)
    (channels : final.channels = (granting grant kept).channels) :
    (∃ code, login.settings.code? = some code ∧ final.AllKeyed code) ∨ final.AllJarred login.jar := by
  have each (property : Channel → Prop) (changed : ∀ channel : Channel, property (channel.change grant)) :
      ∀ channel ∈ final.channels, property channel := by
    intro channel member
    rw [channels, granting_channels] at member
    obtain ⟨before, known, rfl⟩ := List.mem_map.mp member
    exact changed before
  cases granted with
  | @key code _ _ usable tried =>
      exact .inl ⟨code, usable.1.1, each _ fun channel => (Ordered.get_put _ _ _ _).trans (if_pos rfl)⟩
  | cookies without tried => exact .inr (each _ fun channel => rfl)
  | paired checked given accepted => exact .inr (each _ fun channel => rfl)
  | nothing outside => exact absurd accepted outside

inductive Visited (jar : Nat) (start : Client) : Client → Prop
  | start : Visited jar start start
  | login {client : Client} {login : Login} {world : World} {result : Except Failure Outcome} {final : Scene Client}
      (before : Visited jar start client) (shared : login.jar = jar)
      (ended : login.run.perform ⟨client, world⟩ = (result, final)) : Visited jar start final.focus

def LetsIn (login : Login) (client : Client) (world : World) : Prop :=
  ∃ accessControl system, client.Offers accessControl system ∧
    login.authorized accessControl system client world = .ok .ok

inductive Waiting (jar : Nat) (start : Client) : Client → Prop
  | start : Waiting jar start start
  | login {client : Client} {login : Login} {world : World} {result : Except Failure Outcome} {final : Scene Client}
      (before : Waiting jar start client) (shared : login.jar = jar) (outside : ¬ login.LetsIn client world)
      (ended : login.run.perform ⟨client, world⟩ = (result, final)) : Waiting jar start final.focus

variable {jar : Nat} {start : Client}

theorem visited_lags (fresh : start.AllFresh) {client : Client} (visited : Visited jar start client) :
    ∃ key held, (held = none ∨ held = some jar) ∧ client.Lags key held := by
  induction visited with
  | start => exact ⟨none, none, .inl rfl, Client.fresh_lags fresh⟩
  | @login client login world result final before shared ended ih =>
      obtain ⟨key, held, known, lags⟩ := ih
      have ran := run_ran login client world
      rw [ended] at ran
      obtain ⟨newKey, newHeld, extended, lagging⟩ := ran_lags login client world ran lags
      refine ⟨newKey, newHeld, ?_, lagging⟩
      cases extended with
      | same => exact known
      | key code => exact known
      | jar => exact .inr (congrArg some shared)

theorem missing_kept {result : Except Failure Outcome} {final : Scene Client}
    (absent : ∀ accessControl system, ¬ client.Offers accessControl system)
    (ended : login.run.perform ⟨client, world⟩ = (result, final)) : final.focus = client := by
  have none : client.service? "accessControl" = none ∨ client.service? "system" = none := by
    cases access : client.service? "accessControl" with
    | none => exact .inl rfl
    | some accessControl =>
        cases found : client.service? "system" with
        | none => exact .inr rfl
        | some system => exact absurd ⟨access, found⟩ (absent accessControl system)
  rw [run_missing login client world none] at ended
  exact (congrArg (fun ended => ended.2.focus) ended).symm

theorem run_handed {result : Except Failure Outcome} {final : Scene Client} (fresh : client.AllFresh)
    (offers : client.Offers accessControl system) (ended : login.run.perform ⟨client, world⟩ = (result, final)) :
    login.HandedOut (login.authorized accessControl system client world) final.focus := by
  have ran := run_ran login client world
  rw [ended] at ran
  obtain ⟨follows, woken, grant, granted, channels⟩ := ran_channels login client accessControl system world offers fresh ran
  exact granted_handed login client _ _ _ granted fresh channels

theorem waiting_fresh (fresh : start.AllFresh) {client : Client} (waiting : Waiting jar start client) : client.AllFresh := by
  induction waiting with
  | start => exact fresh
  | @login client login world result final before shared outside ended ih =>
      by_cases offered : ∃ accessControl system, client.Offers accessControl system
      · obtain ⟨accessControl, system, offers⟩ := offered
        refine (run_handed login client accessControl system world ih offers ended).otherwise fun accepted => ?_
        exact outside ⟨accessControl, system, offers, accepted⟩
      · rw [missing_kept login client world (fun accessControl system offers => offered ⟨_, _, offers⟩) ended]
        exact ih

theorem handed_agrees {result : Except Failure Outcome} {client : Client} (handed : login.HandedOut result client) :
    client.Concords := by
  by_cases accepted : result = .ok .ok
  · rcases handed.accepted accepted with ⟨code, known, keyed⟩ | jarred
    · exact ⟨some code, none, keyed⟩
    · exact ⟨none, some login.jar, fun channel member => (jarred channel member).symm⟩
  · exact ⟨none, none, handed.otherwise accepted⟩

-- After any logins one after another, no channel carries another key or another jar than the others; only the two
-- channels on which a login tries its own may have lost what all have got, and what the device has last let in is on
-- all of them. As long as it has let nobody in before, all channels carry the same after a login.
theorem visited_agrees_but (start : Client) (fresh : start.AllFresh) (jar : Nat) :
    (∀ client, Visited jar start client → ∃ key held, (held = none ∨ held = some jar) ∧ client.Lags key held) ∧
    (∀ (client : Client) (login : Login) (world : World) (result : Except Failure Outcome) (final : Scene Client),
      login.run.perform ⟨client, world⟩ = (result, final) → login.LetsIn client world →
      (∃ code, login.settings.code? = some code ∧ final.focus.AllKeyed code) ∨ final.focus.AllJarred login.jar) ∧
    (∀ (client : Client) (login : Login) (world : World) (result : Except Failure Outcome) (final : Scene Client),
      Waiting jar start client → login.jar = jar → login.run.perform ⟨client, world⟩ = (result, final) →
      final.focus.Concords) := by
  refine ⟨fun client visited => visited_lags fresh visited, ?_, ?_⟩
  · rintro client login world result final ended ⟨accessControl, system, offers, accepted⟩
    have ran := run_ran login client world
    rw [ended] at ran
    obtain ⟨-, woken, grant, probed, kept, granted, -, channels⟩ :=
      ran_granted login client accessControl system world offers ran
    exact granted_all login _ _ _ granted accepted channels
  · intro client login world result final waiting shared ended
    have bare := waiting_fresh fresh waiting
    by_cases offered : ∃ accessControl system, client.Offers accessControl system
    · obtain ⟨accessControl, system, offers⟩ := offered
      exact handed_agrees login (run_handed login client accessControl system world bare offers ended)
    · rw [missing_kept login client world (fun accessControl system offers => offered ⟨_, _, offers⟩) ended]
      exact ⟨none, none, bare⟩

def oneKeyDevice (key : String) : List Http.Request → Http.Request → Http.Exchange := fun _ request =>
  let status := if request.headers.get? keyHeader = some key then 200 else 401
  .answered { status := some status, headers := [], chunks := [], streamError := none, truncated := false }

theorem visited_agrees_but_first :
    let channel : Channel := { url := "http://tv/sony/system" }
    let client := Client.ofServices [{ name := "accessControl", channel := channel }, { name := "system", channel := channel }]
    let login : Login := { settings := { deviceAddress := .absent, accessCode := .text "1111" }, logger := {}, jar := 0 }
    let ended := login.run.perform ⟨client, { device := oneKeyDevice "1111" }⟩
    client.AllFresh ∧ ended.1.toOption = some .ok ∧ ended.2.focus.Concords := by
  intro channel client login ended
  have fresh : client.AllFresh := by
    have channels : client.channels = [channel, channel] := rfl
    intro given member
    rw [channels] at member
    obtain rfl : given = channel := by simpa using member
    exact ⟨rfl, rfl⟩
  refine ⟨fresh, by decide +kernel +zetaReduce, ?_⟩
  exact (visited_agrees_but client fresh 0).2.2 client login _ ended.1 ended.2 .start rfl (Prod.eta ended).symm

theorem visited_disagrees :
    let channel : Channel := { url := "http://tv/sony/system" }
    let client := Client.ofServices [{ name := "accessControl", channel := channel }, { name := "system", channel := channel }]
    let login (code : String) : Login :=
      { settings := { deviceAddress := .absent, accessCode := .text code }, logger := {}, jar := 0 }
    let first := (login "1111").run.perform ⟨client, { device := oneKeyDevice "1111" }⟩
    let second := (login "2222").run.perform ⟨first.2.focus, first.2.world⟩
    client.AllFresh ∧ Visited 0 client second.2.focus ∧ second.1.toOption = some .ok ∧ ¬ second.2.focus.Concords := by
  intro channel client login first second
  have fresh : client.AllFresh := by
    have channels : client.channels = [channel, channel] := rfl
    intro given member
    rw [channels] at member
    obtain rfl : given = channel := by simpa using member
    exact ⟨rfl, rfl⟩
  have once : Visited 0 client first.2.focus :=
    @Visited.login 0 client client (login "1111") _ _ _ .start rfl (Prod.eta first).symm
  have visited : Visited 0 client second.2.focus :=
    @Visited.login 0 client first.2.focus (login "2222") first.2.world _ _ once rfl (Prod.eta second).symm
  refine ⟨fresh, visited, by decide +kernel +zetaReduce, ?_⟩
  have keys : (second.2.focus.channels.map fun channel => channel.credentials.key?) = [some "1111", none] := by
    decide +kernel +zetaReduce
  rintro ⟨key, jar, same⟩
  have equal : ∀ held ∈ second.2.focus.channels.map fun channel => channel.credentials.key?, held = key := by
    intro held member
    obtain ⟨channel, known, rfl⟩ := List.mem_map.mp member
    exact (same channel known).1
  rw [keys] at equal
  have one : some "1111" = key := equal _ (by simp)
  have other : none = key := equal _ (by simp)
  exact nomatch one.trans other.symm

end Login

end DeviceLogin
