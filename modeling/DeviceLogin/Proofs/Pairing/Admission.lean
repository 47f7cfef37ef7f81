import DeviceLogin.Proofs.Login.Confinement
import DeviceLogin.Proofs.Pairing.Keeping
import DeviceLogin.Proofs.Retrying

set_option autoImplicit false

namespace DeviceLogin

open Act

namespace World

-- The device can be paired with over a jar on its file, and nothing else can fail.
structure Serves (number : Nat) (path pin value : String) (world : World) : Prop where
  pairs : PairingDevice world.device pin value
  delivers : world.Delivers
  backs : world.Backs number path
  sound : Cookie.Legible world.sender (world.jar number).cookies
  calm : world.Calm

def Holds (number : Nat) (value : String) (world : World) : Prop := (world.jar number).cookies.get? "auth" = some value

variable {number : Nat} {path pin value : String} {start now : World}

theorem serves_steady (serves : start.Serves number path pin value) (steady : Steady number path start now) :
    now.Serves number path pin value := by
  refine ⟨steady.device ▸ serves.pairs, fun asked request setting member => ?_, steady.backs, steady.sender ▸ steady.sound,
    fun count place => ?_, fun key => ?_⟩
  · rw [steady.device] at member
    rw [steady.sender]
    exact serves.delivers asked request setting member
  · rw [steady.faults, serves.calm.probing]
  · rw [steady.refusals, serves.calm.accepting]

theorem holds_keeping (kept : Keeping number path start now) : now.Holds number value ↔ start.Holds number value := by
  rw [Holds, kept.auth, Holds]

theorem logged_kept {next : World} (steady : Steady number path start now) (logged : Logged now next) :
    Keeping number path now next := by
  obtain ⟨lines, minor, rfl⟩ := logged
  exact keeping_quiet steady.backs (steady.sender ▸ steady.sound) rfl rfl rfl rfl rfl rfl rfl rfl

end World

structure Channel.Reaches (channel : Channel) (sender : Http.Sender) (number : Nat) (key : Option String)
    (jar : Option Nat) : Prop where
  muted : channel.Muted
  clear : ∃ url, channel.Open sender url
  only : channel.credentials.Only key jar
  jarred : jar = none ∨ jar = some number
  alone : key = none ∨ jar = none

def World.Admits (world : World) (number : Nat) (value : String) (jar : Option Nat) : Prop :=
  jar = some number ∧ world.Holds number value

theorem shows_iff {channel : Channel} {sender : Http.Sender} {number : Nat} {value : String} {world : World}
    {key : Option String} {jar : Option Nat} (reaches : channel.Reaches sender number key jar) (sound : Cookie.AllSound (world.jar number).cookies)
    (message : Message) (pin : Option String) (url : Url) :
    "auth" ++ "=" ++ value ∈ (Sent.posted channel message (Pairing.headers pin) url world.traffic).request.cookies ↔
      world.Admits number value jar := by
  rw [Http.Request.cookies, (posted_carries channel message pin url world.traffic key jar reaches.only).cookie]
  rcases reaches.jarred with rfl | rfl
  · simp [World.Admits]
  · have held := Cookie.piece_iff (world.jar number) sound "auth" value (by decide)
    exact held.trans ⟨fun holds => ⟨rfl, holds⟩, And.right⟩

def Service.Refusals.Open (refusals : Service.Refusals) : Prop :=
  ∀ asked name method params, refusals asked name method params = none

namespace Probe

theorem classified_admitted {reply : Reply} {outcome : Outcome} (classified : Classified reply outcome)
    (free : reply.fault = none) (admitted : reply.status = 200) : outcome = .ok := by
  cases classified with
  | displayOff off => simp [Reply.faultKind?, free] at off
  | ok on passed => rfl
  | needsPairing on stopped denied => exact absurd (.inl admitted) stopped
  | other on stopped unclear => exact absurd (.inl admitted) stopped

theorem classified_lost {reply : Reply} {outcome : Outcome} (classified : Classified reply outcome)
    (free : reply.fault = none) (lost : reply.status = 503) : outcome ≠ .ok := by
  rintro rfl
  cases classified with
  | ok on passed =>
      rcases passed with accepted | illegal
      · rw [lost] at accepted
        exact absurd accepted (by decide +kernel)
      · simp [Reply.faultKind?, free] at illegal

theorem classified_denied {reply : Reply} {outcome : Outcome} (classified : Classified reply outcome)
    (free : reply.fault = none) (denied : reply.status = 403) : outcome = .needsPairing := by
  cases classified with
  | displayOff off => simp [Reply.faultKind?, free] at off
  | ok on passed =>
      rcases passed with accepted | illegal
      · rw [denied] at accepted
        exact absurd accepted (by decide +kernel)
      · simp [Reply.faultKind?, free] at illegal
  | needsPairing on stopped denied => rfl
  | other on stopped unclear => exact absurd (.inr (.inr (.inl denied))) unclear

end Probe

variable {number : Nat} {path pin value : String} {world : World} {service : Service} {refusals : Service.Refusals}
  {key : Option String} {jar : Option Nat}

namespace Service

theorem held_legible (serves : world.Serves number path pin value) (jarred : jar = none ∨ jar = some number) :
    ∀ header, jar.bind world.traffic.cookies? = some header → world.sender.takes header = true := by
  rintro header sent
  rcases jarred with rfl | rfl
  · cases sent
  · exact Cookie.takes_header serves.sound sent

theorem ask_run (service : Service) (welcome : refusals.Open) (method : String) (world : World)
    (muted : service.channel.Muted) :
    (ask refusals method).perform ⟨service, world⟩ =
      if service.lacks method then (.ok (Reply.notImplemented method), ⟨service, world⟩)
      else
        let posted := (service.channel.post (service.nextCall method []).1.message []).run world
        (.ok (Reply.ofResponse posted.1), ⟨{ service with lastId := service.lastId + 1 }, posted.2⟩) := by
  have taken := welcome world.asked service.name method []
  rw [← execute_muted service method [] world muted, ask, perform_bind, perform_get]
  simp only [taken]

theorem ask_served (welcome : refusals.Open) (serves : world.Serves number path pin value)
    (reaches : service.channel.Reaches world.sender number key jar) (method : String)
    (probe : method = "getDeviceMode" ∨ method = "getPowerStatus") (offered : service.lacks method = false) :
    ∃ reply after, (ask refusals method).perform ⟨service, world⟩ = (.ok reply, after) ∧ reply.fault = none ∧
      (world.Admits number value jar → reply.status = 200) ∧
      (¬ world.Admits number value jar → reply.status = 403 ∨ key ≠ none ∧ reply.status = 503) := by
  obtain ⟨url, clear⟩ := reaches.clear
  let message := (service.nextCall method []).1.message
  let request := (Sent.posted service.channel message [] url world.traffic).request
  have calls : request.calls method := posted_calls service.channel (service.nextCall method []).1 url world.traffic
  have probes : request.calls "getDeviceMode" ∨ request.calls "getPowerStatus" := by
    rcases probe with rfl | rfl
    · exact .inl calls
    · exact .inr calls
  have shown : "auth" ++ "=" ++ value ∈ request.cookies ↔ world.Admits number value jar :=
    shows_iff reaches serves.sound.toAllSound message none url
  have run := ask_run service welcome method world reaches.muted
  rw [if_neg (by simp [offered])] at run
  refine ⟨_, _, run, ?_⟩
  cases sends : world.sender.sends request with
  | true =>
      have sent := World.answers_sent world.asked sends
      by_cases admitted : world.Admits number value jar
      · obtain ⟨response, answered, status, free⟩ := serves.pairs.admits _ request probes (shown.mpr admitted)
        rw [← sent] at answered
        rw [Channel.post_answered service.channel message [] world url clear.read response answered]
        refine ⟨Reply.fault_free _ _ free, fun _ => ?_, fun denied => absurd admitted denied⟩
        rw [Reply.ofResponse, Reply.status_of_body, status]
      · obtain ⟨response, answered, status, empty⟩ := serves.pairs.denies _ request probes (shown.not.mpr admitted)
        rw [← sent] at answered
        rw [Channel.post_answered service.channel message [] world url clear.read response answered]
        refine ⟨?_, fun allowed => absurd allowed admitted, fun _ => .inl ?_⟩
        · rw [Reply.ofResponse, empty]
          exact Reply.fault_of_empty _
        · rw [Reply.ofResponse, Reply.status_of_body, status]
  | false =>
      -- Only a key may be such that the client does not send it.
      have keyed : key ≠ none := by
        rintro rfl
        rw [show world.sender.sends request = true from
          posted_sends clear reaches.only (held_legible serves reaches.jarred) message none] at sends
        cases sends
      have unjarred := reaches.alone.resolve_left keyed
      obtain ⟨failed, refused⟩ := Http.Sender.refused_of_not_sends _ _ sends
      rw [((service.channel.post_posted message [] world clear.read).unsent failed refused).1]
      refine ⟨?_, fun admitted => ?_, fun _ => .inr ⟨keyed, Reply.status_of_body _ _⟩⟩
      · rw [Reply.ofResponse, Reply.of_body_other _ _ fun members read => ?_]
        exact nomatch (Http.Sender.refusal_unread _ _ refused).symm.trans read
      · exact nomatch unjarred.symm.trans admitted.1

end Service

namespace Probe

theorem probed_served (welcome : refusals.Open) (serves : world.Serves number path pin value)
    (reaches : service.channel.Reaches world.sender number key jar)
    (offers : service.lacks "getDeviceMode" = false ∨ service.lacks "getPowerStatus" = false)
    {result : Except Failure Outcome} {after : Scene Service} (probed : Probed refusals ⟨service, world⟩ result after) :
    (world.Admits number value jar → result = .ok .ok) ∧
      (¬ world.Admits number value jar →
        ∃ outcome, result = .ok outcome ∧ outcome ≠ .ok ∧ (key = none → outcome = .needsPairing)) := by
  have judged {reply : Reply} {outcome : Outcome} (classified : Classified reply outcome) (free : reply.fault = none)
      (allowed : world.Admits number value jar → reply.status = 200)
      (denied : ¬ world.Admits number value jar → reply.status = 403 ∨ key ≠ none ∧ reply.status = 503) :
      (world.Admits number value jar → (.ok outcome : Except Failure Outcome) = .ok .ok) ∧
        (¬ world.Admits number value jar →
          ∃ other, (.ok outcome : Except Failure Outcome) = .ok other ∧ other ≠ .ok ∧ (key = none → other = .needsPairing)) := by
    refine ⟨fun admitted => congrArg _ (classified_admitted classified free (allowed admitted)), fun refused => ?_⟩
    rcases denied refused with forbidden | ⟨keyed, lost⟩
    · obtain rfl := classified_denied classified free forbidden
      exact ⟨.needsPairing, rfl, by simp, fun _ => rfl⟩
    · exact ⟨outcome, rfl, classified_lost classified free lost, fun keyless => absurd keyless keyed⟩
  cases lacked : service.lacks "getDeviceMode" with
  | false =>
      obtain ⟨reply, last, run, free, allowed, denied⟩ :=
        Service.ask_served welcome serves reaches "getDeviceMode" (.inl rfl) lacked
      cases probed with
      | byMode asked known classified =>
          rw [run] at asked
          cases asked
          exact judged classified free allowed denied
      | byPower asked unknown again classified =>
          rw [run] at asked
          cases asked
          simp [Reply.faultKind?, free] at unknown
      | modeFailed asked =>
          rw [run] at asked
          cases asked
      | powerFailed asked unknown again =>
          rw [run] at asked
          cases asked
          simp [Reply.faultKind?, free] at unknown
  | true =>
      obtain ⟨mode, absent, run⟩ : ∃ mode : Reply, mode.faultKind? = some .notImplemented ∧
          (Service.ask refusals "getDeviceMode").perform ⟨service, world⟩ = (.ok mode, ⟨service, world⟩) := by
        refine ⟨Reply.notImplemented "getDeviceMode", rfl, ?_⟩
        rw [Service.ask_run service welcome _ world reaches.muted, if_pos lacked]
      obtain ⟨reply, last, power, free, allowed, denied⟩ := Service.ask_served welcome serves reaches "getPowerStatus"
        (.inr rfl) (offers.resolve_left (by simp [lacked]))
      cases probed with
      | byMode asked known classified =>
          rw [run] at asked
          cases asked
          exact absurd absent known
      | byPower asked unknown again classified =>
          rw [run] at asked
          cases asked
          rw [power] at again
          cases again
          exact judged classified free allowed denied
      | modeFailed asked =>
          rw [run] at asked
          cases asked
      | powerFailed asked unknown again =>
          rw [run] at asked
          cases asked
          rw [power] at again
          cases again

theorem probed_keeping (serves : world.Serves number path pin value)
    (reaches : service.channel.Reaches world.sender number key jar)
    {result : Except Failure Outcome} {after : Scene Service} (probed : Probed refusals ⟨service, world⟩ result after) :
    World.Keeping number path world after.world := by
  have jarred : service.channel.credentials.jar = none ∨ service.channel.credentials.jar = some number := by
    rw [reaches.only.2]
    exact reaches.jarred
  refine (probed_keeps refusals service world result after reaches.muted
    (World.keeping_refl serves.backs serves.sound) (fun call probes => ?_) probed).1.world
  refine Channel.post_keeping _ _ _ jarred (fun url traffic => ?_) (spared_by serves.pairs) serves.delivers
  refine posted_calls_other _ call url traffic "actRegister" ?_
  rcases probes with mode | power
  · simp [mode.1]
  · simp [power.1]

end Probe

structure Channel.Fit (channel : Channel) (sender : Http.Sender) : Prop where
  muted : channel.Muted
  clear : ∃ url, channel.Open sender url
  bare : channel.credentials.headers = [] ∧ channel.credentials.jar = none

def Service.Probes (service : Service) : Prop :=
  service.lacks "getDeviceMode" = false ∨ service.lacks "getPowerStatus" = false

theorem with_key_reaches {sender : Http.Sender} (fit : service.channel.Fit sender) (number : Nat) (key : String) :
    (service.carrying (·.withHeader keyHeader key)).channel.Reaches sender number (some key) none := by
  obtain ⟨url, clear⟩ := fit.clear
  refine ⟨fit.muted, ⟨url, clear.read, clear.path, clear.timed⟩, ⟨?_, fit.bare.2⟩, .inl rfl, .inr rfl⟩
  change Ordered.put service.channel.credentials.headers keyHeader key = _
  rw [fit.bare.1]
  rfl

theorem with_jar_reaches {sender : Http.Sender} (fit : service.channel.Fit sender) (number : Nat) :
    (service.carrying (·.withJar number)).channel.Reaches sender number none (some number) := by
  obtain ⟨url, clear⟩ := fit.clear
  exact ⟨fit.muted, ⟨url, clear.read, clear.path, clear.timed⟩, ⟨fit.bare.1, rfl⟩, .inr rfl, .inl rfl⟩

namespace Login

variable {login : Login} {system probed : Service} {after : World}

theorem tried_served {put back : Credentials → Credentials} {result : Except Failure Outcome}
    (welcome : login.refusals.Open) (serves : world.Serves login.jar path pin value) (probes : service.Probes)
    (reaches : (service.carrying put).channel.Reaches world.sender login.jar key jar)
    (tried : login.Attempted put back service world result probed after) :
    World.Keeping login.jar path world after ∧ (world.Admits login.jar value jar → result = .ok .ok) ∧
      (¬ world.Admits login.jar value jar →
        ∃ outcome, result = .ok outcome ∧ outcome ≠ .ok ∧ (key = none → outcome = .needsPairing)) := by
  obtain ⟨asked, logged⟩ := tried
  have kept := Probe.probed_keeping serves reaches asked
  exact ⟨World.keeping_trans kept (World.logged_kept kept.toSteady logged),
    Probe.probed_served welcome serves reaches probes asked⟩

theorem tried_key_served {result : Except Failure Outcome} {key : String} (welcome : login.refusals.Open)
    (serves : world.Serves login.jar path pin value) (fit : system.channel.Fit world.sender) (probes : system.Probes)
    (tried : login.TriedKey key system world result probed after) :
    World.Keeping login.jar path world after ∧ probed.channel.Fit world.sender ∧ probed.Probes ∧
      ∃ outcome, result = .ok outcome ∧ outcome ≠ .ok := by
  obtain ⟨kept, -, denied⟩ := tried_served welcome serves probes (with_key_reaches fit login.jar key) tried
  obtain ⟨number, same⟩ := tried_service login tried (with_key_reaches fit login.jar key).muted
  have restored := (tried_key_restored login tried fit.muted).taken (fresh_of_bare fit.bare)
  obtain ⟨outcome, ended, refused, -⟩ := denied fun admitted => nomatch admitted.1
  refine ⟨kept, restored ▸ fit, ?_, outcome, ended, refused⟩
  rw [same]
  exact probes

theorem without_key_served (welcome : login.refusals.Open) (serves : world.Serves login.jar path pin value)
    (fit : system.channel.Fit world.sender) (probes : system.Probes)
    (without : login.WithoutKey system world probed after) :
    World.Keeping login.jar path world after ∧ probed.channel.Fit world.sender ∧ probed.Probes := by
  cases without with
  | unusable none => exact ⟨World.keeping_refl serves.backs serves.sound, fit, probes⟩
  | rejected usable tried refused =>
      obtain ⟨kept, still, probing, -⟩ := tried_key_served welcome serves fit probes tried
      exact ⟨kept, still, probing⟩

theorem checked_served {verdict : Except Failure Verdict} (welcome : login.refusals.Open)
    (serves : world.Serves login.jar path pin value) (fit : system.channel.Fit world.sender) (probes : system.Probes)
    (checked : login.Checked system world verdict probed after) :
    World.Keeping login.jar path world after ∧ (world.Holds login.jar value → verdict = .ok .byCookie) ∧
      (¬ world.Holds login.jar value → verdict = .ok (.none .needsPairing)) := by
  have byCookies {keyless last : Service} {middle final : World} {result : Except Failure Outcome}
      (without : login.WithoutKey system world keyless middle)
      (tried : login.TriedCookies keyless middle result last final) :
      World.Keeping login.jar path world final ∧ (world.Holds login.jar value → result = .ok .ok) ∧
        (¬ world.Holds login.jar value → result = .ok .needsPairing) := by
    obtain ⟨kept, still, probing⟩ := without_key_served welcome serves fit probes without
    obtain ⟨later, allowed, denied⟩ := tried_served welcome (World.serves_steady serves kept.toSteady) probing
      (with_jar_reaches (kept.sender ▸ still) login.jar) tried
    have holds : middle.Holds login.jar value ↔ world.Holds login.jar value := World.holds_keeping kept
    refine ⟨World.keeping_trans kept later, fun held => allowed ⟨rfl, holds.mpr held⟩, fun bare => ?_⟩
    obtain ⟨outcome, ended, -, pairing⟩ := denied fun admitted => bare (holds.mp admitted.2)
    rw [ended, pairing rfl]
  cases checked with
  | keyFailed usable tried =>
      obtain ⟨-, -, -, outcome, ended, -⟩ := tried_key_served welcome serves fit probes tried
      cases ended
  | byKey usable tried =>
      obtain ⟨-, -, -, outcome, ended, refused⟩ := tried_key_served welcome serves fit probes tried
      cases ended
      exact absurd rfl refused
  | cookiesFailed without tried =>
      obtain ⟨kept, allowed, denied⟩ := byCookies without tried
      refine ⟨kept, fun held => ?_, fun bare => ?_⟩
      · cases allowed held
      · cases denied bare
  | byCookies without tried =>
      obtain ⟨kept, allowed, denied⟩ := byCookies without tried
      refine ⟨kept, fun _ => rfl, fun bare => ?_⟩
      cases denied bare
  | refused without tried refused =>
      obtain ⟨kept, allowed, denied⟩ := byCookies without tried
      refine ⟨kept, fun held => ?_, fun bare => ?_⟩
      · exact absurd (Except.ok.inj (allowed held)) refused
      · cases denied bare
        rfl

end Login

end DeviceLogin
