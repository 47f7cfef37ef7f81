import DeviceLogin.Proofs.Pairing.Admission

set_option autoImplicit false

namespace DeviceLogin

open Act

namespace Pairing

variable {pin : Option String} {reply : Reply} {outcome : Outcome}

theorem registered_denied (registered : Registered pin reply outcome)
    (denied : reply.status = 401) : outcome ≠ .ok ∧ (pin = none → outcome = .pending) := by
  cases registered with
  | pending denied shown => exact ⟨by simp, fun _ => rfl⟩
  | needsPairing denied wrong => exact ⟨by simp, fun none => absurd none wrong⟩
  | displayOff allowed off => exact absurd (.inl denied) allowed
  | other allowed on failed => exact absurd (.inl denied) allowed
  | ok sound accepted =>
      rw [denied] at accepted
      exact absurd accepted (by decide +kernel)

end Pairing

-- One request for registration went out, and the cookie that it was answered with is in the jar and in its file.
structure World.Enrolled (number : Nat) (path value : String) (start now : World) : Prop
    extends World.Steady number path start now where
  request : ∃ request, now.asked = start.asked ++ [request] ∧ request.calls "actRegister"
  holds : now.Holds number value
  mirrors : now.Mirrors number path

variable {number : Nat} {path pin value : String} {world : World} {service : Service}

theorem pairing_credentials {channel : Channel} {key : Option String} {jar : Option Nat} (message : Message)
    (pin : Option String) (url : Url) (traffic : Traffic) (only : channel.credentials.Only key jar) :
    let request := (Sent.posted channel message (Pairing.headers pin) url traffic).request
    request.headers.get? "Authorization" = pin.map Pairing.basic ∧ request.credentials? = pin.map (("", ·)) := by
  have sent := (posted_carries channel message pin url traffic key jar only).authorization
  refine ⟨sent, ?_⟩
  rw [Http.Request.credentials?, sent]
  cases pin with
  | none => rfl
  | some pin => rw [Option.map_some, Option.bind_some, Http.read_basic, Option.map_some]

theorem pairing_calls (channel : Channel) (clientId : String) (extra : Ordered String) (url : Url) (traffic : Traffic) :
    (Sent.posted channel (Pairing.message clientId) extra url traffic).request.calls "actRegister" :=
  Http.calls_of_body _ _ _ rfl

structure World.Answered (number : Nat) (path : String) (request : Http.Request) (settings : List String)
    (start now : World) : Prop extends World.Steady number path start now where
  asked : now.asked = start.asked ++ [request]
  cookies : (now.jar number).cookies = settings.foldl Cookie.apply (start.jar number).cookies
  mirrors : (now.jar number).cookies ≠ (start.jar number).cookies → now.Mirrors number path

theorem post_stored {channel : Channel} {key : Option String} (serves : world.Serves number path pin value)
    (reaches : channel.Reaches world.sender number key (some number)) (message : Message) (extra : Ordered String) (url : Url)
    (read : Url.read? channel.url = some url) (answer : Http.Response)
    (answered : (world.answers world.asked (Sent.posted channel message extra url world.traffic).request).response? =
      some answer) :
    ((channel.post message extra).run world).1 = answer ∧
      World.Answered number path (Sent.posted channel message extra url world.traffic).request
        (World.settingsIn answer.headers) world ((channel.post message extra).run world).2 := by
  have asking := World.asking_steady (Sent.posted channel message extra url world.traffic).request
    (World.keeping_refl serves.backs serves.sound).toSteady
  have takes : ∀ setting ∈ World.settingsIn answer.headers, world.sender.takes setting = true :=
    fun setting member => serves.delivers _ _ setting (World.setting_sent answered member)
  have stored := World.store_run asking.backs asking.sound (World.settingsIn answer.headers) takes
  have cookies := stored.cookies
  have mirrors := stored.mirrors
  rw [World.jar_asking] at cookies mirrors
  rw [Channel.post_answered channel message extra world url read answer answered, Channel.keep, reaches.only.2]
  exact ⟨rfl, World.steady_trans asking stored.toSteady, stored.asked, cookies, fun changed => mirrors (.inr changed)⟩

namespace Login

variable {login : Login} {code : String} {outcome : Outcome} {after : World}

theorem answered_logged {request : Http.Request} {settings : List String} {posted : World}
    (answered : World.Answered number path request settings world posted) (logged : World.Logged posted after) :
    World.Answered number path request settings world after := by
  have kept := World.logged_kept answered.toSteady logged
  obtain ⟨lines, minor, rfl⟩ := logged
  exact ⟨World.steady_trans answered.toSteady kept.toSteady, answered.asked, answered.cookies,
    fun changed => kept.mirrors (answered.mirrors changed)⟩

theorem paired_answered (serves : world.Serves login.jar path pin value) (fit : service.channel.Fit world.sender)
    (paired : login.Paired service world code outcome after) :
    ∃ shown request, shown = (if Settings.isRequest code then none else some code) ∧ request.calls "actRegister" ∧
      request.headers.get? "Authorization" = shown.map Pairing.basic ∧ request.credentials? = shown.map (("", ·)) ∧
      ∀ answer, (world.device (world.asked.filter world.sender.sends) request).response? = some answer →
        Pairing.Registered shown (Reply.ofResponse answer) outcome ∧
          World.Answered login.jar path request (World.settingsIn answer.headers) world after := by
  obtain ⟨given, asked, registered, logged⟩ := paired
  rename_i shown response posted
  have reaches := with_jar_reaches fit login.jar
  obtain ⟨url, clear⟩ := reaches.clear
  let message := Pairing.message login.settings.client
  obtain ⟨header, credentials⟩ := pairing_credentials message shown url world.traffic reaches.only
  refine ⟨shown, _, given, pairing_calls _ login.settings.client _ url world.traffic, header, credentials, ?_⟩
  intro answer answered
  have sends := posted_sends clear reaches.only (Service.held_legible serves reaches.jarred) message shown
  rw [← World.answers_sent world.asked sends] at answered
  obtain ⟨same, stored⟩ := post_stored serves reaches message (Pairing.headers shown) url clear.read answer answered
  rw [asked] at same stored
  dsimp only at same stored
  exact ⟨same ▸ registered, answered_logged stored logged⟩

theorem paired_denied (serves : world.Serves login.jar path pin value) (fit : service.channel.Fit world.sender)
    (other : Settings.isRequest code = true ∨ code ≠ pin) (paired : login.Paired service world code outcome after) :
    World.Steady login.jar path world after ∧ (after.Holds login.jar value ↔ world.Holds login.jar value) ∧
      outcome ≠ .ok ∧ (Settings.isRequest code = true → outcome = .pending) := by
  obtain ⟨shown, request, given, calls, header, credentials, coming⟩ := paired_answered serves fit paired
  have wrong : shown ≠ some pin := by
    rw [given]
    rcases other with asks | apart
    · simp [asks]
    · simp [apart]
  have refused : request.headers.get? "Authorization" = none ∨
      ∃ user other, request.credentials? = some (user, other) ∧ other ≠ pin := by
    cases shown with
    | none => exact .inl header
    | some other => exact .inr ⟨"", other, credentials, fun same => wrong (congrArg some same)⟩
  have unregistered : ¬ (request.calls "actRegister" ∧ request.credentials? = some ("", pin)) := by
    rintro ⟨-, registered⟩
    obtain ⟨other, same, pair⟩ := Option.map_eq_some_iff.mp (credentials.symm.trans registered)
    exact wrong (same.trans (congrArg (fun pair => some pair.2) pair))
  obtain ⟨answer, answered, status⟩ := serves.pairs.refuses _ request calls refused
  obtain ⟨registered, kept⟩ := coming answer answered
  have spares := serves.pairs.silent (world.asked.filter world.sender.sends) request unregistered
  rw [Http.Exchange.settings, answered] at spares
  obtain ⟨refusal, pending⟩ := Pairing.registered_denied registered (by rw [Reply.ofResponse, Reply.status_of_body, status])
  refine ⟨kept.toSteady, ?_, refusal, fun asks => pending (by rw [given, if_pos asks])⟩
  rw [World.Holds, kept.cookies, Cookie.get_spared_fold _ _ "auth" spares, World.Holds]

theorem paired_taken (serves : world.Serves login.jar path pin value) (fit : service.channel.Fit world.sender)
    (plain : ';' ∉ value.toList) (unheld : ¬ world.Holds login.jar value) (code : Settings.isRequest pin = false)
    (paired : login.Paired service world pin outcome after) :
    outcome = .ok ∧ World.Enrolled login.jar path value world after := by
  obtain ⟨shown, request, given, calls, header, credentials, coming⟩ := paired_answered serves fit paired
  obtain rfl : shown = some pin := by simpa [code] using given
  obtain ⟨answer, answered, status, free, sets, each⟩ := serves.pairs.registers _ request calls credentials
  obtain ⟨registered, kept⟩ := coming answer answered
  have holds : after.Holds login.jar value := by
    rw [World.Holds, kept.cookies]
    exact Cookie.get_sets_fold _ _ "auth" value (by decide) (by decide) plain each (.inr sets)
  have changed : (after.jar login.jar).cookies ≠ (world.jar login.jar).cookies := by
    intro same
    rw [World.Holds, same] at holds
    exact unheld holds
  refine ⟨(Pairing.registered_ok_iff registered).mpr ⟨?_, Reply.fault_free _ _ free⟩, ?_⟩
  · rw [Reply.ofResponse, Reply.status_of_body, status]
  · exact ⟨kept.toSteady, ⟨request, kept.asked, calls⟩, holds, kept.mirrors changed⟩

end Login

end DeviceLogin
