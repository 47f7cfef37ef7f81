import DeviceLogin.Proofs.Login.Settling
import DeviceLogin.Proofs.Sending

set_option autoImplicit false

namespace DeviceLogin

open Act

def Channel.Unasking (channel : Channel) : Prop := channel.credentials.autoAuth = false ∨ channel.reauthorize = none

theorem unasking_asks {channel : Channel} (quiet : channel.Unasking) (response : Http.Response) (reauthorize : Reauthorize) :
    ¬ channel.Asks response reauthorize := by
  rintro ⟨on, -, hook⟩
  rcases quiet with off | none
  · exact Bool.false_ne_true (off.symm.trans on)
  · exact nomatch none.symm.trans hook

def Traffic.LetsIn (traffic : Traffic) (url : String) (sends : List Sent) : Prop :=
  ∃ earlier last, sends = earlier ++ [last] ∧
    Probe.Classified (Reply.ofResponse ((traffic.afterAll earlier).answer url last)) .ok

theorem unreadable_refused : ¬ Probe.Classified (Reply.ofResponse (Channel.unavailable Failure.badAddress.message)) .ok := by
  intro classified
  cases classified with
  | ok on passed => exact absurd passed (by decide +kernel)

theorem posted_probe (channel : Channel) (call : Call) (probe : Probe.IsCall call) (world : World) {response : Http.Response}
    {after : World} (posted : (channel.post call.message []).run world = (response, after)) :
    ∃ sends, after.traffic = world.traffic.afterAll sends ∧ world.traffic.Along (Sent.Over channel Probe.IsCall) sends ∧
      (Probe.Classified (Reply.ofResponse response) .ok → world.traffic.LetsIn channel.url sends) := by
  have traffic := (Channel.post_reached channel call.message [] world).2
  rw [posted] at traffic
  cases read : Url.read? channel.url with
  | none =>
      have nothing : channel.sends call.message [] world.traffic = [] := by rw [Channel.sends, read]; rfl
      have answer := Channel.post_answer channel call.message [] world
      rw [posted, Channel.exchanged, World.request_bad_address _ _ _ read] at answer
      rw [nothing] at traffic
      have unread : response = Channel.unavailable Failure.badAddress.message := answer
      exact ⟨[], traffic, trivial, fun classified => absurd (unread ▸ classified) unreadable_refused⟩
  | some url =>
      let sent := Sent.posted channel call.message [] url world.traffic
      have one : channel.sends call.message [] world.traffic = [sent] := by rw [Channel.sends, read]; rfl
      have answer := post_sent channel call.message [] world url read
      rw [posted] at answer
      rw [one] at traffic
      have answered : response = world.traffic.answer channel.url sent := answer
      exact ⟨[sent], traffic, ⟨⟨call, url, probe, read, rfl⟩, trivial⟩, fun classified => ⟨[], sent, rfl, answered ▸ classified⟩⟩

theorem lacking_refused (method : String) : ¬ Probe.Classified (Reply.notImplemented method) .ok := by
  intro classified
  cases classified with
  | ok on passed =>
      have apart : (501 : Number) ≠ 200 := by decide +kernel
      rcases passed with status | fault
      · exact apart status
      · cases fault

namespace Service

variable (service : Service) (world : World)

-- The service has sent requests of a probe, and is as it was but for the number of its last call.
structure Sending (sends : List Sent) (after : Scene Service) : Prop where
  same : ∃ number, after.focus = { service with lastId := number }
  traffic : after.world.traffic = world.traffic.afterAll sends
  along : world.traffic.Along (Sent.Over service.channel Probe.IsCall) sends

theorem sending_nothing : service.Sending world [] ⟨service, world⟩ := ⟨⟨service.lastId, rfl⟩, rfl, trivial⟩

theorem sending_channel {service : Service} {world : World} {sends : List Sent} {after : Scene Service}
    (sending : service.Sending world sends after) : after.focus.channel = service.channel := by
  obtain ⟨number, same⟩ := sending.same
  rw [same]

theorem sending_trans {service : Service} {world : World} {first second : List Sent} {middle after : Scene Service}
    (early : service.Sending world first middle) (late : middle.focus.Sending middle.world second after) :
    service.Sending world (first ++ second) after := by
  obtain ⟨number, same⟩ := early.same
  obtain ⟨last, later⟩ := late.same
  refine ⟨⟨last, by rw [later, same]⟩, ?_, ?_⟩
  · rw [late.traffic, early.traffic, Traffic.after_all_append]
  · rw [Traffic.along_append, ← early.traffic, ← sending_channel early]
    exact ⟨sending_channel early ▸ early.along, late.along⟩

theorem execute_sending (quiet : service.channel.Unasking) (method : String)
    (probes : ∀ call : Call, call.Of method [] → Probe.IsCall call) :
    let ended := (execute method []).perform ⟨service, world⟩
    ∃ sends, service.Sending world sends ended.2 ∧
      ∀ reply, ended.1 = .ok reply → Probe.Classified reply .ok → world.traffic.LetsIn service.channel.url sends := by
  cases lacks : service.lacks method with
  | true =>
      rw [execute_lacking service method [] world lacks]
      refine ⟨[], sending_nothing service world, fun reply answered classified => ?_⟩
      rw [← Except.ok.inj answered] at classified
      exact absurd classified (lacking_refused method)
  | false =>
      rcases posted : (service.channel.post (service.nextCall method []).1.message []).run world with ⟨response, after⟩
      have sent := Channel.send_once service.channel _ [] world posted fun _ => unasking_asks quiet response _
      obtain ⟨sends, traffic, along, accepted⟩ := posted_probe service.channel _ (probes _ ⟨rfl, rfl⟩) world posted
      rw [execute_sent service method [] lacks sent]
      refine ⟨sends, ⟨⟨_, rfl⟩, traffic, along⟩, fun reply answered classified => accepted ?_⟩
      rw [← Except.ok.inj answered] at classified
      exact classified

theorem ask_sending (refusals : Refusals) (quiet : service.channel.Unasking) (method : String)
    (probes : ∀ call : Call, call.Of method [] → Probe.IsCall call) {result : Except Failure Reply} {after : Scene Service}
    (asked : (ask refusals method).perform ⟨service, world⟩ = (result, after)) :
    ∃ sends, service.Sending world sends after ∧
      ∀ reply, result = .ok reply → Probe.Classified reply .ok → world.traffic.LetsIn service.channel.url sends := by
  rw [ask, perform_bind, perform_get] at asked
  cases refused : refusals world.asked service.name method [] with
  | some failure =>
      simp only [refused] at asked
      cases asked
      exact ⟨[], sending_nothing service world, fun reply answered => nomatch answered⟩
  | none =>
      simp only [refused] at asked
      have ended := execute_sending service world quiet method probes
      rw [asked] at ended
      exact ended

end Service

namespace Probe

theorem probed_sending (refusals : Service.Refusals) (service : Service) (world : World) {result : Except Failure Outcome}
    {after : Scene Service} (quiet : service.channel.Unasking) (probed : Probed refusals ⟨service, world⟩ result after) :
    ∃ sends, service.Sending world sends after ∧
      (result = .ok .ok → world.traffic.LetsIn service.channel.url sends) := by
  have byMode (call : Call) (named : call.Of "getDeviceMode" []) : IsCall call := .inl named
  have byPower (call : Call) (named : call.Of "getPowerStatus" []) : IsCall call := .inr named
  cases probed with
  | @byMode mode outcome after asked known classified =>
      obtain ⟨sends, sending, accepted⟩ := Service.ask_sending service world refusals quiet _ byMode asked
      refine ⟨sends, sending, fun passed => accepted mode rfl ?_⟩
      rw [← Except.ok.inj passed]
      exact classified
  | modeFailed asked =>
      obtain ⟨sends, sending, -⟩ := Service.ask_sending service world refusals quiet _ byMode asked
      exact ⟨sends, sending, fun passed => nomatch passed⟩
  | @byPower mode power outcome middle after asked unknown again classified =>
      obtain ⟨first, early, -⟩ := Service.ask_sending service world refusals quiet _ byMode asked
      have calm : middle.focus.channel.Unasking := Service.sending_channel early ▸ quiet
      obtain ⟨second, late, accepted⟩ := Service.ask_sending middle.focus middle.world refusals calm _ byPower again
      refine ⟨first ++ second, Service.sending_trans early late, fun passed => ?_⟩
      have classified : Classified power .ok := Except.ok.inj passed ▸ classified
      obtain ⟨earlier, last, rfl, let_in⟩ := accepted power rfl classified
      refine ⟨first ++ earlier, last, by rw [List.append_assoc], ?_⟩
      rwa [Traffic.after_all_append, ← early.traffic, ← Service.sending_channel early]
  | @powerFailed mode failure middle after asked unknown again =>
      obtain ⟨first, early, -⟩ := Service.ask_sending service world refusals quiet _ byMode asked
      have calm : middle.focus.channel.Unasking := Service.sending_channel early ▸ quiet
      obtain ⟨second, late, -⟩ := Service.ask_sending middle.focus middle.world refusals calm _ byPower again
      exact ⟨first ++ second, Service.sending_trans early late, fun passed => nomatch passed⟩

end Probe

theorem over_headers {channel : Channel} {calls : Call → Prop} {traffic : Traffic} {sent : Sent}
    (distinct : (Ordered.keys channel.credentials.headers).Nodup) (posted : Sent.Over channel calls traffic sent) :
    sent.request.headers.get? keyHeader = channel.credentials.key? ∧
      sent.request.headers.get? "Cookie" =
        (channel.credentials.jar.bind traffic.cookies?).or (channel.credentials.headers.get? "Cookie") := by
  obtain ⟨call, url, known, read, rfl⟩ := posted
  have headers : (Sent.posted channel call.message [] url traffic).request.headers =
      channel.headersFor [] (channel.credentials.jar.bind traffic.cookies?) := rfl
  have own (name : String) (foreign : name ≠ "Content-Type" ∧ name ≠ "Accept") :
      channel.setting? [] name = channel.credentials.headers.get? name := by
    rw [Channel.setting?, Ordered.last_of_distinct _ _ distinct]
    simp [Ordered.last?, Ordered.get?, Ne.symm foreign.1, Ne.symm foreign.2]
  rw [headers, Channel.get_headers_for, Channel.get_headers_for, if_neg (by decide), if_pos rfl, own _ (by decide),
    own _ (by decide)]
  exact ⟨rfl, rfl⟩

namespace Login

variable (login : Login)

theorem tried_sending {put back : Credentials → Credentials} {service probed : Service} {before after : World}
    {result : Except Failure Outcome} (tried : login.Attempted put back service before result probed after)
    (quiet : service.channel.Unasking) (same : ∀ credentials, (put credentials).autoAuth = credentials.autoAuth) :
    ∃ sends, (∃ number, probed = { (service.carrying put).carrying back with lastId := number }) ∧
      after.traffic = before.traffic.afterAll sends ∧
      before.traffic.Along (Sent.Over (service.carrying put).channel Probe.IsCall) sends ∧
      (result = .ok .ok → before.traffic.LetsIn service.channel.url sends) := by
  obtain ⟨asked, logged⟩ := tried
  have calm : (service.carrying put).channel.Unasking := quiet.imp (fun off => (same _).trans off) id
  obtain ⟨sends, sending, accepted⟩ := Probe.probed_sending _ _ _ calm asked
  obtain ⟨number, focus⟩ := sending.same
  refine ⟨sends, ⟨number, ?_⟩, (logged_traffic logged).trans sending.traffic, sending.along, accepted⟩
  rw [focus]
  rfl

def KeyAttempt (login : Login) (left : Credentials) (traffic : Traffic) (sent : Sent) : Prop :=
  ∃ key, login.settings.HasKey key ∧ sent.request.headers.get? keyHeader = some key ∧
    sent.request.headers.get? "Cookie" = (left.jar.bind traffic.cookies?).or (left.headers.get? "Cookie")

structure CookieAttempt (login : Login) (left : Credentials) (traffic : Traffic) (sent : Sent) : Prop where
  cookie : sent.request.headers.get? "Cookie" = (traffic.cookies? login.jar).or (left.headers.get? "Cookie")
  keyless : (∃ key, login.settings.HasKey key) → sent.request.headers.get? keyHeader = none
  left : (∀ key, ¬ login.settings.HasKey key) → sent.request.headers.get? keyHeader = left.key?

theorem key_sending {key : String} {system probed : Service} {before after : World} {result : Except Failure Outcome}
    (usable : login.settings.HasKey key) (tried : login.TriedKey key system before result probed after)
    (quiet : system.channel.Unasking) (distinct : (Ordered.keys system.channel.credentials.headers).Nodup) :
    ∃ keyed, (∃ number, probed =
        { (system.carrying (·.withHeader keyHeader key)).carrying (·.withoutHeader keyHeader) with lastId := number }) ∧
      after.traffic = before.traffic.afterAll keyed ∧
      before.traffic.Along (login.KeyAttempt system.channel.credentials) keyed ∧
      (result = .ok .ok → before.traffic.LetsIn system.channel.url keyed) := by
  obtain ⟨keyed, same, traffic, along, accepted⟩ := tried_sending login tried quiet fun _ => rfl
  refine ⟨keyed, same, traffic, Traffic.along_mono (fun traffic sent posted => ?_) _ _ along, accepted⟩
  obtain ⟨carried, cookie⟩ := over_headers (Ordered.nodup_keys_put _ _ _ distinct) posted
  refine ⟨key, usable, ?_, ?_⟩
  · rw [carried]
    exact (Ordered.get_put _ _ _ _).trans (if_pos rfl)
  · have own : (system.channel.credentials.headers.put keyHeader key).get? "Cookie" =
        system.channel.credentials.headers.get? "Cookie" := (Ordered.get_put _ _ _ _).trans (if_neg (by decide))
    rw [cookie, ← own]
    rfl

structure Keyless (login : Login) (system keyless : Service) : Prop where
  url : keyless.channel.url = system.channel.url
  quiet : keyless.channel.Unasking
  distinct : (Ordered.keys keyless.channel.credentials.headers).Nodup
  cookie : keyless.channel.credentials.headers.get? "Cookie" = system.channel.credentials.headers.get? "Cookie"
  gone : (∃ key, login.settings.HasKey key) → keyless.channel.credentials.key? = none
  left : (∀ key, ¬ login.settings.HasKey key) → keyless.channel.credentials.key? = system.channel.credentials.key?

theorem without_key_sending {system keyless : Service} {world middle : World}
    (without : login.WithoutKey system world keyless middle) (quiet : system.channel.Unasking)
    (distinct : (Ordered.keys system.channel.credentials.headers).Nodup) :
    ∃ keyed, middle.traffic = world.traffic.afterAll keyed ∧
      world.traffic.Along (login.KeyAttempt system.channel.credentials) keyed ∧ login.Keyless system keyless := by
  cases without with
  | unusable none =>
      refine ⟨[], rfl, trivial, rfl, quiet, distinct, rfl, ?_, fun _ => rfl⟩
      rintro ⟨key, usable⟩
      exact absurd usable (none key)
  | @rejected key outcome probed after usable tried refused =>
      obtain ⟨keyed, ⟨number, rfl⟩, traffic, along, -⟩ := key_sending login usable tried quiet distinct
      refine ⟨keyed, traffic, along, rfl, quiet, ?_, ?_, fun _ => ?_, fun none => absurd usable (none key)⟩
      · exact Ordered.nodup_keys_erase _ _ (Ordered.nodup_keys_put _ _ _ distinct)
      · change (Ordered.erase (Ordered.put _ _ _) _).get? "Cookie" = _
        rw [Ordered.erase_put, Ordered.get_erase, if_neg (by decide)]
      · exact (Ordered.get_erase _ _ _).trans (if_pos rfl)

theorem cookies_sending {system keyless probed : Service} {before after : World} {result : Except Failure Outcome}
    (found : login.Keyless system keyless) (tried : login.TriedCookies keyless before result probed after) :
    ∃ cookied, after.traffic = before.traffic.afterAll cookied ∧
      before.traffic.Along (login.CookieAttempt system.channel.credentials) cookied ∧
      (result = .ok .ok → before.traffic.LetsIn system.channel.url cookied) := by
  obtain ⟨cookied, -, traffic, along, accepted⟩ := tried_sending login tried found.quiet fun _ => rfl
  refine ⟨cookied, traffic, Traffic.along_mono (fun traffic sent posted => ?_) _ _ along, found.url ▸ accepted⟩
  have distinct : (Ordered.keys (keyless.carrying (·.withJar login.jar)).channel.credentials.headers).Nodup := found.distinct
  obtain ⟨carried, cookie⟩ := over_headers distinct posted
  exact ⟨by rw [cookie, ← found.cookie]; rfl, fun usable => carried.trans (found.gone usable),
    fun unusable => carried.trans (found.left unusable)⟩

theorem checked_sending {system probed : Service} {world after : World} {result : Except Failure Verdict}
    (checked : login.Checked system world result probed after) (quiet : system.channel.Unasking)
    (distinct : (Ordered.keys system.channel.credentials.headers).Nodup) :
    ∃ keyed cookied, after.traffic = world.traffic.afterAll (keyed ++ cookied) ∧
      world.traffic.Along (login.KeyAttempt system.channel.credentials) keyed ∧
      (world.traffic.afterAll keyed).Along (login.CookieAttempt system.channel.credentials) cookied ∧
      (result = .ok .byKey → cookied = [] ∧ world.traffic.LetsIn system.channel.url keyed) ∧
      (result = .ok .byCookie → (world.traffic.afterAll keyed).LetsIn system.channel.url cookied) := by
  have alone {key : String} {tried : Except Failure Outcome} (usable : login.settings.HasKey key)
      (attempt : login.TriedKey key system world tried probed after) :=
    key_sending login usable attempt quiet distinct
  have both {keyless : Service} {middle : World} {tried : Except Failure Outcome}
      (without : login.WithoutKey system world keyless middle)
      (attempt : login.TriedCookies keyless middle tried probed after) :
      ∃ keyed cookied, after.traffic = world.traffic.afterAll (keyed ++ cookied) ∧
        world.traffic.Along (login.KeyAttempt system.channel.credentials) keyed ∧
        (world.traffic.afterAll keyed).Along (login.CookieAttempt system.channel.credentials) cookied ∧
        (tried = .ok .ok → (world.traffic.afterAll keyed).LetsIn system.channel.url cookied) := by
    obtain ⟨keyed, first, early, found⟩ := without_key_sending login without quiet distinct
    obtain ⟨cookied, second, late, accepted⟩ := cookies_sending login found attempt
    rw [first] at second late accepted
    exact ⟨keyed, cookied, by rw [second, Traffic.after_all_append], early, late, accepted⟩
  cases checked with
  | keyFailed usable tried =>
      obtain ⟨keyed, -, traffic, along, -⟩ := alone usable tried
      exact ⟨keyed, [], by rwa [List.append_nil], along, trivial, nofun, nofun⟩
  | byKey usable tried =>
      obtain ⟨keyed, -, traffic, along, accepted⟩ := alone usable tried
      exact ⟨keyed, [], by rwa [List.append_nil], along, trivial, fun _ => ⟨rfl, accepted rfl⟩, nofun⟩
  | cookiesFailed without tried =>
      obtain ⟨keyed, cookied, traffic, early, late, -⟩ := both without tried
      exact ⟨keyed, cookied, traffic, early, late, nofun, nofun⟩
  | byCookies without tried =>
      obtain ⟨keyed, cookied, traffic, early, late, accepted⟩ := both without tried
      exact ⟨keyed, cookied, traffic, early, late, nofun, fun _ => accepted rfl⟩
  | refused without tried refused =>
      obtain ⟨keyed, cookied, traffic, early, late, -⟩ := both without tried
      exact ⟨keyed, cookied, traffic, early, late, nofun, nofun⟩

-- What a check of the ways to be let in measures, whatever the channel carries when it starts. The channel has each
-- header once, as every channel does, and asks nobody for other credentials meanwhile; a login turns that off. First come
-- the requests of the key attempt, each with the key, then those of the cookie attempt, each with the cookies of the jar;
-- a way is reported as accepted only if the last of its requests was let in. But the former also carry the cookies of a
-- jar that was left on the channel, and the latter a key that was left, unless there was a key attempt before. So the key
-- is measured without cookies if no jar and no cookies were left, and the cookies without a key if no key was left or the
-- access code can be one.
theorem check_measures_but (system : Service) (world : World) (quiet : system.channel.Unasking)
    (distinct : (Ordered.keys system.channel.credentials.headers).Nodup) :
    let left := system.channel.credentials
    let url := system.channel.url
    let checked := (Authorization.check login.settings.code? login.jar login.logger (Probe.run login.refusals)).perform
      ⟨system, world⟩
    ∃ keyed cookied : List Sent,
      checked.2.world.asked = world.asked ++ (keyed ++ cookied).map Sent.request ∧
      checked.2.world.traffic = world.traffic.afterAll (keyed ++ cookied) ∧
      world.traffic.Along (login.KeyAttempt left) keyed ∧
      (world.traffic.afterAll keyed).Along (login.CookieAttempt left) cookied ∧
      (checked.1 = .ok .byKey → cookied = [] ∧ world.traffic.LetsIn url keyed) ∧
      (checked.1 = .ok .byCookie → (world.traffic.afterAll keyed).LetsIn url cookied) ∧
      (left.jar = none → left.headers.get? "Cookie" = none →
        ∀ sent ∈ keyed, sent.request.headers.get? "Cookie" = none) ∧
      ((∃ key, login.settings.HasKey key) ∨ left.key? = none →
        ∀ sent ∈ cookied, sent.request.headers.get? keyHeader = none) := by
  intro left url checked
  obtain ⟨keyed, cookied, traffic, early, late, byKey, byCookie⟩ :=
    checked_sending login (check_perform login system world) quiet distinct
  refine ⟨keyed, cookied, ?_, traffic, early, late, byKey, byCookie, fun unjarred uncookied => ?_, fun clear => ?_⟩
  · exact (congrArg Traffic.asked traffic).trans (Traffic.asked_after_all _ _)
  · refine (Traffic.along_of_all _ _).mp (Traffic.along_mono (fun traffic sent attempt => ?_) _ _ early)
    obtain ⟨key, -, -, cookie⟩ := attempt
    rw [cookie, show system.channel.credentials.jar = none from unjarred]
    exact uncookied
  · refine (Traffic.along_of_all _ _).mp (Traffic.along_mono (fun traffic sent attempt => ?_) _ _ late)
    by_cases usable : ∃ key, login.settings.HasKey key
    · exact attempt.keyless usable
    · exact (attempt.left fun key has => usable ⟨key, has⟩).trans (clear.resolve_left usable)

def oneHeaderDevice (name value : String) : List Http.Request → Http.Request → Http.Exchange := fun _ request =>
  let status := if request.headers.get? name = some value then 200 else 401
  .answered { status := some status, headers := [], chunks := [], streamError := none, truncated := false }

theorem check_measures_but_bare :
    let login : Login := { settings := { deviceAddress := .absent, accessCode := .text "9999" }, logger := {}, jar := 0 }
    let system : Service :=
      { name := "system", channel := { url := "http://tv/sony/system", credentials := { autoAuth := false } } }
    let world : World := { device := oneHeaderDevice "Cookie" "auth=x", jars := [{ cookies := [("auth", "x")] }] }
    let checked := (Authorization.check login.settings.code? login.jar login.logger (Probe.run login.refusals)).perform
      ⟨system, world⟩
    system.channel.Unasking ∧ (Ordered.keys system.channel.credentials.headers).Nodup ∧
      checked.1.toOption = some .byCookie ∧ ∃ keyed cookied : List Sent,
        checked.2.world.asked = (keyed ++ cookied).map Sent.request ∧
        (world.traffic.afterAll keyed).LetsIn system.channel.url cookied ∧
        (∀ sent ∈ keyed, sent.request.headers.get? "Cookie" = none) ∧
        ∀ sent ∈ cookied, sent.request.headers.get? keyHeader = none := by
  intro login system world checked
  have accepted : checked.1.toOption = some .byCookie := by decide +kernel +zetaReduce
  obtain ⟨keyed, cookied, asked, -, -, -, -, byCookie, uncookied, keyless⟩ :=
    check_measures_but login system world (.inl rfl) .nil
  have ended : checked.1 = .ok .byCookie := by
    cases result : checked.1 with
    | error failure =>
        rw [result] at accepted
        exact nomatch accepted
    | ok verdict =>
        rw [result] at accepted
        exact congrArg _ (Option.some.inj accepted)
  refine ⟨.inl rfl, .nil, accepted, keyed, cookied, ?_, byCookie ended, uncookied rfl rfl, keyless (.inr rfl)⟩
  unfold checked
  rw [asked, List.nil_append]

theorem check_measures_what_is_left :
    let login (code : Setting) : Login :=
      { settings := { deviceAddress := .absent, accessCode := code }, logger := {}, jar := 0 }
    let system (left : Credentials) : Service :=
      { name := "system", channel := { url := "http://tv/sony/system", credentials := { left with autoAuth := false } } }
    let checked (code : Setting) (left : Credentials) (world : World) :=
      (Authorization.check (login code).settings.code? 0 {} (Probe.run (login code).refusals)).perform ⟨system left, world⟩
    let shown (request : Http.Request) := (request.headers.get? keyHeader, request.headers.get? "Cookie")
    let byJar := checked (.text "9999") { jar := some 0 }
      { device := oneHeaderDevice "Cookie" "auth=x", jars := [{ cookies := [("auth", "x")] }] }
    let byLeftKey := checked .absent { headers := [(keyHeader, "1111")] }
      { device := oneHeaderDevice keyHeader "1111", jars := [{}] }
    byJar.1.toOption = some .byKey ∧ byJar.2.world.asked.map shown = [(some "9999", some "auth=x")] ∧
      byLeftKey.1.toOption = some .byCookie ∧ byLeftKey.2.world.asked.map shown = [(some "1111", none)] := by
  refine ⟨?_, ?_, ?_, ?_⟩ <;> decide +kernel +zetaReduce

end Login

end DeviceLogin
