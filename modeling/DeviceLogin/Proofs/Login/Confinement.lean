import DeviceLogin.Proofs.Login.Grants

set_option autoImplicit false

namespace DeviceLogin

open Act

-- The three headers that can hold a secret.
structure Sent.Carries (sent : Sent) (key authorization cookie : Option String) : Prop where
  key : sent.request.headers.get? keyHeader = key
  authorization : sent.request.headers.get? "Authorization" = authorization
  cookie : sent.request.headers.get? "Cookie" = cookie

def Sent.To (channel : Channel) (body : Json) (sent : Sent) : Prop :=
  ∃ url order, Url.read? channel.url = some url ∧ sent.request = Http.requestOf url order ∧ order.method = "POST" ∧
    order.body = some (Json.write body)

def Sent.Document (sent : Sent) : Prop :=
  sent.request.method = "GET" ∧ sent.request.headers = [("Accept", "text/xml")]

def Client.AllBare (client : Client) : Prop :=
  ∀ channel ∈ client.channels, channel.credentials.headers = [] ∧ channel.credentials.jar = none

theorem fresh_of_bare {channel : Channel} (bare : channel.credentials.headers = [] ∧ channel.credentials.jar = none) :
    channel.credentials.Fresh := by
  refine ⟨?_, bare.2⟩
  rw [Credentials.key?, bare.1]
  rfl

namespace Credentials

def Only (credentials : Credentials) (key : Option String) (jar : Option Nat) : Prop :=
  credentials.headers = key.toList.map (keyHeader, ·) ∧ credentials.jar = jar

end Credentials

theorem headers_carry (key pin cookies : Option String) :
    let headers : Ordered String :=
      (Ordered.putAll (Ordered.putAll [("Content-Type", "application/json; charset=UTF-8"), ("Accept", "application/json")]
        (key.toList.map (keyHeader, ·))) (Pairing.headers pin))
    let all := match cookies with
      | some cookies => headers.put "Cookie" cookies
      | none => headers
    all.get? keyHeader = key ∧ all.get? "Authorization" = pin.map Pairing.basic ∧ all.get? "Cookie" = cookies := by
  cases key <;> cases pin <;> cases cookies <;>
    simp [Pairing.headers, Ordered.putAll, Ordered.get_put, Ordered.get?, keyHeader]

theorem posted_carries (channel : Channel) (message : Message) (pin : Option String) (url : Url) (traffic : Traffic)
    (key : Option String) (jar : Option Nat) (only : channel.credentials.Only key jar) :
    (Sent.posted channel message (Pairing.headers pin) url traffic).Carries key (pin.map Pairing.basic)
      (jar.bind traffic.cookies?) := by
  obtain ⟨headers, rfl⟩ := only
  have carried := headers_carry key pin (channel.credentials.jar.bind traffic.cookies?)
  rw [← headers] at carried
  exact ⟨carried.1, carried.2.1, carried.2.2⟩

theorem over_carries (channel : Channel) (traffic : Traffic) (sent : Sent) (key : Option String) (jar : Option Nat)
    (only : channel.credentials.Only key jar) (calls : Call → Prop) (posted : Sent.Over channel calls traffic sent) :
    (∃ call, calls call ∧ sent.To channel call.message.body) ∧ sent.Carries key none (jar.bind traffic.cookies?) := by
  obtain ⟨call, url, known, read, rfl⟩ := posted
  exact ⟨⟨call, known, url, _, read, rfl, rfl, rfl⟩, posted_carries channel call.message none url traffic key jar only⟩

theorem fetch_document (traffic : Traffic) (sent : Sent) (fetched : Sent.IsFetch traffic sent) :
    sent.Document ∧ sent.Carries none none none := by
  obtain ⟨url, rfl⟩ := fetched
  exact ⟨⟨rfl, rfl⟩, ⟨rfl, rfl, rfl⟩⟩

namespace Login

def KeyRequest (login : Login) (system : Service) (_ : Traffic) (sent : Sent) : Prop :=
  (∃ call, Probe.IsCall call ∧ sent.To system.channel call.message.body) ∧
    ∃ key, login.settings.HasKey key ∧ sent.Carries (some key) none none

def CookieRequest (login : Login) (system : Service) (traffic : Traffic) (sent : Sent) : Prop :=
  (∃ call, Probe.IsCall call ∧ sent.To system.channel call.message.body) ∧
    sent.Carries none none (traffic.cookies? login.jar)

def PairRequest (login : Login) (accessControl : Service) (traffic : Traffic) (sent : Sent) : Prop :=
  sent.To accessControl.channel (Pairing.message login.settings.client).body ∧
    ∃ code, login.settings.HasCode code ∧
      sent.Carries none (if Settings.isRequest code then none else some (Pairing.basic code))
        (traffic.cookies? login.jar)

def ReadRequest (system : Service) (credentials : Credentials) (traffic : Traffic) (sent : Sent) : Prop :=
  ((∃ call : Call, sent.To system.channel call.message.body) ∧
      sent.Carries credentials.key? none (credentials.jar.bind traffic.cookies?)) ∨
    (sent.Document ∧ sent.Carries none none none)

structure Confined (login : Login) (accessControl system : Service) (result : Except Failure Outcome)
    (world : World) (final : Traffic) (keyProbe cookieProbe pairing reading : List Sent) : Prop where
  all : final = world.traffic.afterAll (keyProbe ++ cookieProbe ++ pairing ++ reading)
  byKey : world.traffic.Along (login.KeyRequest system) keyProbe
  byCookies : (world.traffic.afterAll keyProbe).Along (login.CookieRequest system) cookieProbe
  registering : (world.traffic.afterAll (keyProbe ++ cookieProbe)).Along (login.PairRequest accessControl) pairing
  granted : ∃ grant, login.Granted accessControl.muted system.muted (login.wake.perform world).2 result grant ∧
    (world.traffic.afterAll (keyProbe ++ cookieProbe ++ pairing)).Along (ReadRequest system (grant {})) reading
  unread : result ≠ .ok .ok → reading = []

variable (login : Login) (client : Client) (accessControl system : Service) (world : World)

theorem key_probe_request (bare : system.channel.credentials.headers = [] ∧ system.channel.credentials.jar = none)
    (traffic : Traffic) (sent : Sent) (probe : login.KeyProbe system.muted traffic sent) :
    login.KeyRequest system traffic sent := by
  obtain ⟨key, usable, posted⟩ := probe
  have only : (system.muted.carrying (·.withHeader keyHeader key)).channel.credentials.Only (some key) none := by
    refine ⟨?_, bare.2⟩
    change Ordered.put system.channel.credentials.headers keyHeader key = _
    rw [bare.1]
    rfl
  obtain ⟨aimed, carries⟩ := over_carries _ traffic sent (some key) none only _ posted
  exact ⟨aimed, key, usable, carries⟩

theorem cookie_probe_request (keyless : Service) (same : keyless.channel = system.muted.channel)
    (bare : system.channel.credentials.headers = [] ∧ system.channel.credentials.jar = none)
    (traffic : Traffic) (sent : Sent) (probe : login.CookieProbe keyless traffic sent) :
    login.CookieRequest system traffic sent := by
  have channel : (keyless.carrying (·.withJar login.jar)).channel =
      (system.muted.carrying (·.withJar login.jar)).channel := by
    simp only [Service.carrying, Service.changeChannel, same]
  have only : (keyless.carrying (·.withJar login.jar)).channel.credentials.Only none (some login.jar) := by
    rw [channel]
    exact ⟨bare.1, rfl⟩
  obtain ⟨aimed, carries⟩ := over_carries _ traffic sent none (some login.jar) only _ probe
  rw [channel] at aimed
  exact ⟨aimed, carries⟩

theorem registration_request (bare : accessControl.channel.credentials.headers = [])
    (traffic : Traffic) (sent : Sent) (registration : login.Registration accessControl.muted traffic sent) :
    login.PairRequest accessControl traffic sent := by
  obtain ⟨code, given, member⟩ := registration
  simp only [Channel.sends, Option.mem_toList, Option.map_eq_some_iff] at member
  obtain ⟨url, read, rfl⟩ := member
  have carries := posted_carries (accessControl.muted.carrying (·.withJar login.jar)).channel
    (Pairing.message login.settings.client) (if Settings.isRequest code then none else some code) url traffic none
    (some login.jar) ⟨bare, rfl⟩
  refine ⟨⟨url, _, read, rfl, rfl, rfl⟩, code, given, ?_⟩
  split at carries
  · next request => simpa [request] using carries
  · next pin => simpa [pin] using carries

theorem granted_only {result : Except Failure Outcome} {grant : Credentials → Credentials} {woken : World}
    (granted : login.Granted accessControl system woken result grant) (credentials : Credentials)
    (bare : credentials.headers = [] ∧ credentials.jar = none) :
    (grant credentials).Only (grant {}).key? (grant {}).jar := by
  obtain ⟨autoAuth, headers, jar⟩ := credentials
  obtain ⟨rfl, rfl⟩ := bare
  cases granted <;> exact ⟨rfl, rfl⟩

theorem reading_request {grant : Credentials → Credentials} {probed : Service} {woken : World}
    {result : Except Failure Outcome} (granted : login.Granted accessControl.muted system.muted woken result grant)
    (same : probed.channel = system.muted.channel)
    (bare : system.channel.credentials.headers = [] ∧ system.channel.credentials.jar = none)
    (traffic : Traffic) (sent : Sent) (reading : Sent.Reading (probed.carrying grant).channel traffic sent) :
    ReadRequest system (grant {}) traffic sent := by
  have channel : (probed.carrying grant).channel = (system.muted.carrying grant).channel := by
    simp only [Service.carrying, Service.changeChannel, same]
  have only : (probed.carrying grant).channel.credentials.Only (grant {}).key? (grant {}).jar := by
    rw [channel]
    exact granted_only login _ _ granted system.muted.channel.credentials bare
  rcases reading with posted | fetched
  · obtain ⟨aimed, carries⟩ := over_carries _ traffic sent _ _ only _ posted
    rw [channel] at aimed
    obtain ⟨call, -, asked⟩ := aimed
    exact .inl ⟨⟨call, asked⟩, carries⟩
  · exact .inr (fetch_document traffic sent fetched)

theorem settled_requests {result : Except Failure Outcome} {woken : World} {settled : Scene Client}
    (offers : client.Offers accessControl system) (bare : client.AllBare)
    (settling : (login.settle accessControl system).perform ⟨client.muted, woken⟩ = (result, settled)) :
    ∃ keyProbe cookieProbe pairing,
      settled.world.traffic = woken.traffic.afterAll (keyProbe ++ cookieProbe ++ pairing) ∧
      woken.traffic.Along (login.KeyRequest system) keyProbe ∧
      (woken.traffic.afterAll keyProbe).Along (login.CookieRequest system) cookieProbe ∧
      (woken.traffic.afterAll (keyProbe ++ cookieProbe)).Along (login.PairRequest accessControl) pairing := by
  have accessBare := bare _ (Client.channel_mem client _ _ offers.accessControl)
  have systemBare := bare _ (Client.channel_mem client _ _ offers.system)
  have fresh := fresh_of_bare systemBare
  have course := settle_settled login client accessControl system woken result settled offers settling
  obtain ⟨restored, keyed, cookied, registration⟩ := settled_authorizing login _ _ _ woken course rfl
  obtain ⟨keyProbe, keyTraffic, byKey⟩ := keyed.traffic
  obtain ⟨cookieProbe, cookieTraffic, byCookies⟩ := cookied.traffic
  obtain ⟨pairing, pairTraffic, registering⟩ := registration.traffic
  rw [keyTraffic] at cookieTraffic byCookies
  rw [← Traffic.after_all_append] at cookieTraffic
  rw [cookieTraffic] at pairTraffic registering
  rw [← Traffic.after_all_append] at pairTraffic
  refine ⟨keyProbe, cookieProbe, pairing, pairTraffic, ?_, ?_, ?_⟩
  · exact Traffic.along_mono (key_probe_request login system systemBare) _ _ byKey
  · exact Traffic.along_mono (cookie_probe_request login system _ (restored.taken fresh) systemBare) _ _ byCookies
  · exact Traffic.along_mono (registration_request login accessControl accessBare.1) _ _ registering

theorem read_requests {grant : Credentials → Credentials} {probed : Service} {kept : Client} {woken ready : World}
    {result : Except Failure Unit} {final : Scene Client} (bare : client.AllBare)
    (offers : client.Offers accessControl system)
    (granted : login.Granted accessControl.muted system.muted woken (.ok .ok) grant)
    (same : Kept client.muted accessControl.muted system.muted probed kept)
    (reading : (login.provision system).perform ⟨granting grant kept, ready⟩ = (result, final)) :
    ∃ requests, final.world.traffic = ready.traffic.afterAll requests ∧
      ready.traffic.Along (ReadRequest system (grant {})) requests := by
  have systemBare := bare _ (Client.channel_mem client _ _ offers.system)
  have fresh := fresh_of_bare systemBare
  obtain ⟨-, reached, -⟩ := reading_perform login granted same ready
  rw [reading] at reached
  obtain ⟨requests, traffic, along⟩ := reached.traffic
  refine ⟨requests, traffic, Traffic.along_mono ?_ _ _ along⟩
  exact reading_request login accessControl system granted (same.restored.taken fresh) systemBare

theorem reported_traffic {operation : String} {thrown : Failure} {before after : World}
    (reported : login.Reported operation thrown before after) : after.traffic = before.traffic := by
  rw [Reported] at reported
  rw [reported]
  rfl

theorem waking_traffic {woken : World} {result : Except Failure Unit} (waking : login.wake.perform world = (result, woken)) :
    woken.traffic = world.traffic := by
  obtain ⟨beside, -⟩ := wake_beside login world world (World.beside_refl world)
  rw [waking] at beside
  exact beside.traffic

theorem settled_confined {result : Except Failure Outcome} {woken : World} {settled : Scene Client} {final : Traffic}
    {grant : Credentials → Credentials} (reading : List Sent) (offers : client.Offers accessControl system)
    (bare : client.AllBare) (waking : login.wake.perform world = (.ok (), woken))
    (settling : (login.settle accessControl system).perform ⟨client.muted, woken⟩ = (result, settled))
    (granted : login.Granted accessControl.muted system.muted woken result grant)
    (read : final = settled.world.traffic.afterAll reading)
    (along : settled.world.traffic.Along (ReadRequest system (grant {})) reading)
    (unread : result ≠ .ok .ok → reading = []) :
    ∃ keyProbe cookieProbe pairing reading,
      login.Confined accessControl system (login.authorized accessControl system client world) world final
        keyProbe cookieProbe pairing reading := by
  obtain ⟨keyProbe, cookieProbe, pairing, traffic, byKey, byCookies, registering⟩ :=
    settled_requests login client accessControl system offers bare settling
  rw [waking_traffic login world waking] at traffic byKey byCookies registering
  rw [traffic] at read along
  rw [authorized_settled login client accessControl system world waking settling]
  refine ⟨keyProbe, cookieProbe, pairing, reading, ?_, byKey, byCookies, registering, ⟨grant, ?_, along⟩, unread⟩
  · rw [read, ← Traffic.after_all_append]
  · rw [waking]
    exact granted

theorem ran_confined {result : Except Failure Outcome} {final : Scene Client}
    (offers : client.Offers accessControl system) (bare : client.AllBare) (ran : login.Ran client world result final) :
    ∃ keyProbe cookieProbe pairing reading,
      login.Confined accessControl system (login.authorized accessControl system client world) world
        final.world.traffic keyProbe cookieProbe pairing reading := by
  have fresh : client.AllFresh := fun channel member => fresh_of_bare (bare channel member)
  cases ran with
  | missing absent => simp [offers.accessControl, offers.system] at absent
  | unwoken _ waking =>
      rw [authorized_unwoken login client accessControl system world waking]
      exact ⟨[], [], [], [], waking_traffic login world waking, trivial, trivial, trivial,
        ⟨id, .nothing (by simp), trivial⟩, fun _ => rfl⟩
  | unsettled given waking settling reported =>
      obtain ⟨rfl, rfl⟩ := Client.offers_unique offers given
      obtain ⟨grant, probed, kept, granted, -⟩ := settled_granted login client _ _ offers settling
      exact settled_confined login client _ _ world [] offers bare waking settling granted
        (reported_traffic login reported) trivial fun _ => rfl
  | refused given waking settling refused logged =>
      obtain ⟨rfl, rfl⟩ := Client.offers_unique offers given
      obtain ⟨grant, probed, kept, granted, -⟩ := settled_granted login client _ _ offers settling
      exact settled_confined login client _ _ world [] offers bare waking settling granted
        (logged_traffic logged) trivial fun _ => rfl
  | connected given waking settling logged reading =>
      obtain ⟨rfl, rfl⟩ := Client.offers_unique offers given
      obtain ⟨grant, probed, kept, granted, same, focus⟩ := settled_granted login client _ _ offers settling
      rw [focus] at reading
      obtain ⟨requests, traffic, along⟩ := read_requests login client _ _ bare offers granted same reading
      rw [logged_traffic logged] at traffic along
      exact settled_confined login client _ _ world requests offers bare waking settling granted traffic along
        fun outside => absurd rfl outside
  | interrupted given waking settling logged reading reported =>
      obtain ⟨rfl, rfl⟩ := Client.offers_unique offers given
      obtain ⟨grant, probed, kept, granted, same, focus⟩ := settled_granted login client _ _ offers settling
      rw [focus] at reading
      obtain ⟨requests, traffic, along⟩ := read_requests login client _ _ bare offers granted same reading
      rw [logged_traffic logged] at traffic along
      exact settled_confined login client _ _ world requests offers bare waking settling granted
        ((reported_traffic login reported).trans traffic) along fun outside => absurd rfl outside

theorem along_mem {property : Traffic → Sent → Prop} {fact : Sent → Prop} {traffic : Traffic} {sends : List Sent}
    (along : traffic.Along property sends) (within : ∀ traffic sent, property traffic sent → fact sent) :
    ∀ sent ∈ sends, fact sent :=
  (Traffic.along_of_all traffic sends).mp (Traffic.along_mono within traffic sends along)

def Secretless (sent : Sent) : Prop :=
  sent.request.headers.get? keyHeader = none ∧ sent.request.headers.get? "Authorization" = none

theorem confined_secretless {result : Except Failure Outcome} {final : Traffic}
    {keyProbe cookieProbe pairing reading : List Sent} (unusable : ∀ key, ¬ login.settings.HasKey key)
    (confined : login.Confined accessControl system result world final keyProbe cookieProbe pairing reading) :
    ∀ sent ∈ keyProbe ++ cookieProbe ++ pairing ++ reading, Secretless sent := by
  obtain ⟨grant, granted, along⟩ := confined.granted
  -- A code that cannot be a key is never granted as one.
  have keyless : (grant {}).key? = none := by
    cases granted with
    | key usable tried => exact absurd usable (unusable _)
    | cookies without tried => rfl
    | paired checked given accepted => rfl
    | nothing outside => rfl
  have first : ∀ sent ∈ keyProbe, Secretless sent := by
    refine along_mem confined.byKey fun traffic sent request => ?_
    obtain ⟨-, key, usable, carries⟩ := request
    exact absurd usable (unusable key)
  have second : ∀ sent ∈ cookieProbe, Secretless sent := by
    refine along_mem confined.byCookies fun traffic sent request => ?_
    exact ⟨request.2.key, request.2.authorization⟩
  have third : ∀ sent ∈ pairing, Secretless sent := by
    refine along_mem confined.registering fun traffic sent request => ?_
    obtain ⟨-, code, given, carries⟩ := request
    refine ⟨carries.key, carries.authorization.trans (if_pos ?_)⟩
    cases requested : Settings.isRequest code with
    | true => rfl
    | false => exact absurd ⟨given, requested⟩ (unusable code)
  have last : ∀ sent ∈ reading, Secretless sent := by
    refine along_mem along fun traffic sent request => ?_
    rcases request with ⟨-, carries⟩ | ⟨-, carries⟩
    · exact ⟨carries.key.trans keyless, carries.authorization⟩
    · exact ⟨carries.key, carries.authorization⟩
  intro sent member
  simp only [List.mem_append] at member
  rcases member with ((early | middle) | late) | final
  · exact first sent early
  · exact second sent middle
  · exact third sent late
  · exact last sent final

-- The key goes out only on its own probe and, if the device let that in, on the readings; the code as a PIN only
-- with the request for registration; the cookies only on their probe, with that request, and on the readings if they
-- or the registration were accepted. Documents are asked for without any of them.
theorem run_confines (result : Except Failure Outcome) (final : Scene Client) (bare : client.AllBare)
    (ended : login.run.perform ⟨client, world⟩ = (result, final)) :
    ((client.service? "accessControl" = none ∨ client.service? "system" = none) →
      final.world.asked = world.asked) ∧
    (client.Offers accessControl system →
      ∃ keyProbe cookieProbe pairing reading,
        final.world.asked = world.asked ++ (keyProbe ++ cookieProbe ++ pairing ++ reading).map Sent.request ∧
        login.Confined accessControl system (login.authorized accessControl system client world) world
          final.world.traffic keyProbe cookieProbe pairing reading ∧
        ((∀ key, ¬ login.settings.HasKey key) →
          ∀ sent ∈ keyProbe ++ cookieProbe ++ pairing ++ reading, Secretless sent)) := by
  have ran := run_ran login client world
  rw [ended] at ran
  refine ⟨fun absent => ?_, fun offers => ?_⟩
  · rw [run_missing login client world absent] at ended
    exact (congrArg (fun ended => ended.2.world.asked) ended).symm
  · obtain ⟨keyProbe, cookieProbe, pairing, reading, confined⟩ :=
      ran_confined login client accessControl system world offers bare ran
    refine ⟨keyProbe, cookieProbe, pairing, reading, ?_, confined, fun unusable => ?_⟩
    · exact (congrArg Traffic.asked confined.all).trans (Traffic.asked_after_all _ _)
    · exact confined_secretless login accessControl system world unusable confined

theorem run_confines_open_device :
    let channel : Channel := { url := "http://tv/sony/system" }
    let accessControl : Service := { name := "accessControl", channel := channel }
    let system : Service :=
      { name := "system", channel := channel,
        methods := some [("getDeviceMode", ["1.0"]), ("getSystemInformation", ["1.0"])] }
    let client := Client.ofServices [accessControl, system]
    let world : World :=
      { device := fun _ _ =>
          .answered { status := some 200, headers := [], chunks := [], streamError := none, truncated := false } }
    let login : Login :=
      { settings := { deviceAddress := .absent, accessCode := .text "0000" }, logger := {}, jar := 0 }
    client.AllBare ∧ client.Offers accessControl system ∧
      ∃ result final, login.run.perform ⟨client, world⟩ = (result, final) ∧
        (final.world.asked.map fun request => request.headers.get? keyHeader) = [some "0000", some "0000"] ∧
        ∃ keyProbe cookieProbe pairing reading,
          final.world.asked = (keyProbe ++ cookieProbe ++ pairing ++ reading).map Sent.request ∧
          login.Confined accessControl system (login.authorized accessControl system client world) world
            final.world.traffic keyProbe cookieProbe pairing reading := by
  intro channel accessControl system client world login
  have offers : client.Offers accessControl system := ⟨rfl, rfl⟩
  have bare : client.AllBare := by
    have channels : client.channels = [channel, channel] := rfl
    intro given member
    rw [channels] at member
    obtain rfl : given = channel := by simpa using member
    exact ⟨rfl, rfl⟩
  have asked : ((login.run.perform ⟨client, world⟩).2.world.asked.map fun request => request.headers.get? keyHeader) =
      [some "0000", some "0000"] := by
    decide +kernel +zetaReduce
  rcases ended : login.run.perform ⟨client, world⟩ with ⟨result, final⟩
  rw [ended] at asked
  obtain ⟨keyProbe, cookieProbe, pairing, reading, requests, confined, -⟩ :=
    (run_confines login client accessControl system world result final bare ended).2 offers
  exact ⟨bare, offers, result, final, rfl, asked, keyProbe, cookieProbe, pairing, reading, requests, confined⟩

end Login

end DeviceLogin
