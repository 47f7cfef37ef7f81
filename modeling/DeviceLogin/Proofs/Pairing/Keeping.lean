import DeviceLogin.Proofs.Cookie.Upkeep
import DeviceLogin.Proofs.Pairing.Delivery
import DeviceLogin.Proofs.Readings

set_option autoImplicit false

namespace DeviceLogin

open Act

-- A file at that path can be written at any time.
structure Files.Houses (files : Files) (path : String) : Prop where
  plain : files.isFolder path = false
  housed : files.isFolder (Files.folderOf path) = true
  writable : ∀ count, files.fault count .write path = none

namespace World

structure Backs (number : Nat) (path : String) (world : World) : Prop where
  opened : number < world.jars.length
  file : (world.jar number).file = some path
  houses : world.files.Houses path

structure Calm (world : World) : Prop where
  probing : ∀ count path, world.files.fault count .probe path = none
  accepting : ∀ key, world.refusesProperty key = none

-- The text of the cookies that the device sets is such that the client takes it in a header.
def Delivers (world : World) : Prop :=
  ∀ asked request, ∀ setting ∈ (world.device asked request).settings, world.sender.takes setting = true

def Mirrors (number : Nat) (path : String) (world : World) : Prop :=
  world.files.contents.get? path = some (CookieJar.fileText (world.jar number).cookies)

structure Steady (number : Nat) (path : String) (start now : World) : Prop where
  device : now.device = start.device
  sender : now.sender = start.sender
  faults : now.files.fault = start.files.fault
  refusals : now.refusesProperty = start.refusesProperty
  backs : now.Backs number path
  sound : Cookie.Legible start.sender (now.jar number).cookies

structure Keeping (number : Nat) (path : String) (start now : World) : Prop extends Steady number path start now where
  requests : ∃ requests, now.asked = start.asked ++ requests ∧ ∀ request ∈ requests, request.calls "actRegister" = false
  auth : (now.jar number).cookies.get? "auth" = (start.jar number).cookies.get? "auth"
  mirrors : start.Mirrors number path → now.Mirrors number path

variable {number : Nat} {path : String} {start now next : World}

theorem steady_trans (first : Steady number path start now) (rest : Steady number path now next) :
    Steady number path start next :=
  ⟨rest.device.trans first.device, rest.sender.trans first.sender, rest.faults.trans first.faults,
    rest.refusals.trans first.refusals, rest.backs, first.sender ▸ rest.sound⟩

theorem keeping_refl (backs : start.Backs number path) (sound : Cookie.Legible start.sender (start.jar number).cookies) :
    Keeping number path start start :=
  ⟨⟨rfl, rfl, rfl, rfl, backs, sound⟩, ⟨[], by simp, by simp⟩, rfl, id⟩

theorem keeping_trans (first : Keeping number path start now) (rest : Keeping number path now next) :
    Keeping number path start next := by
  obtain ⟨early, asked, calm⟩ := first.requests
  obtain ⟨late, more, quiet⟩ := rest.requests
  refine ⟨steady_trans first.toSteady rest.toSteady, ⟨early ++ late, by rw [more, asked, List.append_assoc], ?_⟩,
    rest.auth.trans first.auth, fun mirrored => rest.mirrors (first.mirrors mirrored)⟩
  intro request member
  rcases List.mem_append.mp member with old | new
  · exact calm request old
  · exact quiet request new

theorem keeping_quiet (backs : now.Backs number path) (sound : Cookie.Legible now.sender (now.jar number).cookies)
    (device : next.device = now.device) (sender : next.sender = now.sender) (asked : next.asked = now.asked) (jars : next.jars = now.jars)
    (contents : next.files.contents = now.files.contents) (folders : next.files.folders = now.files.folders)
    (faults : next.files.fault = now.files.fault) (refusals : next.refusesProperty = now.refusesProperty) :
    Keeping number path now next := by
  have jar : next.jar number = now.jar number := congrArg (·.getD number ({} : CookieJar)) jars
  have folder (path : String) : next.files.isFolder path = now.files.isFolder path := congrArg (·.contains path) folders
  have houses : next.files.Houses path :=
    ⟨(folder _).trans backs.houses.plain, (folder _).trans backs.houses.housed, faults ▸ backs.houses.writable⟩
  refine ⟨⟨device, sender, faults, refusals, ⟨jars ▸ backs.opened, by rw [jar, backs.file], houses⟩, jar ▸ sound⟩,
    ⟨[], by simp [asked], by simp⟩, by rw [jar], fun mirrored => ?_⟩
  rw [Mirrors, contents, jar]
  exact mirrored

theorem quiet_keeping (kept : Keeping number path start now) (device : next.device = now.device)
    (sender : next.sender = now.sender) (asked : next.asked = now.asked) (jars : next.jars = now.jars)
    (files : next.files = now.files) (refusals : next.refusesProperty = now.refusesProperty) :
    Keeping number path start next :=
  keeping_trans kept (keeping_quiet kept.backs (kept.sender ▸ kept.sound) device sender asked jars (congrArg Files.contents files)
    (congrArg Files.folders files) (congrArg Files.fault files) refusals)

theorem record_keeping (event : Event) : Holding (Keeping number path start) (record event) :=
  fun _ kept => quiet_keeping kept rfl rfl rfl rfl rfl rfl

theorem accessed_keeping (kept : Keeping number path start now) : Keeping number path start now.accessed :=
  keeping_trans kept (keeping_quiet kept.backs (kept.sender ▸ kept.sound) rfl rfl rfl rfl rfl rfl rfl rfl)

theorem file_exists_keeping (place : String) (calm : start.Calm)
    {thrown : World → Failure → Prop} : Keeps (Keeping number path start) thrown (fileExists place) := by
  intro world kept
  have working : world.fault? .probe place = none := by rw [fault?, kept.faults, calm.probing]
  rw [file_exists_perform place world working]
  exact ⟨accessed_keeping kept, fun _ failed => by cases failed⟩

theorem create_keeping (place content : String) :
    Keeps (Keeping number path start) (fun _ _ => True) (writeFile place content .createOnly) := by
  intro world kept
  refine ⟨?_, fun _ _ => trivial⟩
  rw [write_file_perform]
  cases barred : world.barred? place .createOnly with
  | some message => exact accessed_keeping kept
  | none =>
      have apart : start.Mirrors number path → place ≠ path := by
        rintro mirrored rfl
        have file : world.files.isFile place = true := by rw [Files.isFile, Ordered.has, kept.mirrors mirrored]; rfl
        simpa [writeObstacle?, file] using unbarred barred
      have put (content : String) : Keeping number path start (world.accessed.withFile place content .createOnly) := by
        refine ⟨⟨kept.device, kept.sender, kept.faults, kept.refusals, ⟨kept.backs.opened, kept.backs.file, ?_⟩, kept.sound⟩,
          kept.requests, kept.auth, fun mirrored => ?_⟩
        · exact ⟨kept.backs.houses.plain, kept.backs.houses.housed, kept.backs.houses.writable⟩
        change (world.files.contents.put place content).get? path = _
        rw [Ordered.get_put, if_neg (apart mirrored)]
        exact kept.mirrors mirrored
      cases world.fault? .write place with
      | none => exact put content
      | some fault => exact put (fault.kept content)

theorem push_keeping (key : String) (value : Option String) (calm : start.Calm)
    {thrown : World → Failure → Prop} : Keeps (Keeping number path start) thrown (push key value) := by
  refine Keeps.get_bind fun world kept => ?_
  have taken : world.refusesProperty key = none := by rw [kept.refusals, calm.accepting]
  rw [taken]
  exact ⟨record_keeping (.property key value) world kept, fun _ failed => by cases failed⟩

theorem jar_asking (request : Http.Request) (world : World) (number : Nat) :
    (asking request world).jar number = world.jar number := rfl

theorem asking_steady (request : Http.Request) (kept : Steady number path start now) :
    Steady number path start (asking request now) :=
  ⟨kept.device, kept.sender, kept.faults, kept.refusals, ⟨kept.backs.opened, kept.backs.file, kept.backs.houses⟩,
    kept.sound⟩

theorem asking_keeping (request : Http.Request) (other : request.calls "actRegister" = false)
    (kept : Keeping number path start now) : Keeping number path start (asking request now) := by
  refine ⟨asking_steady request kept.toSteady, ?_, kept.auth, kept.mirrors⟩
  obtain ⟨requests, asked, calm⟩ := kept.requests
  refine ⟨requests ++ [request], by simp [asking, asked], fun sent member => ?_⟩
  rcases List.mem_append.mp member with old | new
  · exact calm sent old
  · rw [List.mem_singleton.mp new]
    exact other

theorem save_run (backs : now.Backs number path) (cookies : Ordered String) :
    ∃ events, ((saveJar number).run (now.holding number cookies)).2 =
      { (now.holding number cookies).accessed.withFile path (CookieJar.fileText cookies) .replacePrivately with
        trace := ((now.holding number cookies).accessed.withFile path (CookieJar.fileText cookies)
          .replacePrivately).trace ++ events } := by
  have held := jar_holding number cookies now backs.opened
  obtain ⟨events, saved⟩ := save_jar_run number path (now.holding number cookies) (by rw [held]; exact backs.file)
  have fault : (now.holding number cookies).fault? .write path = none := backs.houses.writable _
  have clear : (now.holding number cookies).barred? path .replacePrivately = none := by
    have plain : (now.holding number cookies).files.isFolder path = false := backs.houses.plain
    have housed : (now.holding number cookies).files.isFolder (Files.folderOf path) = true := backs.houses.housed
    rw [barred_faultless _ fault]
    simp [writeObstacle?, plain, housed]
  refine ⟨events, ?_⟩
  rw [saved, held]
  simp only [saveCookies, write_file_perform, fault, clear]

theorem save_mirrors (backs : now.Backs number path) (cookies : Ordered String) (sound : Cookie.Legible now.sender cookies) :
    let after := ((saveJar number).run (now.holding number cookies)).2
    Steady number path now after ∧ after.asked = now.asked ∧ (after.jar number).cookies = cookies ∧
      after.Mirrors number path := by
  intro after
  obtain ⟨events, saved⟩ := save_run backs cookies
  have same : after = _ := saved
  have held : after.jar number = { now.jar number with cookies := cookies } := by
    rw [← jar_holding number cookies now backs.opened, same]
    rfl
  have length : after.jars.length = now.jars.length := by
    rw [same]
    simp [withFile, accessed, holding]
  have houses : after.files.Houses path := by
    rw [same]
    exact ⟨backs.houses.plain, backs.houses.housed, backs.houses.writable⟩
  have written : after.files.contents.get? path = some (CookieJar.fileText cookies) := by
    rw [same]
    exact (Ordered.get_put _ _ _ _).trans (if_pos rfl)
  refine ⟨⟨by rw [same]; rfl, by rw [same]; rfl, by rw [same]; rfl, by rw [same]; rfl, ⟨length ▸ backs.opened, ?_, houses⟩, ?_⟩,
    by rw [same]; rfl, by rw [held], ?_⟩
  · rw [held]
    exact backs.file
  · rw [held]
    exact sound
  · rw [Mirrors, held]
    exact written

structure Stored (number : Nat) (path : String) (settings : List String) (now after : World) : Prop
    extends Steady number path now after where
  asked : after.asked = now.asked
  cookies : (after.jar number).cookies = settings.foldl Cookie.apply (now.jar number).cookies
  mirrors : now.Mirrors number path ∨ (after.jar number).cookies ≠ (now.jar number).cookies → after.Mirrors number path

theorem store_run (backs : now.Backs number path) (sound : Cookie.Legible now.sender (now.jar number).cookies)
    (settings : List String) (takes : ∀ setting ∈ settings, now.sender.takes setting = true) :
    Stored number path settings now ((storeCookies number settings).run now).2 := by
  rw [store_cookies_run]
  cases changed : (Cookie.applyAll (now.jar number).cookies settings).2 with
  | false =>
      have same := Cookie.apply_all_unchanged (now.jar number).cookies settings changed
      simp only [Bool.false_eq_true, if_false]
      refine ⟨⟨rfl, rfl, rfl, rfl, backs, sound⟩, rfl, same.symm, fun either => ?_⟩
      exact either.resolve_right fun other => other rfl
  | true =>
      rw [if_pos rfl, Cookie.apply_all_held]
      have taken := Cookie.legible_fold settings takes sound
      obtain ⟨steady, asked, cookies, mirrors⟩ := save_mirrors backs _ taken
      exact ⟨steady, asked, cookies, fun _ => mirrors⟩

theorem store_keeping (settings : List String) (spares : ∀ setting ∈ settings, Cookie.Spares "auth" setting)
    (takes : ∀ setting ∈ settings, start.sender.takes setting = true) (kept : Keeping number path start now) :
    Keeping number path start ((storeCookies number settings).run now).2 := by
  have stored := store_run kept.backs (kept.sender ▸ kept.sound) settings (kept.sender ▸ takes)
  refine keeping_trans kept ⟨stored.toSteady, ⟨[], by simp [stored.asked], by simp⟩, ?_, fun mirrored => ?_⟩
  · rw [stored.cookies, Cookie.get_spared_fold settings _ "auth" spares]
  · exact stored.mirrors (.inl mirrored)

end World

namespace Channel

theorem post_answered (channel : Channel) (message : Message) (extra : Ordered String) (world : World) (url : Url)
    (read : Url.read? channel.url = some url) (response : Http.Response)
    (answered : (world.answers world.asked (Sent.posted channel message extra url world.traffic).request).response? =
      some response) :
    (channel.post message extra).run world =
      (response, ((channel.keep response).run
        (World.asking (Sent.posted channel message extra url world.traffic).request world)).2) := by
  have outcome : (world.answers world.asked (Http.requestOf url (channel.order message extra world))).outcome channel.url
      ((channel.order message extra world).timeout.getD Http.defaultTimeout) = .ok response :=
    (Http.outcome_ok_iff _ _ _ response).mpr answered
  rw [post_run, World.request_sent _ _ _ url read, outcome]
  rfl

theorem post_lost (channel : Channel) (message : Message) (extra : Ordered String) (world : World) (url : Url)
    (read : Url.read? channel.url = some url)
    (lost : (world.answers world.asked (Sent.posted channel message extra url world.traffic).request).response? = none) :
    ∃ event, ((channel.post message extra).run world).2 =
      ((World.record event).run (World.asking (Sent.posted channel message extra url world.traffic).request world)).2 := by
  rw [post_run, World.request_sent _ _ _ url read]
  cases outcome : (world.answers world.asked (Http.requestOf url (channel.order message extra world))).outcome channel.url
      ((channel.order message extra world).timeout.getD Http.defaultTimeout) with
  | error failed => exact ⟨_, rfl⟩
  | ok response => exact absurd ((Http.outcome_ok_iff _ _ _ response).mp outcome) (lost ▸ nofun)

theorem post_keeping (channel : Channel) (message : Message) (extra : Ordered String) {number : Nat} {path : String}
    {start : World} (jarred : channel.credentials.jar = none ∨ channel.credentials.jar = some number)
    (other : ∀ url traffic, (Sent.posted channel message extra url traffic).request.calls "actRegister" = false)
    (spared : ∀ asked request, request.calls "actRegister" = false →
      ∀ setting ∈ (start.device asked request).settings, Cookie.Spares "auth" setting)
    (delivers : start.Delivers) : Holding (World.Keeping number path start) (channel.post message extra) := by
  intro world kept
  cases read : Url.read? channel.url with
  | none =>
      rw [post_run, World.request_bad_address _ _ _ read]
      exact World.record_keeping _ world kept
  | some url =>
      have asked := World.asking_keeping _ (other url world.traffic) kept
      cases answer : (world.answers world.asked (Sent.posted channel message extra url world.traffic).request).response? with
      | none =>
          obtain ⟨event, lost⟩ := post_lost channel message extra world url read answer
          rw [lost]
          exact World.record_keeping event _ asked
      | some response =>
          rw [post_answered channel message extra world url read response answer, keep]
          rcases jarred with none | some
          · rw [none]
            exact asked
          · rw [some]
            have came : ∀ setting ∈ World.settingsIn response.headers, ∃ asked, setting ∈
                (start.device asked (Sent.posted channel message extra url world.traffic).request).settings :=
              fun setting member => ⟨_, kept.device ▸ World.setting_sent answer member⟩
            refine World.store_keeping _ (fun setting member => ?_) (fun setting member => ?_) asked
            · obtain ⟨earlier, sent⟩ := came setting member
              exact spared earlier _ (other url world.traffic) setting sent
            · obtain ⟨earlier, sent⟩ := came setting member
              exact delivers earlier _ setting sent

end Channel

theorem spared_by {device : List Http.Request → Http.Request → Http.Exchange} {pin value : String}
    (pairs : PairingDevice device pin value) (asked : List Http.Request) (request : Http.Request)
    (other : request.calls "actRegister" = false) :
    ∀ setting ∈ (device asked request).settings, Cookie.Spares "auth" setting :=
  pairs.silent asked request fun both => by simp [other] at both

theorem posted_calls (channel : Channel) (call : Call) (url : Url) (traffic : Traffic) :
    (Sent.posted channel call.message [] url traffic).request.calls call.method :=
  Http.calls_of_body _ _ _ rfl

theorem posted_calls_other (channel : Channel) (call : Call) (url : Url) (traffic : Traffic) (method : String)
    (other : call.method ≠ method) : (Sent.posted channel call.message [] url traffic).request.calls method = false := by
  rw [Bool.eq_false_iff]
  exact fun both => other (Http.calls_one (posted_calls channel call url traffic) both)

theorem readings_keeping {number : Nat} {path pin value : String} {start : World} (refusals : Service.Refusals)
    (welcome : ∀ asked name method params, refusals asked name method params = none) (service : Service)
    (jarred : service.channel.credentials.jar = none ∨ service.channel.credentials.jar = some number)
    (pairs : PairingDevice start.device pin value) (delivers : start.Delivers) (calm : start.Calm) :
    Provisioning.Kept refusals service (World.Keeping number path start) (fun _ _ => False) where
  recorded event _ := World.record_keeping event
  posted call reading := by
    refine Channel.post_keeping _ _ _ jarred (fun url traffic => ?_) (spared_by pairs) delivers
    refine posted_calls_other _ call url traffic "actRegister" ?_
    rintro same
    simp [Provisioning.IsCall, same, Provisioning.networkMethod, CommandMap.keysMethod] at reading
  fetched url world kept := by
    refine ⟨?_, fun _ _ => trivial⟩
    cases read : Url.read? url with
    | none =>
        rw [World.request_bad_address _ _ _ read]
        exact kept
    | some address =>
        rw [World.request_sent _ _ _ address read]
        exact World.asking_keeping _ rfl kept
  written place content := World.create_keeping place content
  refused world failure _ refused := by
    obtain ⟨method, params, refused⟩ := refused
    rw [welcome] at refused
    cases refused
  pushed key value := World.push_keeping key value calm
  probed place := World.file_exists_keeping place calm

end DeviceLogin
