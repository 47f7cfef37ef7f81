import DeviceLogin.Proofs.Pairing.Visits
import DeviceLogin.Proofs.Secrecy.Session

set_option autoImplicit false

namespace DeviceLogin

open Act

-- What a login is made of, but for the jar.
structure Session where
  settings : Settings
  client : Client
  waker : Waker := .packet {}
  source : CommandSource := .documents {}
  refusals : Service.Refusals := fun _ _ _ _ => none

namespace Session

def run (session : Session) (jar : Option Nat) (world : World) : Except Failure Outcome × World :=
  let ended := (Login.session session.settings jar session.waker session.source session.refusals).perform
    ⟨session.client, world⟩
  (ended.1, ended.2.world)

structure Fit (session : Session) (sender : Http.Sender) : Prop where
  ready : ∃ accessControl system, session.client.Ready sender accessControl system
  welcome : session.refusals.Open
  wakes : session.waker.Works

def logger (session : Session) : Logger := Logger.forDevice session.settings.deviceAddress.value? "Session"

def login (session : Session) (jar : Nat) : Login :=
  { settings := session.settings, logger := session.logger, jar := jar, waker := session.waker, source := session.source,
    refusals := session.refusals }

variable {session : Session} {path pin value : String} {world : World}

theorem each_line_run (lines : List String) (write : String → StateM World Unit) (world : World)
    (writing : ∀ line world, ∃ events, ((write line).run world).2 = { world with trace := world.trace ++ events }) :
    ∃ events, ((lines.forM write).run world).2 = { world with trace := world.trace ++ events } := by
  induction lines generalizing world with
  | nil => exact ⟨[], by simp; rfl⟩
  | cons line rest ih =>
      obtain ⟨events, written⟩ := writing line world
      obtain ⟨more, later⟩ := ih ((write line).run world).2
      refine ⟨events ++ more, ?_⟩
      change ((rest.forM write).run ((write line).run world).2).2 = _
      rw [later, written, List.append_assoc]

theorem report_settings_run (settings : Settings) (logger : Logger) (world : World) :
    ∃ events, ((Login.reportSettings settings logger).run world).2 = { world with trace := world.trace ++ events } := by
  let child := logger.child (.about "Config")
  obtain ⟨errors, first⟩ := each_line_run settings.errors
    (fun error => child.error ("Invalid configuration: " ++ error)) world fun _ _ => ⟨[_], rfl⟩
  obtain ⟨warnings, second⟩ := each_line_run settings.warnings (fun warning => child.warn warning)
    { world with trace := world.trace ++ errors } fun _ _ => ⟨[_], rfl⟩
  refine ⟨errors ++ warnings, ?_⟩
  rw [← List.append_assoc, ← second, ← first]
  rfl

theorem run_open (session : Session) (number : Nat) (world : World) :
    session.run (some number) world =
      let ended := (session.login number).run.perform
        ⟨session.client, ((Login.reportSettings session.settings session.logger).run world).2⟩
      (ended.1, ended.2.world) := by
  rw [run, Login.session_perform]
  rfl

theorem run_served {number : Nat} (fit : session.Fit world.sender) (plain : ';' ∉ value.toList)
    (serves : world.Serves number path pin value) :
    ∃ woken outcome settled final, session.run (some number) world = (.ok outcome, final) ∧
      World.Keeping number path world woken ∧ (session.login number).Served path pin value woken outcome settled ∧
      World.Keeping number path settled final := by
  obtain ⟨accessControl, system, ready⟩ := fit.ready
  obtain ⟨events, reported⟩ := report_settings_run session.settings session.logger world
  let start : World := { world with trace := world.trace ++ events }
  have noted : World.Keeping number path world start :=
    World.keeping_quiet serves.backs serves.sound rfl rfl rfl rfl rfl rfl rfl rfl
  have loginFit : (session.login number).Fit session.client start.sender accessControl system :=
    ⟨ready, fit.welcome, fit.wakes⟩
  obtain ⟨woken, outcome, settled, final, ended, kept, served, later⟩ :=
    Login.run_served loginFit plain (World.serves_steady serves noted.toSteady)
  refine ⟨woken, outcome, settled, final.world, ?_, World.keeping_trans noted kept, served, later⟩
  rw [run_open, reported, ended]

theorem asking_served {number : Nat} {code : String} (fit : session.Fit world.sender) (plain : ';' ∉ value.toList)
    (serves : world.Serves number path pin value) (unheld : ¬ world.Holds number value)
    (asks : session.settings.HasCode code ∧ Settings.isRequest code = true) (key : Settings.isRequest pin = false) :
    ∃ after, session.run (some number) world = (.ok .pending, after) ∧ World.Steady number path world after ∧
      ¬ after.Holds number value := by
  obtain ⟨woken, outcome, settled, final, ended, kept, served, later⟩ := run_served fit plain serves
  cases served with
  | admitted held _ => exact absurd ((World.holds_keeping kept).mp held) unheld
  | denied _ _ steady still _ pending =>
      obtain rfl := pending code asks.1 asks.2
      exact ⟨final, ended, World.steady_trans kept.toSteady (World.steady_trans steady later.toSteady),
        (World.holds_keeping later).not.mpr still⟩
  | enrolled _ given _ _ =>
      have same : code = pin := Login.has_code_unique asks.1 given.1
      rw [same, key] at asks
      exact nomatch asks.2

theorem giving_served {number : Nat} (fit : session.Fit world.sender) (plain : ';' ∉ value.toList)
    (serves : world.Serves number path pin value) (unheld : ¬ world.Holds number value)
    (gives : session.settings.HasKey pin) :
    ∃ requests after, session.run (some number) world = (.ok .ok, after) ∧ after.asked = world.asked ++ requests ∧
      requests.countP (·.calls "actRegister") = 1 ∧ World.Steady number path world after ∧ after.Holds number value ∧
      after.Mirrors number path := by
  obtain ⟨woken, outcome, settled, final, ended, kept, served, later⟩ := run_served fit plain serves
  cases served with
  | admitted held _ => exact absurd ((World.holds_keeping kept).mp held) unheld
  | denied _ unfit _ _ _ _ => exact absurd gives unfit
  | enrolled _ _ probing enrolled =>
      have asking := World.keeping_trans kept probing
      obtain ⟨before, early, quiet⟩ := asking.requests
      obtain ⟨registration, sent, calls⟩ := enrolled.request
      obtain ⟨rest, late, calm⟩ := later.requests
      refine ⟨before ++ [registration] ++ rest, final, ended, ?_, ?_, ?_, (World.holds_keeping later).mpr enrolled.holds,
        later.mirrors enrolled.mirrors⟩
      · rw [late, sent, early]
        simp only [List.append_assoc]
      · have unasked : before.countP (·.calls "actRegister") = 0 := by simpa [List.countP_eq_zero] using quiet
        have unread : rest.countP (·.calls "actRegister") = 0 := by simpa [List.countP_eq_zero] using calm
        simp [List.countP_append, unasked, unread, calls]
      · exact World.steady_trans asking.toSteady (World.steady_trans enrolled.toSteady later.toSteady)

theorem reopened_holds {cookies : Ordered String} (plain : world.files.isFolder path = false)
    (written : world.files.contents.get? path = some (CookieJar.fileText cookies))
    (sound : Cookie.Legible world.sender cookies) (held : cookies.get? "auth" = some value) :
    Cookie.Legible world.sender (world.files.cookiesAt path) ∧ (world.files.cookiesAt path).get? "auth" = some value := by
  have read : world.files.cookiesAt path =
      (Ordered.inMemberOrder cookies).filter fun cookie => !Shape.dropped cookie.1 := by
    rw [Files.cookiesAt, plain, written, Option.bind_some, CookieJar.of_file_text cookies sound.distinct]
    rfl
  have reordered := Ordered.member_order_perm cookies
  have again := Cookie.legible_filter (fun cookie => !Shape.dropped cookie.1) (Cookie.legible_perm reordered sound)
  rw [read]
  refine ⟨again, Ordered.get_of_mem _ _ _ again.distinct (List.mem_filter.mpr ⟨?_, rfl⟩)⟩
  exact reordered.mem_iff.mpr (Ordered.mem_of_get _ _ _ held)

theorem run_unopened (session : Session) (world : World) :
    session.run none world =
      let opened := (World.openJar session.settings.cookieFile? (.warn session.logger.context)).run
        ((Login.reportSettings session.settings session.logger).run world).2
      let ended := (session.login opened.1).run.perform ⟨session.client, opened.2⟩
      (ended.1, ended.2.world) := by
  rw [run, Login.session_perform]
  rfl

theorem cookie_file_named {settings : Settings} (named : settings.cookieFile? = some path) : path ≠ "" := by
  rintro rfl
  rw [Settings.cookieFile?, Setting.present?, Text.present?.eq_def] at named
  split at named
  · split at named
    · cases named
    · next filled =>
      cases named
      exact filled rfl
  · cases named

theorem returning_served {cookies : Ordered String} (fit : session.Fit world.sender) (plain : ';' ∉ value.toList)
    (pairs : PairingDevice world.device pin value) (delivers : world.Delivers) (calm : world.Calm) (houses : world.files.Houses path)
    (readable : ∀ count, world.files.fault count .read path = none) (named : session.settings.cookieFile? = some path)
    (written : world.files.contents.get? path = some (CookieJar.fileText cookies))
    (sound : Cookie.Legible world.sender cookies) (held : cookies.get? "auth" = some value) :
    ∃ requests after, session.run none world = (.ok .ok, after) ∧ after.asked = world.asked ++ requests ∧
      requests.countP (·.calls "actRegister") = 0 := by
  obtain ⟨accessControl, system, ready⟩ := fit.ready
  obtain ⟨events, reported⟩ := report_settings_run session.settings session.logger world
  obtain ⟨accesses, opened⟩ := World.open_jar_run path (.warn session.logger.context)
    { world with trace := world.trace ++ events } (cookie_file_named named)
    fun count => ⟨calm.probing count path, readable count⟩
  obtain ⟨again, back⟩ := reopened_holds houses.plain written sound held
  let number := world.jars.length
  let jar : CookieJar := { cookies := world.files.cookiesAt path, file := some path, alarm := .warn session.logger.context }
  let start : World :=
    { world with
      trace := world.trace ++ events
      files := { world.files with accesses := accesses }
      jars := world.jars ++ [jar] }
  have there : start.jar number = jar := by simp [World.jar, start, number, List.getD_eq_getElem?_getD]
  have serves : start.Serves number path pin value := by
    refine ⟨pairs, delivers, ⟨?_, ?_, ?_⟩, ?_, ?_⟩
    · simp [start, number]
    · rw [there]
    · exact ⟨houses.plain, houses.housed, houses.writable⟩
    · rw [there]
      exact again
    · exact ⟨calm.probing, calm.accepting⟩
  have holds : start.Holds number value := by
    rw [World.Holds, there]
    exact back
  have loginFit : (session.login number).Fit session.client start.sender accessControl system :=
    ⟨ready, fit.welcome, fit.wakes⟩
  obtain ⟨woken, outcome, settled, final, ended, kept, served, later⟩ := Login.run_served loginFit plain serves
  have known : woken.Holds number value := (World.holds_keeping kept).mpr holds
  cases served with
  | admitted _ probing =>
      obtain ⟨requests, asked, quiet⟩ := (World.keeping_trans kept (World.keeping_trans probing later)).requests
      refine ⟨requests, final.world, ?_, asked, by simpa [List.countP_eq_zero] using quiet⟩
      rw [run_unopened, named, reported, opened]
      exact congrArg (fun ended => (ended.1, ended.2.world)) ended
  | denied unheld _ _ _ _ _ => exact absurd known unheld
  | enrolled unheld _ _ _ => exact absurd known unheld

end Session

-- Asked for a PIN, a device shows one; given the PIN, it registers the client once and lets it in; and later on it
-- lets in whoever has the file that was left, without another registration.
theorem pairing_lasts (pin value path : String) (settings : List String) (number : Nat) (world : World)
    (asking giving returning : Session) (plain : ';' ∉ value.toList) (pairs : PairingDevice world.device pin value)
    (delivers : world.Delivers) (calm : world.Calm) (backs : world.Backs number path)
    (built : (world.jar number).cookies = settings.foldl Cookie.apply [])
    (delivered : ∀ setting ∈ settings, world.sender.takes setting = true) (unheld : ¬ world.Holds number value)
    (asks : asking.Fit world.sender ∧ ∃ code, asking.settings.HasCode code ∧ Settings.isRequest code = true)
    (gives : giving.Fit world.sender ∧ giving.settings.HasKey pin)
    (returns : returning.Fit world.sender ∧ returning.settings.cookieFile? = some path) :
    let first := asking.run (some number) world
    let second := giving.run (some number) first.2
    first.1 = .ok .pending ∧ second.1 = .ok .ok ∧
      (∃ requests, second.2.asked = first.2.asked ++ requests ∧ requests.countP (·.calls "actRegister") = 1) ∧
      ∀ later : World, later.sender = world.sender → PairingDevice later.device pin value → later.Delivers → later.Calm →
        later.files.Houses path →
        (∀ count, later.files.fault count .read path = none) →
        later.files.contents.get? path = second.2.files.contents.get? path →
        let third := returning.run none later
        third.1 = .ok .ok ∧
          ∃ requests, third.2.asked = later.asked ++ requests ∧ requests.countP (·.calls "actRegister") = 0 := by
  obtain ⟨askingFit, code, coded, requested⟩ := asks
  have sound : Cookie.Legible world.sender (world.jar number).cookies := by
    rw [built]
    exact Cookie.legible_fold settings delivered Cookie.legible_empty
  have serves : world.Serves number path pin value := ⟨pairs, delivers, backs, sound, calm⟩
  obtain ⟨shown, pending, steady, still⟩ := Session.asking_served askingFit plain serves unheld ⟨coded, requested⟩ gives.2.2
  obtain ⟨requests, registered, accepted, asked, once, later, holds, mirrors⟩ :=
    Session.giving_served (steady.sender ▸ gives.1) plain (World.serves_steady serves steady) still gives.2
  rw [pending]
  dsimp only
  rw [accepted]
  refine ⟨rfl, rfl, ⟨requests, asked, once⟩, fun again sender device arrives quiet houses readable same => ?_⟩
  have legible : Cookie.Legible again.sender (registered.jar number).cookies :=
    sender ▸ steady.sender ▸ later.sound
  obtain ⟨questions, admitted, returned, more, none⟩ := Session.returning_served (sender ▸ returns.1) plain device arrives
    quiet houses readable returns.2 (same.trans mirrors) legible holds
  rw [returned]
  exact ⟨rfl, questions, more, none⟩

theorem pairing_lasts_odd_cookie :
    let value := "a=\"b\" \\ c"
    let channel (name : String) : Channel := { url := "http://tv/sony/" ++ name }
    let client := Client.ofServices
      [{ name := "accessControl", channel := channel "accessControl" }, { name := "system", channel := channel "system" }]
    let world : World :=
      { device := cookieDevice "1234" value, jars := [{ cookies := [("lang", "en")], file := some "cookies.json" }] }
    let asking : Session :=
      { settings := { deviceAddress := .text "http://tv", accessCode := .text "rqst" }, client := client }
    let giving : Session :=
      { settings := { deviceAddress := .text "http://tv", accessCode := .text "1234" }, client := client }
    let returning : Session :=
      { settings := { deviceAddress := .text "http://tv", cookieFilePath := .text "cookies.json" }, client := client }
    ∃ shown registered final requests,
      asking.run (some 0) world = (.ok .pending, shown) ∧ giving.run (some 0) shown = (.ok .ok, registered) ∧
      registered.asked = shown.asked ++ requests ∧ requests.countP (·.calls "actRegister") = 1 ∧
      returning.run none { device := world.device, files := { contents := registered.files.contents } } = (.ok .ok, final) ∧
      final.asked.countP (·.calls "actRegister") = 0 := by
  intro value channel client world asking giving returning
  have plain : ';' ∉ value.toList := by decide
  have pairs : PairingDevice world.device "1234" value := cookie_device_pairs "1234" value plain
  have houses : ({} : Files).Houses "cookies.json" := ⟨by decide, by decide, fun _ => rfl⟩
  have backs : world.Backs 0 "cookies.json" := ⟨by decide, rfl, houses⟩
  have unheld : ¬ world.Holds 0 value := fun held => nomatch held
  have clear (channel : Channel) (read : (Url.read? channel.url).any (·.requestPath.toList.all world.sender.path))
      (timed : world.sender.timeout (channel.timeout.getD Http.defaultTimeout) = true) :
      ∃ url, channel.Open world.sender url := by
    obtain ⟨url, found, fits⟩ := (Option.any_eq_true _ _).mp read
    exact ⟨url, found, fits, timed⟩
  have ready : ∃ accessControl system, client.Ready world.sender accessControl system := by
    have channels : client.channels = [channel "accessControl", channel "system"] := rfl
    have reached : (∃ url, (channel "accessControl").Open world.sender url) ∧ ∃ url, (channel "system").Open world.sender url :=
      ⟨clear _ (by decide +kernel) (by decide +kernel), clear _ (by decide +kernel) (by decide +kernel)⟩
    refine ⟨_, _, ⟨rfl, rfl⟩, ?_, reached, .inl rfl⟩
    intro given member
    rw [channels] at member
    simp only [List.mem_cons, List.not_mem_nil, or_false] at member
    rcases member with rfl | rfl
    · exact ⟨rfl, rfl⟩
    · exact ⟨rfl, rfl⟩
  have fit (settings : Settings) : Session.Fit { settings := settings, client := client } world.sender :=
    ⟨ready, fun _ _ _ _ => rfl, fun _ supplied => nomatch supplied⟩
  have delivers : world.Delivers := fun asked request setting member =>
    cookie_device_settings "1234" value asked request setting member ▸ by decide +kernel
  have lasts := pairing_lasts "1234" value "cookies.json" ["lang=en"] 0 world asking giving returning plain pairs delivers
    ⟨fun _ _ => rfl, fun _ => rfl⟩ backs (by decide) (by decide +kernel) unheld ⟨fit _, "rqst", ⟨rfl, by decide⟩, by decide +kernel⟩
    ⟨fit _, ⟨rfl, by decide⟩, by decide +kernel⟩ ⟨fit _, rfl⟩
  rcases first : asking.run (some 0) world with ⟨pending, shown⟩
  rw [first] at lasts
  rcases second : giving.run (some 0) shown with ⟨accepted, registered⟩
  dsimp only at lasts
  rw [second] at lasts
  obtain ⟨rfl, rfl, ⟨requests, asked, once⟩, lasting⟩ := lasts
  let later : World := { device := world.device, files := { contents := registered.files.contents } }
  have admitted := lasting later rfl pairs delivers ⟨fun _ _ => rfl, fun _ => rfl⟩ ⟨rfl, rfl, fun _ => rfl⟩ (fun _ => rfl) rfl
  rcases third : returning.run none later with ⟨returned, final⟩
  rw [third] at admitted
  obtain ⟨rfl, questions, more, none⟩ := admitted
  refine ⟨shown, registered, final, requests, rfl, second, asked, once, third, ?_⟩
  rw [more]
  exact none

end DeviceLogin
