import DeviceLogin.Proofs.Cookie.File
import DeviceLogin.Proofs.Files
import DeviceLogin.Proofs.Posting

set_option autoImplicit false

namespace DeviceLogin

open Act

theorem Act.run_recover {σ α : Type} (act : Act σ α) (handler : Failure → StateM σ α) (state : σ) :
    (recover act handler).run state =
      match act.perform state with
      | (.ok value, after) => (value, after)
      | (.error failure, after) => (handler failure).run after := by
  cases ended : act.perform state with
  | mk result after =>
      have ran : (ExceptT.run act).run state = (result, after) := ended
      rw [recover, StateT.run_bind, ran]
      cases result <;> rfl

def Files.cookiesAt (files : Files) (path : String) : Ordered String :=
  if files.isFolder path then [] else ((files.contents.get? path).bind CookieJar.ofFileText?).getD []

-- The same cookies; and in the same order, unless a name is an array index.
structure CookieJar.Same (cookies held : Ordered String) : Prop where
  entries : cookies.Perm held
  order : (∀ name ∈ Ordered.keys held, indexName? name = none) → cookies = held

structure CookieJar.Fit (cookies : Ordered String) : Prop where
  distinct : (Ordered.keys cookies).Nodup
  unreserved : ∀ name ∈ Ordered.keys cookies, Shape.dropped name = false

namespace CookieJar

theorem same_refl (cookies : Ordered String) : Same cookies cookies := ⟨List.Perm.refl _, fun _ => rfl⟩

theorem fit_empty : Fit [] := ⟨List.nodup_nil, by simp [Ordered.keys]⟩

theorem fit_of_file (files : Files) (path : String) : Fit (files.cookiesAt path) := by
  rw [Files.cookiesAt]
  split
  · exact fit_empty
  cases found : (files.contents.get? path).bind ofFileText? with
  | none => exact fit_empty
  | some cookies =>
      obtain ⟨content, -, read⟩ := Option.bind_eq_some_iff.mp found
      obtain ⟨distinct, unreserved⟩ := of_file_text_fit content cookies read
      exact ⟨distinct, unreserved⟩

def Unreserved (settings : List String) : Prop :=
  ∀ setting ∈ settings, ∀ cookie, Cookie.read? setting = some cookie → cookie.name ≠ "__proto__"

theorem fit_apply (cookies : Ordered String) (setting : String) (fit : Fit cookies)
    (unreserved : ∀ cookie, Cookie.read? setting = some cookie → cookie.name ≠ "__proto__") :
    Fit (Cookie.apply cookies setting) := by
  rw [Cookie.apply]
  cases read : Cookie.read? setting with
  | none => exact fit
  | some cookie =>
      dsimp only
      split
      · refine ⟨Ordered.nodup_keys_erase _ _ fit.distinct, fun name member => ?_⟩
        rw [Ordered.keys_erase] at member
        exact fit.unreserved name (List.mem_filter.mp member).1
      · refine ⟨Ordered.nodup_keys_put _ _ _ fit.distinct, fun name member => ?_⟩
        rw [Ordered.keys_put] at member
        split at member
        · exact fit.unreserved name member
        · rcases List.mem_append.mp member with old | new
          · exact fit.unreserved name old
          · rw [List.mem_singleton.mp new]
            exact beq_eq_false_iff_ne.mpr (unreserved cookie read)

theorem fit_fold (settings : List String) (cookies : Ordered String) (fit : Fit cookies) (unreserved : Unreserved settings) :
    Fit (settings.foldl Cookie.apply cookies) := by
  induction settings generalizing cookies with
  | nil => exact fit
  | cons setting rest ih =>
      exact ih _ (fit_apply cookies setting fit (unreserved setting List.mem_cons_self))
        fun later member => unreserved later (List.mem_cons_of_mem _ member)

theorem same_in_member_order (cookies : Ordered String) : Same (Ordered.inMemberOrder cookies) cookies :=
  ⟨Ordered.member_order_perm cookies, Ordered.member_order_plain cookies⟩

theorem of_fit_text (cookies : Ordered String) (fit : Fit cookies) :
    ofFileText? (fileText cookies) = some (Ordered.inMemberOrder cookies) := by
  rw [of_file_text cookies fit.distinct, List.filter_eq_self.mpr]
  intro cookie member
  have known := (Ordered.keys_member_order cookies).mem_iff.mp (List.mem_map_of_mem member)
  rw [fit.unreserved cookie.1 known, Bool.not_false]

end CookieJar

namespace World

def Readable (path : String) (world : World) : Prop :=
  ∀ count, world.files.fault count .probe path = none ∧ world.files.fault count .read path = none

theorem cookies_at_missing (world : World) (path : String)
    (missing : (world.files.isFile path || world.files.isFolder path) = false) : world.files.cookiesAt path = [] := by
  simp only [Files.isFile, Ordered.has, Bool.or_eq_false_iff, Option.isSome_eq_false_iff, Option.isNone_iff_eq_none] at missing
  rw [Files.cookiesAt, missing.1, missing.2]
  rfl

theorem load_cookies_ways (path : String) (world : World) :
    ∃ accesses, ((loadCookies path).run world).2 = { world with files := { world.files with accesses := accesses } } ∧
      (((loadCookies path).run world).1.getD [] = world.files.cookiesAt path ∨
        ((loadCookies path).run world).1.getD [] = [] ∧ ¬ Readable path world) := by
  have folder : world.accessed.files.isFolder path = world.files.isFolder path := rfl
  have contents : world.accessed.files.contents = world.files.contents := rfl
  rw [loadCookies, run_recover, perform_bind]
  cases unprobed : world.fault? .probe path with
  | some message =>
      rw [file_exists_faulty unprobed]
      exact ⟨_, rfl, .inr ⟨rfl, fun readable => nomatch unprobed.symm.trans (readable _).1⟩⟩
  | none =>
      rw [file_exists_perform path world unprobed]
      cases there : world.files.isFile path || world.files.isFolder path with
      | false =>
          exact ⟨_, rfl, .inl (cookies_at_missing world path there).symm⟩
      | true =>
          simp only [if_true, perform_bind]
          cases unread : world.accessed.fault? .read path with
          | some message =>
              rw [read_file_faulty unread]
              exact ⟨_, rfl, .inr ⟨rfl, fun readable => nomatch unread.symm.trans (readable _).2⟩⟩
          | none =>
              rw [read_file_perform path world.accessed unread, folder, contents, Files.cookiesAt]
              cases world.files.isFolder path with
              | true => exact ⟨_, rfl, .inl rfl⟩
              | false =>
                  cases world.files.contents.get? path with
                  | none => exact ⟨_, rfl, .inl rfl⟩
                  | some content => exact ⟨_, rfl, .inl rfl⟩

theorem load_cookies_run (path : String) (world : World) (readable : Readable path world) :
    ∃ accesses, ((loadCookies path).run world).2 = { world with files := { world.files with accesses := accesses } } ∧
      ((loadCookies path).run world).1.getD [] = world.files.cookiesAt path := by
  obtain ⟨accesses, loaded, cookies | ⟨-, unreadable⟩⟩ := load_cookies_ways path world
  · exact ⟨accesses, loaded, cookies⟩
  · exact absurd readable unreadable

theorem cookies_at_written (world : World) (path content : String) (mode : WriteMode)
    (plain : world.files.isFolder path = false) :
    (world.withFile path content mode).files.cookiesAt path = (CookieJar.ofFileText? content).getD [] := by
  have folder : (world.withFile path content mode).files.isFolder path = false := plain
  have there : (world.withFile path content mode).files.contents.get? path = some content := by
    rw [withFile, Ordered.get_put, if_pos rfl]
  rw [Files.cookiesAt, folder, there]
  rfl

theorem cookies_at_removed (world : World) (path : String) : (world.withoutFile path).files.cookiesAt path = [] := by
  have gone : (world.withoutFile path).files.contents.get? path = none := by
    rw [withoutFile, Ordered.get_erase, if_pos rfl]
  rw [Files.cookiesAt, gone]
  split <;> rfl

theorem open_jar_loaded {path : String} {world : World} {accesses : Nat} {cookies : Ordered String} (alarm : Alarm)
    (named : path ≠ "")
    (loaded : ((loadCookies path).run world).2 = { world with files := { world.files with accesses := accesses } })
    (held : ((loadCookies path).run world).1.getD [] = cookies) :
    (openJar (some path) alarm).run world =
      (world.jars.length,
        { world with
          files := { world.files with accesses := accesses }
          jars := world.jars ++ [{ cookies := cookies, file := some path, alarm := alarm }] }) := by
  have file : (some path).filter (fun path => !path.isEmpty) = some path := by simp [Option.filter, named]
  have opened : (openJar (some path) alarm).run world =
      (((loadCookies path).run world).2.jars.length,
        { ((loadCookies path).run world).2 with
          jars := ((loadCookies path).run world).2.jars ++
            [{ cookies := ((loadCookies path).run world).1.getD [], file := some path, alarm := alarm }] }) := by
    rw [openJar, file]
    rfl
  rw [opened, loaded, held]

theorem open_jar_run (path : String) (alarm : Alarm) (world : World) (named : path ≠ "") (readable : Readable path world) :
    ∃ accesses, (openJar (some path) alarm).run world =
      (world.jars.length,
        { world with
          files := { world.files with accesses := accesses }
          jars := world.jars ++ [{ cookies := world.files.cookiesAt path, file := some path, alarm := alarm }] }) := by
  obtain ⟨accesses, loaded, cookies⟩ := load_cookies_run path world readable
  exact ⟨accesses, open_jar_loaded alarm named loaded cookies⟩

def holding (number : Nat) (cookies : Ordered String) (world : World) : World :=
  { world with jars := world.jars.modify number fun jar => { jar with cookies := cookies } }

theorem jar_holding (number : Nat) (cookies : Ordered String) (world : World) (opened : number < world.jars.length) :
    (world.holding number cookies).jar number = { world.jar number with cookies := cookies } := by
  have jars : (world.holding number cookies).jars = world.jars.modify number fun jar => { jar with cookies := cookies } := rfl
  exact jar_modified opened jars

theorem raise_run (alarm : Alarm) (message : String) (world : World) :
    ∃ events, ((raise alarm message).run world).2 = { world with trace := world.trace ++ events } := by
  cases alarm with
  | silent => exact ⟨[], by rw [List.append_nil]; rfl⟩
  | report => exact ⟨[_], rfl⟩
  | warn context => exact ⟨[_], rfl⟩

theorem save_jar_run (number : Nat) (path : String) (world : World) (file : (world.jar number).file = some path) :
    ∃ events, ((saveJar number).run world).2 =
      { ((saveCookies path (world.jar number).cookies).perform world).2 with
        trace := ((saveCookies path (world.jar number).cookies).perform world).2.trace ++ events } := by
  have saving : (saveJar number).run world =
      (recover (saveCookies path (world.jar number).cookies) fun failure =>
        raise (world.jar number).alarm ("Failed to save cookie file: " ++ failure.message)).run world := by
    simp only [saveJar, StateT.run_bind, StateT.run_get, pure_bind, file]
  rw [saving, run_recover]
  cases (saveCookies path (world.jar number).cookies).perform world with
  | mk result after =>
      cases result with
      | ok => exact ⟨[], by simp⟩
      | error failure => exact raise_run _ _ after

theorem clear_jar_run (number : Nat) (path : String) (world : World) (opened : number < world.jars.length)
    (file : (world.jar number).file = some path) :
    ((clearJar number).run world).2 = ((dropCookieFile path).run (world.holding number [])).2 := by
  have held : ((world.holding number []).jar number).file = some path := by rw [jar_holding number [] world opened, file]
  simp only [clearJar, updateJar, StateT.run_bind, StateT.run_modify, StateT.run_get, pure_bind]
  split
  · next other given =>
    obtain rfl : path = other := Option.some.inj (held.symm.trans given)
    rfl
  · next unfiled => cases held.symm.trans unfiled

end World

inductive JarStep where
  | store (settings : List String)
  | clear

namespace JarStep

def run (number : Nat) : JarStep → StateM World Unit
  | .store settings => World.storeCookies number settings
  | .clear => World.clearJar number

def attempt? (number : Nat) (path : String) (world : World) : JarStep → Option (Except Failure Unit)
  | .store settings =>
      let (cookies, changed) := Cookie.applyAll (world.jar number).cookies settings
      if changed then some ((World.saveCookies path cookies).perform (world.holding number cookies)).1 else none
  | .clear =>
      match (World.fileExists path).perform (world.holding number []) with
      | (.ok true, probed) => some ((World.removeFile path).perform probed).1
      | _ => none

def next (number : Nat) (path : String) (state : World × Option (Except Failure Unit)) (step : JarStep) :
    World × Option (Except Failure Unit) :=
  (((step.run number).run state.1).2, (step.attempt? number path state.1).or state.2)

def course (number : Nat) (path : String) (steps : List JarStep) (start : World) : World × Option (Except Failure Unit) :=
  steps.foldl (next number path) (start, none)

def Unreserved : JarStep → Prop
  | .store settings => CookieJar.Unreserved settings
  | .clear => True

end JarStep

structure JarKept (number : Nat) (path : String) (world : World) (last : Option (Except Failure Unit)) : Prop where
  opened : number < world.jars.length
  file : (world.jar number).file = some path
  readable : world.Readable path
  fit : CookieJar.Fit (world.jar number).cookies
  stored : (∀ failure, last ≠ some (.error failure)) →
    CookieJar.Same (world.files.cookiesAt path) (world.jar number).cookies

namespace JarKept

variable {number : Nat} {path : String} {world after : World} {last : Option (Except Failure Unit)}

theorem change (kept : JarKept number path world last) (cookies : Ordered String) (fit : CookieJar.Fit cookies)
    (next : Option (Except Failure Unit)) (jars : after.jars = (world.holding number cookies).jars)
    (faults : after.files.fault = world.files.fault)
    (stored : (∀ failure, next ≠ some (.error failure)) → CookieJar.Same (after.files.cookiesAt path) cookies) :
    JarKept number path after next := by
  have held : after.jar number = { world.jar number with cookies := cookies } := by
    rw [← World.jar_holding number cookies world kept.opened]
    exact congrArg (·.getD number ({} : CookieJar)) jars
  refine ⟨?_, ?_, ?_, ?_, ?_⟩
  · simpa [jars, World.holding] using kept.opened
  · rw [held]
    exact kept.file
  · intro count
    rw [faults]
    exact kept.readable count
  · rw [held]
    exact fit
  · intro settled
    rw [held]
    exact stored settled

theorem save (kept : JarKept number path world last) (cookies : Ordered String) (fit : CookieJar.Fit cookies) :
    JarKept number path ((World.saveJar number).run (world.holding number cookies)).2
      (some ((World.saveCookies path cookies).perform (world.holding number cookies)).1) := by
  have held := World.jar_holding number cookies world kept.opened
  obtain ⟨events, saved⟩ := World.save_jar_run number path (world.holding number cookies) (by rw [held]; exact kept.file)
  rw [saved, held]
  dsimp only
  rw [World.saveCookies, World.write_file_perform]
  cases barred : (world.holding number cookies).barred? path .replacePrivately with
  | some message => exact kept.change cookies fit _ rfl rfl fun settled => (settled _ rfl).elim
  | none =>
      cases (world.holding number cookies).fault? .write path with
      | some fault => exact kept.change cookies fit _ rfl rfl fun settled => (settled _ rfl).elim
      | none =>
          refine kept.change cookies fit _ rfl rfl fun _ => ?_
          have plain := World.write_obstacle_replacing _ path (World.unbarred barred)
          have stored : ((world.holding number cookies).accessed.withFile path (CookieJar.fileText cookies)
              .replacePrivately).files.cookiesAt path = Ordered.inMemberOrder cookies := by
            rw [World.cookies_at_written (world.holding number cookies).accessed path _ _ plain,
              CookieJar.of_fit_text cookies fit, Option.getD_some]
          exact stored ▸ CookieJar.same_in_member_order cookies

theorem store (kept : JarKept number path world last) (settings : List String) (unreserved : CookieJar.Unreserved settings) :
    JarKept number path ((World.storeCookies number settings).run world).2
      (((JarStep.store settings).attempt? number path world).or last) := by
  have fit := CookieJar.fit_fold settings (world.jar number).cookies kept.fit unreserved
  rw [← Cookie.apply_all_held] at fit
  rw [World.store_cookies_run]
  cases changed : (Cookie.applyAll (world.jar number).cookies settings).2 with
  | false => simpa [JarStep.attempt?, changed] using kept
  | true =>
      have saved := kept.save (Cookie.applyAll (world.jar number).cookies settings).1 fit
      simp only [JarStep.attempt?, changed, if_true, Option.some_or]
      exact saved

theorem clear (kept : JarKept number path world last) :
    JarKept number path ((World.clearJar number).run world).2 ((JarStep.clear.attempt? number path world).or last) := by
  have fit := CookieJar.fit_empty
  have probed := World.file_exists_perform path (world.holding number []) (kept.readable _).1
  rw [World.clear_jar_run number path world kept.opened kept.file, World.dropCookieFile, Act.run_recover, Act.perform_bind,
    JarStep.attempt?, probed]
  cases there : (world.holding number []).files.isFile path || (world.holding number []).files.isFolder path with
  | false =>
      have missing : (world.holding number []).accessed.files.cookiesAt path = [] := World.cookies_at_missing _ path there
      exact kept.change [] fit _ rfl rfl fun _ => missing ▸ CookieJar.same_refl []
  | true =>
      simp only [if_true]
      rw [World.remove_file_perform]
      cases (world.holding number []).accessed.fault? .remove path with
      | some message => exact kept.change [] fit _ rfl rfl fun settled => (settled _ rfl).elim
      | none =>
          cases (world.holding number []).accessed.files.isFolder path with
          | true => exact kept.change [] fit _ rfl rfl fun settled => (settled _ rfl).elim
          | false =>
              cases (world.holding number []).accessed.files.isFile path with
              | false => exact kept.change [] fit _ rfl rfl fun settled => (settled _ rfl).elim
              | true =>
                  have gone : ((world.holding number []).accessed.accessed.withoutFile path).files.cookiesAt path = [] :=
                    World.cookies_at_removed _ path
                  exact kept.change [] fit _ rfl rfl fun _ => gone ▸ CookieJar.same_refl []

theorem step (kept : JarKept number path world last) (step : JarStep) (unreserved : step.Unreserved) :
    JarKept number path ((step.run number).run world).2 ((step.attempt? number path world).or last) := by
  cases step with
  | store settings => exact kept.store settings unreserved
  | clear => exact kept.clear

theorem run (kept : JarKept number path world last) (steps : List JarStep) (unreserved : ∀ step ∈ steps, step.Unreserved) :
    JarKept number path (steps.foldl (JarStep.next number path) (world, last)).1
      (steps.foldl (JarStep.next number path) (world, last)).2 := by
  induction steps generalizing world last with
  | nil => exact kept
  | cons step rest ih =>
      exact ih (kept.step step (unreserved step List.mem_cons_self))
        fun later member => unreserved later (List.mem_cons_of_mem _ member)

end JarKept

theorem World.jar_opened (world : World) (jar : CookieJar) (files : Files) :
    ({ world with files := files, jars := world.jars ++ [jar] } : World).jar world.jars.length = jar := by
  simp [World.jar, List.getD_eq_getElem?_getD]

theorem kept_opened (path : String) (alarm : Alarm) (world : World) (named : path ≠ "") (readable : world.Readable path) :
    JarKept ((World.openJar (some path) alarm).run world).1 path ((World.openJar (some path) alarm).run world).2 none := by
  obtain ⟨accesses, opened⟩ := World.open_jar_run path alarm world named readable
  rw [opened]
  refine ⟨by simp, ?_, readable, ?_, fun _ => ?_⟩
  · rw [World.jar_opened]
  · rw [World.jar_opened]
    exact CookieJar.fit_of_file world.files path
  · rw [World.jar_opened]
    exact CookieJar.same_refl _

-- A jar is opened on a file and goes through any steps. Unless the last save or removal that was attempted has failed,
-- a jar that is then opened on the file holds the same cookies, and if no name is an array index, it sends the same
-- header. Writes and removals may fail as they like, and the file may hold anything at first.
theorem reopened_jar_agrees (path : String) (alarm later : Alarm) (steps : List JarStep) (world : World)
    (named : path ≠ "") (readable : world.Readable path) (unreserved : ∀ step ∈ steps, step.Unreserved) :
    let opened := (World.openJar (some path) alarm).run world
    let ended := JarStep.course opened.1 path steps opened.2
    let reopened := (World.openJar (some path) later).run ended.1
    (∀ failure, ended.2 ≠ some (.error failure)) →
      (reopened.2.jar reopened.1).cookies.Perm (ended.1.jar opened.1).cookies ∧
      ((∀ name ∈ Ordered.keys (ended.1.jar opened.1).cookies, indexName? name = none) →
        (reopened.2.jar reopened.1).header? = (ended.1.jar opened.1).header?) := by
  intro opened ended reopened settled
  have kept : JarKept opened.1 path ended.1 ended.2 := (kept_opened path alarm world named readable).run steps unreserved
  obtain ⟨accesses, again⟩ := World.open_jar_run path later ended.1 named kept.readable
  have same := kept.stored settled
  have cookies : (reopened.2.jar reopened.1).cookies = ended.1.files.cookiesAt path := by
    simp only [reopened, again, World.jar_opened]
  refine ⟨cookies ▸ same.entries, fun plain => ?_⟩
  rw [CookieJar.header?, CookieJar.header?, cookies, same.order plain]

def fullAtFirst : World where
  device := fun _ _ => .timedOut
  files :=
    { contents := [("cookies.json", "not cookies")]
      fault := fun count call _ =>
        if count = 2 ∧ call = .write then some ⟨"ENOSPC: no space left on device, write", some 9⟩ else none }

def twoAnswers : List JarStep := [.store ["theme=\"dark\"; Path=/", "auth=first"], .store ["auth=second"]]

theorem two_answers_unreserved : ∀ step ∈ twoAnswers, step.Unreserved := by
  have named : ∀ setting ∈ ["theme=\"dark\"; Path=/", "auth=first", "auth=second"],
      (Cookie.read? setting).all (·.name != "__proto__") := by decide +kernel
  intro step member
  have settings (some : List String) (within : some ⊆ ["theme=\"dark\"; Path=/", "auth=first", "auth=second"]) :
      CookieJar.Unreserved some := by
    intro setting here cookie read
    simpa [read] using named setting (within here)
  rcases List.mem_pair.mp member with rfl | rfl
  · exact settings _ (by simp)
  · exact settings _ (by simp)

theorem reopened_jar_agrees_after_failure :
    let opened := (World.openJar (some "cookies.json") .silent).run fullAtFirst
    let ended := JarStep.course opened.1 "cookies.json" twoAnswers opened.2
    let reopened := (World.openJar (some "cookies.json") .report).run ended.1
    (reopened.2.jar reopened.1).header? = (ended.1.jar opened.1).header? ∧
      (ended.1.jar opened.1).header? = some "theme=\"dark\"; auth=second" := by
  intro opened ended reopened
  have done : (ended.2.all fun attempt => attempt.toOption.isSome) = true := by decide +kernel
  have settled : ∀ failure, ended.2 ≠ some (.error failure) := by
    intro failure failed
    rw [failed] at done
    cases done
  have plain : ∀ name ∈ Ordered.keys (ended.1.jar opened.1).cookies, indexName? name = none := by decide +kernel
  have agrees := reopened_jar_agrees "cookies.json" .silent .report twoAnswers fullAtFirst (by decide)
    (fun count => by simp [fullAtFirst]) two_answers_unreserved settled
  exact ⟨agrees.2 plain, by decide +kernel⟩

end DeviceLogin
