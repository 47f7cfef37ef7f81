import DeviceLogin.Cookie.Jar
import DeviceLogin.Incident
import DeviceLogin.Proofs.Secrecy.Redaction
import DeviceLogin.WakeOnLan

set_option autoImplicit false

namespace DeviceLogin

open Act

variable {mask : String → String}

namespace World

theorem alike_refl (world : World) (blind : Blind world.device) (overlooks : world.sender.Overlooks mask) :
    World.Alike mask world world :=
  ⟨world.asked, world.trace, rfl, rfl, rfl, blind, overlooks⟩

variable {α : Type}

theorem get_agreeing {next : World → StateM World α}
    (apart : ∀ world asked trace, next { world with asked := asked, trace := trace } = next world)
    (rest : ∀ world, Agreeing (World.Alike mask) (next world) (next world)) :
    Agreeing (World.Alike mask) (get >>= next) (get >>= next) := by
  refine Agreeing.get_bind fun world twin same => ?_
  obtain ⟨asked, trace, equal, -⟩ := id same
  have view : next twin = next world := equal ▸ apart world asked trace
  rw [view]
  exact rest world world twin same

theorem get_agrees {next : World → Act World α}
    (apart : ∀ world asked trace, next { world with asked := asked, trace := trace } = next world)
    (rest : ∀ world, Agrees (World.Alike mask) (next world) (next world)) :
    Agrees (World.Alike mask) (get >>= next) (get >>= next) := by
  refine Agrees.get_bind fun world twin same => ?_
  obtain ⟨asked, trace, equal, -⟩ := id same
  have view : next twin = next world := equal ▸ apart world asked trace
  rw [view]
  exact rest world world twin same

theorem record_agreeing (event twin : Event) (same : event.masked mask = twin.masked mask) :
    Agreeing (World.Alike mask) (record event) (record twin) := by
  rintro world _ ⟨asked, trace, rfl, history, events, blind⟩
  refine ⟨rfl, asked, trace ++ [twin], rfl, history, ?_, blind⟩
  change (world.trace ++ [event]).map (Event.masked mask) = _
  rw [List.map_append, List.map_append, events]
  exact congrArg (_ ++ [·]) same

theorem write_log_agreeing (logger : Logger) (level : Log.Level) (message : String) (context : Log.Context) :
    Agreeing (World.Alike mask) (logger.write level message context) (logger.write level message context) :=
  record_agreeing _ _ rfl

theorem push_agrees (key : String) (value : Option String) : Agrees (World.Alike mask) (push key value) (push key value) := by
  refine get_agrees (fun _ _ _ => rfl) fun world => ?_
  cases world.refusesProperty key with
  | none => exact Agrees.always (record_agreeing _ _ rfl)
  | some failure => exact Agrees.throw failure

theorem report_agreeing (scope message : String) (about : Incident.About) :
    Agreeing (World.Alike mask) (Incident.report scope message about) (Incident.report scope message about) := by
  refine Agreeing.bind ?_ fun _ => Agreeing.pure _
  unfold Incident.log
  dsimp only
  split
  · refine Agreeing.bind (record_agreeing _ _ rfl) fun _ => ?_
    split
    · split
      · exact Agreeing.pure ()
      · exact record_agreeing _ _ rfl
    · exact Agreeing.pure ()
  · exact record_agreeing _ _ rfl
  · exact record_agreeing _ _ rfl
  · exact record_agreeing _ _ rfl
  · exact Agreeing.pure ()

theorem next_fault_agreeing (call : FileCall) (path : String) :
    Agreeing (World.Alike mask) (nextFault? call path) (nextFault? call path) := by
  rintro world _ ⟨asked, trace, rfl, history, events, blind⟩
  exact ⟨rfl, asked, trace, rfl, history, events, blind⟩

theorem access_agrees (call : FileCall) (path : String) : Agrees (World.Alike mask) (access call path) (access call path) := by
  refine (Agrees.always (next_fault_agreeing call path)).bind fun fault => ?_
  cases fault with
  | none => exact Agrees.pure ()
  | some fault => exact Agrees.throw _

theorem file_exists_agrees (path : String) : Agrees (World.Alike mask) (fileExists path) (fileExists path) :=
  (access_agrees .probe path).bind fun _ => get_agrees (fun _ _ _ => rfl) fun _ => Agrees.pure _

theorem read_file_agrees (path : String) : Agrees (World.Alike mask) (readFile path) (readFile path) := by
  refine (access_agrees .read path).bind fun _ => get_agrees (fun _ _ _ => rfl) fun world => ?_
  refine Agrees.ite (Agrees.throw_bind _) ?_
  cases world.files.contents.get? path with
  | some content => exact Agrees.pure content
  | none => exact Agrees.throw _

theorem put_file_agreeing (path content : String) (mode : WriteMode) :
    Agreeing (World.Alike mask) (putFile path content mode) (putFile path content mode) := by
  rintro world _ ⟨asked, trace, rfl, history, events, blind⟩
  refine ⟨rfl, asked, trace ++ [.wrote path content mode], rfl, history, ?_, blind⟩
  change (world.trace ++ [_]).map (Event.masked mask) = _
  rw [List.map_append, List.map_append, events]

theorem write_file_agrees (path content : String) (mode : WriteMode) :
    Agrees (World.Alike mask) (writeFile path content mode) (writeFile path content mode) := by
  refine (Agrees.always (next_fault_agreeing .write path)).bind fun fault => get_agrees (fun _ _ _ => rfl) fun world => ?_
  cases fault.bind FileFault.refusal? <|> writeObstacle? world.files path mode with
  | some message => exact Agrees.throw _
  | none =>
      cases fault with
      | none => exact Agrees.always (put_file_agreeing path content mode)
      | some fault => exact (Agrees.always (put_file_agreeing path _ mode)).bind fun _ => Agrees.throw _

theorem raise_agreeing (alarm : Alarm) (message : String) :
    Agreeing (World.Alike mask) (raise alarm message) (raise alarm message) := by
  cases alarm with
  | silent => exact Agreeing.pure ()
  | report => exact record_agreeing _ _ rfl
  | warn context => exact write_log_agreeing _ _ _ _

theorem save_jar_agreeing (number : Nat) : Agreeing (World.Alike mask) (saveJar number) (saveJar number) := by
  refine get_agreeing (fun _ _ _ => rfl) fun world => ?_
  dsimp only
  cases (World.jar number world).file with
  | none => exact Agreeing.pure ()
  | some path =>
      exact Agrees.recover (write_file_agrees path _ .replacePrivately) fun _ => raise_agreeing _ _

theorem update_jar_agreeing (number : Nat) (change : CookieJar → CookieJar) :
    Agreeing (World.Alike mask) (updateJar number change) (updateJar number change) := by
  rintro world _ ⟨asked, trace, rfl, history, events, blind⟩
  exact ⟨rfl, asked, trace, rfl, history, events, blind⟩

theorem store_cookies_agreeing (number : Nat) (settings : List String) :
    Agreeing (World.Alike mask) (storeCookies number settings) (storeCookies number settings) := by
  refine get_agreeing (fun _ _ _ => rfl) fun world => ?_
  dsimp only
  split
  · exact (update_jar_agreeing number _).bind fun _ => save_jar_agreeing number
  · exact Agreeing.pure ()

theorem load_cookies_agreeing (path : String) : Agreeing (World.Alike mask) (loadCookies path) (loadCookies path) := by
  refine Agrees.recover ((file_exists_agrees path).bind fun present => Agrees.ite ?_ (Agrees.pure none)) fun _ => Agreeing.pure _
  exact (read_file_agrees path).bind fun _ => Agrees.pure _

theorem open_jar_agreeing (file : Option String) (alarm : Alarm) :
    Agreeing (World.Alike mask) (openJar file alarm) (openJar file alarm) := by
  have added (opened : CookieJar) : ∀ world twin, World.Alike mask world twin → world.jars.length = twin.jars.length ∧
      World.Alike mask { world with jars := world.jars ++ [opened] } { twin with jars := twin.jars ++ [opened] } := by
    rintro world _ ⟨asked, trace, rfl, history, events, blind⟩
    exact ⟨rfl, asked, trace, rfl, history, events, blind⟩
  unfold openJar
  dsimp only
  cases file.filter (!·.isEmpty) with
  | none => exact (Agreeing.pure none).bind fun _ => Agreeing.get_bind fun world twin same => added _ world twin same
  | some path => exact (load_cookies_agreeing path).bind fun _ => Agreeing.get_bind fun world twin same => added _ world twin same

end World

theorem WakeOnLan.broadcast_agreeing (target : Target) (packet : List UInt8) :
    Agreeing (World.Alike mask) (broadcast target packet) (broadcast target packet) := by
  refine Agreeing.get_bind ?_
  rintro world _ ⟨asked, trace, rfl, history, events, blind⟩
  have opened : World.Alike mask { world with socketsOpened := world.socketsOpened + 1 }
      { world with socketsOpened := world.socketsOpened + 1, asked := asked, trace := trace } :=
    ⟨asked, trace, rfl, history, events, blind⟩
  cases plan : (world.sockets world.socketsOpened).bindError with
  | some message =>
      simp only [plan]
      exact (World.record_agreeing _ _ rfl).bind (fun _ => Agreeing.pure _) _ _ opened
  | none =>
      simp only [plan]
      exact (World.record_agreeing _ _ rfl).bind (fun _ => Agreeing.pure _) _ _ opened

theorem WakeOnLan.wake_agreeing (parent : Logger) (target : Target) (ip mac : Option String) :
    Agreeing (World.Alike mask) (wake parent target ip mac) (wake parent target ip mac) := by
  have debug (message : String) : Agreeing (World.Alike mask) ((parent.child (.about "Wake")).debug message)
      ((parent.child (.about "Wake")).debug message) := World.write_log_agreeing _ _ _ _
  unfold wake
  cases Text.present? mac with
  | none => exact debug _
  | some mac =>
      dsimp only
      cases packet? mac with
      | none => exact debug _
      | some packet =>
          refine (broadcast_agreeing target packet).bind fun failure => ?_
          cases failure with
          | some message => exact debug _
          | none => exact debug _

end DeviceLogin
