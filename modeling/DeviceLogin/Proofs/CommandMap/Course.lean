import DeviceLogin.Proofs.CommandMap.Keys
import DeviceLogin.Proofs.CommandMap.Listing
import DeviceLogin.Proofs.Cookie.Upkeep
import DeviceLogin.Proofs.Sending

set_option autoImplicit false

namespace DeviceLogin

open Act

def Files.occupied (files : Files) (path : String) : Bool := files.isFile path || files.isFolder path

def World.changedBy (others : Files → Files) (world : World) : World := { world with files := others world.files }

def World.after (step : StateM World Unit) (world : World) : World := (step.run world).2

namespace CommandMap

def place? (settings : Settings) : Option String :=
  match settings.mapFolder?, settings.mapFile? with
  | some folder, some file => some (Files.join folder file)
  | _, _ => none

def answer? (refusals : Service.Refusals) (scene : Scene Site) : Option (Except Failure Reply) :=
  if scene.focus.service.offers keysMethod then
    some ((Site.onService (Service.ask refusals keysMethod)).perform scene).1
  else none

def deviceKeys (refusals : Service.Refusals) (scene : Scene Site) : List RemoteCommand :=
  match answer? refusals scene with
  | some (.ok reply) => if reply.isError then [] else keysIn (reply.results.bind (·[1]?))
  | _ => []

def otherKeys (settings : Settings) (parent : Logger) (scene : Scene Site) : List RemoteCommand :=
  match settings.irccUrl? with
  | none => []
  | some url =>
      match ((Site.fetch parent url).perform scene).1 with
      | .ok commands => commands
      | .error _ => []

def asked (refusals : Service.Refusals) (parent : Logger) (scene : Scene Site) : Scene Site :=
  ((deviceCommands refusals (logger parent)).perform scene).2

def gathered (settings : Settings) (refusals : Service.Refusals) (parent : Logger) (scene : Scene Site) : Scene Site :=
  ((addFetched settings parent (ofCommands (deviceKeys refusals scene))).run (asked refusals parent scene)).2

def given (settings : Settings) (refusals : Service.Refusals) (parent : Logger) (scene : Scene Site) : List RemoteCommand :=
  deviceKeys refusals scene ++ otherKeys settings parent (asked refusals parent scene)

def checked (scene : Scene Site) : Scene Site := ⟨scene.focus, scene.world.accessed⟩

def writeAmid (others : Files → Files) (scope : String) (settings : Settings) (refusals : Service.Refusals)
    (parent : Logger) : Act (Scene Site) (Option String) := do
  let log := logger parent
  let say (message : String) : Act (Scene Site) Unit := Act.always (Scene.inWorld (log.debug message))
  match settings.mapFolder?, settings.mapFile? with
  | none, _ =>
      say "No transform folder - skipping writing a map file"
      return none
  | some _, none =>
      say "No command map defined - ignoring"
      return none
  | some folder, some file =>
      let path := Files.join folder file
      if ← Scene.onWorld (World.fileExists path) then
        Act.always (Scene.inWorld (log.info ("Command map already defined - ignoring: " ++ path)))
        return none
      let (known, _) := ({} : CommandMap).addAll (← deviceCommands refusals log)
      let map ← Act.always (addFetched settings parent known)
      modify fun scene => { scene with world := scene.world.changedBy others }
      if map.size = 0 then
        say "No remote commands found - nothing to write"
        return none
      Act.always (Scene.inWorld (save scope log path map))

section

variable (settings : Settings) (refusals : Service.Refusals) (parent : Logger) (scene : Scene Site)

theorem device_commands_perform :
    (deviceCommands refusals (logger parent)).perform scene = (.ok (deviceKeys refusals scene), asked refusals parent scene) := by
  have resolved : ((deviceCommands refusals (logger parent)).perform scene).1 = .ok (deviceKeys refusals scene) := by
    simp only [deviceCommands, perform_bind, Site.offers, perform_get, perform_pure, deviceKeys, answer?]
    cases scene.focus.service.offers keysMethod with
    | false => rfl
    | true =>
        simp only [Bool.not_true, Bool.false_eq_true, if_false, if_true, perform_bind, perform_always, run_recover]
        rcases (Site.onService (Service.ask refusals keysMethod)).perform scene with ⟨answer, after⟩
        cases answer with
        | error failure => rfl
        | ok reply =>
            dsimp only
            cases wrong : reply.isError with
            | true => rfl
            | false =>
                have keys := of_reply_keys reply
                simp only [Bool.false_eq_true, if_false]
                rw [← keys]
                cases ofReply? reply <;> rfl
  exact Prod.ext resolved rfl

theorem add_fetched_run (map : CommandMap) :
    ((addFetched settings parent map).run scene).1 = (map.addAll (otherKeys settings parent scene)).1 := by
  unfold addFetched otherKeys
  cases settings.irccUrl? with
  | none => rfl
  | some url =>
      have ran : (Site.fetch parent url).run.run scene = (Site.fetch parent url).perform scene := rfl
      simp only [StateT.run_bind, ran]
      rcases (Site.fetch parent url).perform scene with ⟨result, after⟩
      cases result <;> rfl

def failureLine (scope message : String) : String :=
  let about : Incident.About :=
    { category := some .persistence, severity := some .warning, operation := some "writeCommands" }
  (Incident.of message about).line scope about

theorem save_run (scope : String) (log : Logger) (path : String) (map : CommandMap) (world : World) :
    (save scope log path map).run world =
      match (World.writeFile path map.fileText .createOnly).perform world with
      | (.ok _, after) =>
          (some path, after.after (log.info ("Wrote " ++ String.ofList (Nat.toDigits 10 map.size) ++ " remote commands to " ++ path)))
      | (.error failure, after) =>
          (none, after.after (World.record (.logged .warn (failureLine scope failure.message)))) := by
  have ran : (World.writeFile path map.fileText .createOnly).run.run world =
      (World.writeFile path map.fileText .createOnly).perform world := rfl
  simp only [save, StateT.run_bind, ran]
  rcases (World.writeFile path map.fileText .createOnly).perform world with ⟨result, after⟩
  cases result <;> rfl

theorem write_unplaced (others : Files → Files) (scope : String) (nowhere : place? settings = none) :
    ∃ message, (writeAmid others scope settings refusals parent).perform scene =
      (.ok none, ⟨scene.focus, scene.world.after ((logger parent).debug message)⟩) := by
  unfold place? at nowhere
  unfold writeAmid
  cases folder : settings.mapFolder? with
  | none => exact ⟨_, rfl⟩
  | some folder =>
      cases file : settings.mapFile? with
      | none => exact ⟨_, rfl⟩
      | some file => simp [*] at nowhere

variable (others : Files → Files) (scope : String) {path : String}

theorem place_named (place : place? settings = some path) :
    ∃ folder file, settings.mapFolder? = some folder ∧ settings.mapFile? = some file ∧ path = Files.join folder file := by
  unfold place? at place
  split at place
  · next folder file one two => exact ⟨folder, file, one, two, (Option.some.inj place).symm⟩
  · cases place

theorem write_present (place : place? settings = some path) (answered : scene.world.fault? .probe path = none)
    (present : scene.world.files.occupied path = true) :
    (writeAmid others scope settings refusals parent).perform scene =
      (.ok none, ⟨scene.focus,
        scene.world.accessed.after ((logger parent).info ("Command map already defined - ignoring: " ++ path))⟩) := by
  obtain ⟨folder, file, one, two, rfl⟩ := place_named settings place
  have there : (Scene.onWorld (World.fileExists (Files.join folder file))).perform scene =
      (.ok true, ⟨scene.focus, scene.world.accessed⟩) := by
    rw [Scene.onWorld, perform_inside, World.file_exists_perform _ _ answered, ← present]
    rfl
  simp only [writeAmid, one, two, perform_bind, there]
  rfl

theorem write_absent (place : place? settings = some path) (answered : scene.world.fault? .probe path = none)
    (absent : scene.world.files.occupied path = false) :
    let read := gathered settings refusals parent (checked scene)
    let commands := given settings refusals parent (checked scene)
    let met := read.world.changedBy others
    (writeAmid others scope settings refusals parent).perform scene =
      if commands = [] then
        (.ok none, ⟨read.focus, met.after ((logger parent).debug "No remote commands found - nothing to write")⟩)
      else
        let saved := (save scope (logger parent) path (ofCommands commands)).run met
        (.ok saved.1, ⟨read.focus, saved.2⟩) := by
  intro read commands met
  obtain ⟨folder, file, one, two, rfl⟩ := place_named settings place
  have there : (Scene.onWorld (World.fileExists (Files.join folder file))).perform scene = (.ok false, checked scene) := by
    rw [Scene.onWorld, perform_inside, World.file_exists_perform _ _ answered, ← absent]
    rfl
  have fetched := add_fetched_run settings parent (asked refusals parent (checked scene))
    (ofCommands (deviceKeys refusals (checked scene)))
  rw [← of_commands_append] at fetched
  have ran : (addFetched settings parent (ofCommands (deviceKeys refusals (checked scene)))).run
      (asked refusals parent (checked scene)) = (ofCommands commands, read) := Prod.ext fetched rfl
  simp only [writeAmid, one, two, perform_bind, there, Bool.false_eq_true, if_false, device_commands_perform, perform_always]
  rw [← ofCommands, ran]
  simp only [perform_modify, size_of_given]
  split
  · rfl
  · rfl

theorem write_amid_nobody : (writeAmid id scope settings refusals parent).perform scene =
    (write scope settings refusals parent).perform scene := by
  rfl

end

end CommandMap

end DeviceLogin
