import DeviceLogin.CommandMap.Basic
import DeviceLogin.Incident
import DeviceLogin.Settings
import DeviceLogin.Site

set_option autoImplicit false

namespace DeviceLogin.CommandMap

def keysMethod : String := "getRemoteControllerInfo"

def logger (parent : Logger) : Logger := parent.child (.about "Catalog")

def command? (key : Json) : Option RemoteCommand := do
  let name ← (key.member? "name").bind Json.text?
  let value ← (key.member? "value").bind Json.text?
  return ⟨name, value⟩

def ofReply? (reply : Reply) : Option (List RemoteCommand) :=
  match Shape.accept? Shape.remoteKeys (reply.results.bind (·[1]?)) with
  | some (.arr keys) => some (keys.filterMap command?)
  | _ => none

def deviceCommands (refusals : Service.Refusals) (log : Logger) : Act (Scene Site) (List RemoteCommand) := do
  let say (message : String) : Act (Scene Site) Unit := Act.always (Scene.inWorld (log.debug message))
  if !(← Site.offers keysMethod) then
    say ("No " ++ keysMethod ++ " method found")
    return []
  Act.always <|
    Act.recover
      (do
        let reply ← Site.onService (Service.ask refusals keysMethod)
        if reply.isError then
          say (keysMethod ++ " failed: " ++ reply.describe)
          return []
        match ofReply? reply with
        | some commands => return commands
        | none =>
            say ("Unexpected " ++ keysMethod ++ " payload")
            return [])
      fun failure => do
        Scene.inWorld (log.debug ("Remote commands are undefined: " ++ failure.message))
        return []

-- The reader of the documents is taken to answer here. Where it never does, nothing would follow the fetch.
def addFetched (settings : Settings) (parent : Logger) (map : CommandMap) : StateM (Scene Site) CommandMap := do
  match settings.irccUrl? with
  | none => return map
  | some url =>
      match ← (Site.fetch parent url).run with
      | .ok commands =>
          let (map, count) := map.addAll commands
          Scene.inWorld ((logger parent).debug
            ("Added " ++ String.ofList (Nat.toDigits 10 count) ++ " IRCC commands"))
          return map
      | .error failure =>
          Scene.inWorld ((logger parent).debug
            ("Could not read IRCC commands from " ++ url ++ ": " ++ failure.message))
          return map

def save (scope : String) (log : Logger) (path : String) (map : CommandMap) : StateM World (Option String) := do
  match ← (World.writeFile path map.fileText .createOnly).run with
  | .ok _ =>
      log.info ("Wrote " ++ String.ofList (Nat.toDigits 10 map.size) ++ " remote commands to " ++ path)
      return some path
  | .error failure =>
      let about : Incident.About :=
        { category := some .persistence, severity := some .warning, operation := some "writeCommands" }
      let _ ← Incident.report scope failure.message about
      return none

def write (scope : String) (settings : Settings) (refusals : Service.Refusals) (parent : Logger) :
    Act (Scene Site) (Option String) := do
  let log := logger parent
  let say (message : String) : Act (Scene Site) Unit := Act.always (Scene.inWorld (log.debug message))
  match settings.mapFolder?, settings.mapFile? with
  | none, _ =>
      say "No transform folder - skipping writing a map file"
      return none
  | some _, none =>
      say "No command map defined - ignoring"
      return none
  | some folder, some file =>
      let path := Files.join folder file
      if ← Scene.onWorld (World.fileExists path) then
        Act.always (Scene.inWorld (log.info ("Command map already defined - ignoring: " ++ path)))
        return none
      let (known, _) := ({} : CommandMap).addAll (← deviceCommands refusals log)
      let map ← Act.always (addFetched settings parent known)
      if map.size = 0 then
        say "No remote commands found - nothing to write"
        return none
      Act.always (Scene.inWorld (save scope log path map))

end DeviceLogin.CommandMap
