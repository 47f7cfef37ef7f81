import DeviceLogin.Proofs.CommandMap.Untouched
import DeviceLogin.Proofs.Files

set_option autoImplicit false

namespace DeviceLogin

open Act

theorem World.write_file_of_files (path text : String) (mode : WriteMode) (world other : World)
    (same : world.files = other.files) :
    ((writeFile path text mode).perform world).1 = ((writeFile path text mode).perform other).1 ∧
      ((writeFile path text mode).perform world).2.files = ((writeFile path text mode).perform other).2.files := by
  have fault : world.fault? .write path = other.fault? .write path := by rw [fault?, fault?, same]
  have barred : world.barred? path mode = other.barred? path mode := by rw [barred?, barred?, fault, same]
  have accessed : world.accessed.files = other.accessed.files := by simp only [World.accessed, same]
  have written (text : String) :
      (world.accessed.withFile path text mode).files = (other.accessed.withFile path text mode).files := by
    simp only [withFile, accessed]
  rw [write_file_perform, write_file_perform, fault, barred]
  cases other.barred? path mode with
  | some message => exact ⟨rfl, accessed⟩
  | none =>
      cases other.fault? .write path with
      | none => exact ⟨rfl, written text⟩
      | some fault => exact ⟨rfl, written _⟩

namespace CommandMap

def textOf (listed : List RemoteCommand) : String :=
  String.join (listed.map fun command => command.name ++ "=" ++ Text.Form.encode command.value ++ "\n")

theorem file_text_of_entries (map : CommandMap) : map.fileText = textOf map.entries := by
  simp only [fileText, lines, textOf, line, List.map_map, Function.comp_def]

theorem save_outcome (scope : String) (log : Logger) (path : String) (map : CommandMap) (world : World) :
    let attempt := (World.writeFile path map.fileText .createOnly).perform world
    let saved := (save scope log path map).run world
    saved.1 = (if attempt.1.isOk then some path else none) ∧ saved.2.files = attempt.2.files := by
  simp only [save_run]
  rcases (World.writeFile path map.fileText .createOnly).perform world with ⟨result, after⟩
  cases result <;> exact ⟨rfl, rfl⟩

section

variable (settings : Settings) (refusals : Service.Refusals) (parent : Logger) (scene : Scene Site)
variable (scope : String) {path : String}

theorem write_attempts (place : place? settings = some path) (answered : scene.world.fault? .probe path = none)
    (absent : scene.world.files.occupied path = false) :
    let reached := (gathered settings refusals parent (checked scene)).world
    let commands := given settings refusals parent (checked scene)
    let attempt := (World.writeFile path (ofCommands commands).fileText .createOnly).perform reached
    let ended := (write scope settings refusals parent).perform scene
    (commands = [] → ended.1 = .ok none ∧ ended.2.world.files = reached.files) ∧
      (commands ≠ [] → ended.1 = .ok (if attempt.1.isOk then some path else none) ∧
        ended.2.world.files = attempt.2.files) := by
  intro reached commands attempt ended
  have course := write_absent settings refusals parent scene id scope place answered absent
  rw [write_amid_nobody] at course
  change ended = if commands = [] then _ else _ at course
  constructor
  · intro nothing
    rw [course, if_pos nothing]
    exact ⟨rfl, rfl⟩
  · intro something
    rw [course, if_neg something]
    obtain ⟨result, files⟩ := save_outcome scope (logger parent) path (ofCommands commands) reached
    exact ⟨congrArg Except.ok result, files⟩

theorem write_unread (place : place? settings = some path) (answered : scene.world.fault? .probe path = none)
    (absent : scene.world.files.occupied path = false) {url : String} (named : settings.irccUrl? = some url)
    {failure : Failure} {after : Scene Site}
    (failed : (Site.fetch parent url).perform (asked refusals parent (checked scene)) = (.error failure, after)) :
    let ended := (write scope settings refusals parent).perform scene
    let without := (write scope { settings with irccUrl := .absent } refusals parent).perform scene
    ended.1 = without.1 ∧ ended.2.world.files = without.2.world.files := by
  intro ended without
  let sourceless : Settings := { settings with irccUrl := .absent }
  obtain ⟨nothing, something⟩ := write_attempts settings refusals parent scene scope place answered absent
  obtain ⟨nothing_else, something_else⟩ := write_attempts sourceless refusals parent scene scope place answered absent
  have commands : given settings refusals parent (checked scene) = given sourceless refusals parent (checked scene) := by
    have unread : otherKeys settings parent (asked refusals parent (checked scene)) = [] := by
      simp only [otherKeys, named, failed]
    rw [given, given, unread]
    rfl
  have files : (gathered settings refusals parent (checked scene)).world.files =
      (gathered sourceless refusals parent (checked scene)).world.files :=
    ((add_fetched_untouched settings parent _ (asked refusals parent (checked scene))).wholly rfl).1
  rw [commands] at nothing something
  by_cases empty : given sourceless refusals parent (checked scene) = []
  · have here := nothing empty
    have there := nothing_else empty
    exact ⟨here.1.trans there.1.symm, here.2.trans (files.trans there.2.symm)⟩
  · have here := something empty
    have there := something_else empty
    obtain ⟨result, left⟩ := World.write_file_of_files path
      (ofCommands (given sourceless refusals parent (checked scene))).fileText .createOnly _ _ files
    rw [result] at here
    exact ⟨here.1.trans there.1.symm, here.2.trans (left.trans there.2.symm)⟩

end

theorem listed_of_given {commands listed : List RemoteCommand} (listing : Listing commands listed) (name : String)
    (command : RemoteCommand) (given : commands.find? (·.name == name) = some command) (other : RemoteCommand) :
    other ∈ listed ∧ other.name = name ↔ other = command := by
  rw [listing.firsts.mem_iff, mem_firsts_iff]
  constructor
  · rintro ⟨first, rfl⟩
    exact Option.some.inj (first.symm.trans given)
  · rintro rfl
    have same : other.name = name := by simpa using List.find?_some given
    exact ⟨same ▸ given, same⟩

-- Where the settings name a map file that is not there, it is written if the device or the other source gives any
-- command, and not otherwise. The text has one line for each name: the name, a sign of equality and the form-encoded
-- first value, those of the device standing first. The lines are in the order of the lower-cased names, and names that
-- differ in case only stand as they were given; there is just one such list. A source that cannot be read is as good as
-- none.
theorem write_content (scope : String) (settings : Settings) (refusals : Service.Refusals) (parent : Logger)
    (scene : Scene Site) (path : String) (place : place? settings = some path)
    (answered : scene.world.fault? .probe path = none) (absent : scene.world.files.occupied path = false) :
    let reached := (gathered settings refusals parent (checked scene)).world
    let ours := deviceKeys refusals (checked scene)
    let theirs := otherKeys settings parent (asked refusals parent (checked scene))
    let ended := (write scope settings refusals parent).perform scene
    (ours ++ theirs = [] → ended.1 = .ok none ∧ ended.2.world.files = reached.files) ∧
    (∃ listed, (∀ other, Listing (ours ++ theirs) other ↔ other = listed) ∧
      (ours ++ theirs ≠ [] →
        let attempt := (World.writeFile path (textOf listed) .createOnly).perform reached
        ended.1 = .ok (if attempt.1.isOk then some path else none) ∧ ended.2.world.files = attempt.2.files) ∧
      ∀ name command, ours.find? (·.name == name) = some command →
        ∀ other, other ∈ listed ∧ other.name = name ↔ other = command) ∧
    ∀ url failure after, settings.irccUrl? = some url →
      (Site.fetch parent url).perform (asked refusals parent (checked scene)) = (.error failure, after) →
      let without := (write scope { settings with irccUrl := .absent } refusals parent).perform scene
      ended.1 = without.1 ∧ ended.2.world.files = without.2.world.files := by
  intro reached ours theirs ended
  obtain ⟨nothing, something⟩ := write_attempts settings refusals parent scene scope place answered absent
  have listing := listing_entries (ours ++ theirs)
  refine ⟨nothing, ⟨(ofCommands (ours ++ theirs)).entries, fun other => ?_, ?_, ?_⟩, ?_⟩
  · exact ⟨fun also => listing_unique also listing, fun same => same ▸ listing⟩
  · rw [← file_text_of_entries]
    exact something
  · intro name command given
    exact listed_of_given listing name command (by rw [List.find?_append, given, Option.some_or])
  · intro url failure after named failed
    exact write_unread settings refusals parent scene scope place answered absent named failed

theorem write_content_both_sources :
    let settings : Settings :=
      { deviceAddress := .absent, irccUrl := .text "http://tv/ircc", commandsMapFile := .text "tv.map",
        transformFolder := .text "maps" }
    let body : String :=
      "\x7b\"result\":[0,[\x7b\"name\":\"up\",\"value\":\"1\"\x7d,\x7b\"name\":\"Up\",\"value\":\"a b\"\x7d,\x7b\"name\":\"Left\"\x7d]]\x7d"
    let system : Service :=
      { name := "system", channel := { url := "http://tv/sony/system" }, methods := some [(keysMethod, ["1.0"])] }
    let scene : Scene Site :=
      ⟨⟨system, .supplied fun _ => .ok [⟨"UP", "u"⟩, ⟨"Down", "d"⟩, ⟨"Up", "x"⟩]⟩,
        { device := fun _ _ =>
            .answered
              { status := some 200, headers := [], chunks := [.text body],
                streamError := none, truncated := false }
          files := { folders := [".", "/", "maps"] } }⟩
    let ended := (write "map" settings (fun _ _ _ _ => none) {}).perform scene
    place? settings = some "maps/tv.map" ∧ scene.world.fault? .probe "maps/tv.map" = none ∧
      scene.world.files.occupied "maps/tv.map" = false ∧ ended.1 = .ok (some "maps/tv.map") ∧
      ended.2.world.files.contents = [("maps/tv.map", "Down=d\nup=1\nUp=a+b\nUP=u\n")] := by
  intro settings body system scene ended
  have place : place? settings = some "maps/tv.map" := by decide +kernel
  have absent : scene.world.files.occupied "maps/tv.map" = false := by decide +kernel
  obtain ⟨-, ⟨listed, unique, written, -⟩, -⟩ :=
    write_content "map" settings (fun _ _ _ _ => none) {} scene "maps/tv.map" place rfl absent
  let commands : List RemoteCommand :=
    [⟨"up", "1"⟩, ⟨"Up", "a b"⟩, ⟨"UP", "u"⟩, ⟨"Down", "d"⟩, ⟨"Up", "x"⟩]
  have given : deviceKeys (fun _ _ _ _ => none) (checked scene) ++
      otherKeys settings {} (asked (fun _ _ _ _ => none) {} (checked scene)) = commands := by
    decide +kernel +zetaReduce
  have listing : Listing commands [⟨"Down", "d"⟩, ⟨"up", "1"⟩, ⟨"Up", "a b"⟩, ⟨"UP", "u"⟩] := by
    have first : firsts commands = [⟨"up", "1"⟩, ⟨"Up", "a b"⟩, ⟨"UP", "u"⟩, ⟨"Down", "d"⟩] := by decide +kernel
    refine ⟨?_, by decide +kernel, fun place => ?_⟩
    · rw [first]
      decide +kernel
    · -- There are two ranks, and only the commands of one of them could change places.
      have level : rank ⟨"Up", "a b"⟩ = rank ⟨"up", "1"⟩ ∧ rank ⟨"UP", "u"⟩ = rank ⟨"up", "1"⟩ := by decide +kernel
      rw [first]
      by_cases up : rank ⟨"up", "1"⟩ = place
      · subst up
        decide +kernel
      · simp [List.filter_cons, level, up]
  rw [given] at unique written
  obtain rfl := (unique _).mp listing
  obtain ⟨result, files⟩ := written (by decide)
  -- The readings have left the files as they were.
  have storing : system.channel.Storing none (checked scene).world := by
    refine ⟨fun _ _ asks => ?_, fun _ held => ?_⟩
    · exact nomatch asks.2.2
    · exact nomatch held
  have untouched := gathered_untouched settings (fun _ _ _ _ => none) {} (checked scene) storing
  obtain ⟨same_end, same_files⟩ := World.write_file_of_files "maps/tv.map"
    (textOf [⟨"Down", "d"⟩, ⟨"up", "1"⟩, ⟨"Up", "a b"⟩, ⟨"UP", "u"⟩]) .createOnly _ _ (untouched.wholly rfl).1
  refine ⟨place, rfl, absent, result.trans (congrArg Except.ok ?_), ?_⟩
  · rw [same_end]
    decide +kernel +zetaReduce
  · rw [files, same_files]
    decide +kernel +zetaReduce

end CommandMap

end DeviceLogin
