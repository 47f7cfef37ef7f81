import DeviceLogin.Files.Access

set_option autoImplicit false

namespace DeviceLogin.World

open Act

def accessed (world : World) : World := { world with files := { world.files with accesses := world.files.accesses + 1 } }

def withFile (world : World) (path content : String) (mode : WriteMode) : World :=
  { world with
    files := { world.files with contents := world.files.contents.put path content }
    trace := world.trace ++ [.wrote path content mode] }

def withoutFile (world : World) (path : String) : World :=
  { world with
    files := { world.files with contents := world.files.contents.erase path }
    trace := world.trace ++ [.removed path] }

def fault? (world : World) (call : FileCall) (path : String) : Option FileFault :=
  world.files.fault world.files.accesses call path

theorem next_fault_perform (call : FileCall) (path : String) (world : World) :
    (Act.always (nextFault? call path)).perform world = (.ok (world.fault? call path), world.accessed) := rfl

theorem access_perform (call : FileCall) (path : String) (world : World) :
    (access call path).perform world =
      match world.fault? call path with
      | some fault => (.error (.error fault.message), world.accessed)
      | none => (.ok (), world.accessed) := by
  rw [access, perform_bind, next_fault_perform]
  cases world.fault? call path <;> rfl

theorem file_exists_faulty {path : String} {fault : FileFault} {world : World}
    (faulty : world.fault? .probe path = some fault) :
    (fileExists path).perform world = (.error (.error fault.message), world.accessed) := by
  rw [fileExists, perform_bind, access_perform, faulty]

theorem file_exists_perform (path : String) (world : World) (working : world.fault? .probe path = none) :
    (fileExists path).perform world = (.ok (world.files.isFile path || world.files.isFolder path), world.accessed) := by
  rw [fileExists, perform_bind, access_perform, working]
  rfl

theorem read_file_faulty {path : String} {fault : FileFault} {world : World}
    (faulty : world.fault? .read path = some fault) :
    (readFile path).perform world = (.error (.error fault.message), world.accessed) := by
  rw [readFile, perform_bind, access_perform, faulty]

theorem read_file_perform (path : String) (world : World) (working : world.fault? .read path = none) :
    (readFile path).perform world =
      if world.files.isFolder path then (.error (.error "EISDIR: illegal operation on a directory, read"), world.accessed)
      else
        match world.files.contents.get? path with
        | some content => (.ok content, world.accessed)
        | none => (.error (.error ("ENOENT: no such file or directory, open '" ++ path ++ "'")), world.accessed) := by
  have folder : world.accessed.files.isFolder path = world.files.isFolder path := rfl
  rw [readFile, perform_bind, access_perform, working]
  simp only [perform_bind, perform_get, folder]
  cases world.files.isFolder path with
  | true => rfl
  | false =>
      have contents : world.accessed.files.contents = world.files.contents := rfl
      simp only [Bool.false_eq_true, if_false, contents]
      cases world.files.contents.get? path <;> rfl

-- Why a write does not get as far as to open its file.
def barred? (world : World) (path : String) (mode : WriteMode) : Option String :=
  (world.fault? .write path).bind FileFault.refusal? <|> writeObstacle? world.files path mode

theorem write_file_perform (path content : String) (mode : WriteMode) (world : World) :
    (writeFile path content mode).perform world =
      match world.barred? path mode, world.fault? .write path with
      | some message, _ => (.error (.error message), world.accessed)
      | none, none => (.ok (), world.accessed.withFile path content mode)
      | none, some fault => (.error (.error fault.message), world.accessed.withFile path (fault.kept content) mode) := by
  have obstacle : writeObstacle? world.accessed.files path mode = writeObstacle? world.files path mode := rfl
  rw [writeFile, perform_bind, next_fault_perform, barred?]
  simp only [perform_bind, perform_get, obstacle]
  cases (world.fault? .write path).bind FileFault.refusal? <|> writeObstacle? world.files path mode with
  | some message => rfl
  | none => cases world.fault? .write path <;> rfl

theorem unbarred {world : World} {path : String} {mode : WriteMode} (opens : world.barred? path mode = none) :
    writeObstacle? world.files path mode = none := by
  rw [barred?] at opens
  cases fault : (world.fault? .write path).bind FileFault.refusal? with
  | some message => simp [fault] at opens
  | none => simpa [fault] using opens

theorem barred_faultless {world : World} {path : String} (mode : WriteMode) (working : world.fault? .write path = none) :
    world.barred? path mode = writeObstacle? world.files path mode := by
  rw [barred?, working]
  rfl

theorem remove_file_perform (path : String) (world : World) :
    (removeFile path).perform world =
      match world.fault? .remove path with
      | some fault => (.error (.error fault.message), world.accessed)
      | none =>
          if world.files.isFolder path then
            (.error (.error ("EPERM: operation not permitted, unlink '" ++ path ++ "'")), world.accessed)
          else if !world.files.isFile path then
            (.error (.error ("ENOENT: no such file or directory, unlink '" ++ path ++ "'")), world.accessed)
          else (.ok (), world.accessed.withoutFile path) := by
  rw [removeFile, perform_bind, access_perform]
  cases world.fault? .remove path with
  | some fault => rfl
  | none =>
      have folder : world.accessed.files.isFolder path = world.files.isFolder path := rfl
      have file : world.accessed.files.isFile path = world.files.isFile path := rfl
      simp only [perform_bind, perform_get, folder, file]
      cases world.files.isFolder path with
      | true => rfl
      | false => cases world.files.isFile path <;> rfl

theorem write_obstacle_replacing (files : Files) (path : String)
    (clear : writeObstacle? files path .replacePrivately = none) : files.isFolder path = false := by
  rw [writeObstacle?] at clear
  cases folder : files.isFolder path with
  | false => rfl
  | true => simp [folder] at clear

end DeviceLogin.World
