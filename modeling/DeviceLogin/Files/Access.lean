import DeviceLogin.Files.Path
import DeviceLogin.Text.Utf8
import DeviceLogin.World.Basic

set_option autoImplicit false

namespace DeviceLogin

namespace Files

def isFolder (files : Files) (path : String) : Bool := files.folders.contains path

def isFile (files : Files) (path : String) : Bool := files.contents.has path

def withFoldersOf (files : Files) (path : String) : Files :=
  { files with folders := files.folders ++ foldersAbove (path.length + 1) path }

def withFile (files : Files) (path content : String) : Files :=
  { files.withFoldersOf path with contents := files.contents.put path content }

def withFolder (files : Files) (path : String) : Files :=
  { files.withFoldersOf path with folders := path :: (files.withFoldersOf path).folders }

end Files

namespace FileFault

def refusal? (fault : FileFault) : Option String := if fault.written.isNone then some fault.message else none

def kept (fault : FileFault) (content : String) : String :=
  Text.ofUtf8 ((Text.utf8 content).take (fault.written.getD 0))

end FileFault

namespace World

def nextFault? (call : FileCall) (path : String) : StateM World (Option FileFault) := do
  let world ← get
  set { world with files := { world.files with accesses := world.files.accesses + 1 } }
  return world.files.fault world.files.accesses call path

def access (call : FileCall) (path : String) : Act World Unit := do
  match ← Act.always (nextFault? call path) with
  | some fault => throw (.error fault.message)
  | none => pure ()

def fileExists (path : String) : Act World Bool := do
  access .probe path
  let files := (← get).files
  return files.isFile path || files.isFolder path

def readFile (path : String) : Act World String := do
  access .read path
  let files := (← get).files
  if files.isFolder path then throw (.error "EISDIR: illegal operation on a directory, read")
  match files.contents.get? path with
  | some content => pure content
  | none => throw (.error ("ENOENT: no such file or directory, open '" ++ path ++ "'"))

def writeObstacle? (files : Files) (path : String) (mode : WriteMode) : Option String :=
  if mode = .createOnly && (files.isFile path || files.isFolder path) then
    some ("EEXIST: file already exists, open '" ++ path ++ "'")
  else if files.isFolder path then some ("EISDIR: illegal operation on a directory, open '" ++ path ++ "'")
  else if !files.isFolder (Files.folderOf path) then
    some ("ENOENT: no such file or directory, open '" ++ path ++ "'")
  else none

def putFile (path content : String) (mode : WriteMode) : StateM World Unit :=
  modify fun world =>
    { world with
      files := { world.files with contents := world.files.contents.put path content }
      trace := world.trace ++ [Event.wrote path content mode] }

-- Opening the file comes first, so a write that breaks off has replaced or created the file all the same.
def writeFile (path content : String) (mode : WriteMode) : Act World Unit := do
  let fault ← Act.always (nextFault? .write path)
  match fault.bind FileFault.refusal? <|> writeObstacle? (← get).files path mode, fault with
  | some message, _ => throw (.error message)
  | none, none => Act.always (putFile path content mode)
  | none, some fault =>
      Act.always (putFile path (fault.kept content) mode)
      throw (.error fault.message)

def removeFile (path : String) : Act World Unit := do
  access .remove path
  let world ← get
  if world.files.isFolder path then
    throw (.error ("EPERM: operation not permitted, unlink '" ++ path ++ "'"))
  if !world.files.isFile path then
    throw (.error ("ENOENT: no such file or directory, unlink '" ++ path ++ "'"))
  set { world with
    files := { world.files with contents := world.files.contents.erase path }
    trace := world.trace ++ [Event.removed path] }

end World

end DeviceLogin
