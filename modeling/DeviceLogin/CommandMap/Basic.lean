import DeviceLogin.Ordered
import DeviceLogin.Text.Caseless
import DeviceLogin.Text.Form

set_option autoImplicit false

namespace DeviceLogin

structure RemoteCommand where
  name : String
  value : String
deriving DecidableEq

structure CommandMap where
  commands : Ordered String := []
deriving DecidableEq

namespace CommandMap

def add (map : CommandMap) (command : RemoteCommand) : CommandMap × Bool :=
  if map.commands.has command.name then (map, false)
  else (⟨map.commands.put command.name command.value⟩, true)

def addAll (map : CommandMap) : List RemoteCommand → CommandMap × Nat
  | [] => (map, 0)
  | command :: rest =>
      let (map, added) := map.add command
      let (map, count) := map.addAll rest
      (map, if added then count + 1 else count)

def size (map : CommandMap) : Nat := map.commands.length

def entries (map : CommandMap) : List RemoteCommand :=
  (map.commands.map fun entry => (⟨entry.1, entry.2⟩ : RemoteCommand)).mergeSort fun a b =>
    Text.compareCaseless a.name b.name != .gt

def line (command : RemoteCommand) : String := command.name ++ "=" ++ Text.Form.encode command.value

def lines (map : CommandMap) : List String := map.entries.map line

def fileText (map : CommandMap) : String := String.join (map.lines.map fun line => line ++ "\n")

end CommandMap

end DeviceLogin
