import DeviceLogin.Log.Logger
import DeviceLogin.Text.Blank
import DeviceLogin.Text.Hex

set_option autoImplicit false

namespace DeviceLogin.WakeOnLan

def isGrouping (c : Char) : Bool := c == ':' || c == '-' || c == '.' || Text.isSpace c

def macDigits? (mac : String) : Option (List Char) :=
  let digits := mac.toList.filter (!isGrouping ·)
  if digits.length = 12 && digits.all Text.isHexDigit then some digits else none

def packet? (mac : String) : Option (List UInt8) :=
  (macDigits? mac).map fun digits =>
    List.replicate 6 0xFF ++ (List.replicate 16 (Text.bytesOfHex digits)).flatten

structure Target where
  address : String := "255.255.255.255"
  port : Number := 9

def broadcast (target : Target) (packet : List UInt8) : StateM World (Option String) := do
  let world ← get
  let plan := world.sockets world.socketsOpened
  set { world with socketsOpened := world.socketsOpened + 1 }
  match plan.bindError with
  | some message =>
      World.record (.broadcast ⟨none, target.port, target.address⟩)
      return some message
  | none =>
      World.record (.broadcast ⟨some packet, target.port, target.address⟩)
      return plan.sendError

def wake (parent : Logger) (target : Target) (ip mac : Option String) : StateM World Unit := do
  let logger := parent.child (.about "Wake")
  match Text.present? mac with
  | none => logger.debug "No MAC address - skipping wake-on-LAN"
  | some mac =>
      match packet? mac with
      | none => logger.debug ("Invalid MAC address for wake-on-LAN: " ++ mac)
      | some packet =>
          match ← broadcast target packet with
          | some message => logger.debug ("Wake-on-LAN failed: " ++ message)
          | none =>
              let host := (ip.filter (!·.isEmpty)).map fun ip => " (" ++ ip ++ ")"
              logger.debug ("Sent wake-on-LAN to " ++ mac ++ host.getD "")

end DeviceLogin.WakeOnLan
