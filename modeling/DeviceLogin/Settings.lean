import DeviceLogin.Shape.Messages
import DeviceLogin.Text.Caseless

set_option autoImplicit false

namespace DeviceLogin

inductive Setting where
  | absent
  | null
  | text (value : String)
deriving DecidableEq, Inhabited

namespace Setting

def value? : Setting → Option String
  | .text value => some value
  | _ => none

def present? (setting : Setting) : Option String := Text.present? setting.value?

def toJson? : Setting → Option Json
  | .absent => none
  | .null => some .null
  | .text value => some (.str value)

end Setting

structure Settings where
  deviceAddress : Setting
  deviceMacAddress : Setting := .absent
  discoveredMacAddress : Setting := .absent
  accessCode : Setting := .absent
  irccUrl : Setting := .absent
  commandsMapFile : Setting := .absent
  transformFolder : Setting := .absent
  cookieFilePath : Setting := .absent
  clientId : Setting := .absent

namespace Settings

def requestCode : String := "RQST"

def nickname : String := "scalarweb-session"

def defaultClientId : String := nickname ++ ":5a8e2d41-0c6f-4b7a-9d3e-7f1b2c4e6a90"

def address (settings : Settings) : String := settings.deviceAddress.value?.getD ""

def deviceUrl? (settings : Settings) : Option Url := settings.deviceAddress.present?.bind Url.read?

def hostName? (settings : Settings) : Option String := settings.deviceUrl?.map (·.hostName)

def serviceUrl (settings : Settings) (service : String) : String :=
  String.ofList ((settings.address.toList.reverse.dropWhile (· == '/')).reverse ++ '/' :: service.toList)

def macAddress? (settings : Settings) : Option String :=
  settings.deviceMacAddress.present? <|> settings.discoveredMacAddress.present?

def canWake (settings : Settings) : Bool := settings.macAddress?.isSome

def code? (settings : Settings) : Option String := settings.accessCode.value?

def isRequest (code : String) : Bool := Text.sameCaseless code requestCode

def requestsPin (settings : Settings) : Bool :=
  match settings.code? with
  | some code => isRequest code
  | none => false

def irccUrl? (settings : Settings) : Option String := settings.irccUrl.present?

def mapFile? (settings : Settings) : Option String := settings.commandsMapFile.present?

def mapFolder? (settings : Settings) : Option String := settings.transformFolder.present?

def cookieFile? (settings : Settings) : Option String := settings.cookieFilePath.present?

def client (settings : Settings) : String := settings.clientId.present?.getD defaultClientId

def toJson (settings : Settings) : Json :=
  let members : List (String × Setting) :=
    [("deviceAddress", settings.deviceAddress), ("deviceMacAddress", settings.deviceMacAddress),
      ("discoveredMacAddress", settings.discoveredMacAddress), ("accessCode", settings.accessCode),
      ("irccUrl", settings.irccUrl), ("commandsMapFile", settings.commandsMapFile),
      ("transformFolder", settings.transformFolder), ("cookieFilePath", settings.cookieFilePath),
      ("clientId", settings.clientId)]
  .obj (members.filterMap fun member => member.2.toJson?.map fun value => (member.1, value))

def settingIn (value : Json) (name : String) : Setting :=
  match value.member? name with
  | none => .absent
  | some (.str text) => .text text
  | some _ => .null

def ofJson (value : Json) : Settings :=
  { deviceAddress := settingIn value "deviceAddress"
    deviceMacAddress := settingIn value "deviceMacAddress"
    discoveredMacAddress := settingIn value "discoveredMacAddress"
    accessCode := settingIn value "accessCode"
    irccUrl := settingIn value "irccUrl"
    commandsMapFile := settingIn value "commandsMapFile"
    transformFolder := settingIn value "transformFolder"
    cookieFilePath := settingIn value "cookieFilePath"
    clientId := settingIn value "clientId" }

def errors (settings : Settings) : List String :=
  match Shape.check Shape.settings (some settings.toJson) with
  | .ok _ => []
  | .error issues => [Shape.report issues]

def warnings (settings : Settings) : List String :=
  (if settings.accessCode.present?.isNone then
      ["No access code configured. Use \"" ++ requestCode ++ "\" to request a PIN from the device."]
    else []) ++
  (if settings.mapFile?.isSome && settings.mapFolder?.isNone then
      ["A command map file is configured without a transform folder; it will not be written."]
    else []) ++
  (if settings.canWake then [] else ["No MAC address known; wake-on-LAN is disabled."])

end Settings

end DeviceLogin
