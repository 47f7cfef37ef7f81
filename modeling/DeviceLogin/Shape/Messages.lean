import DeviceLogin.Shape.Basic

set_option autoImplicit false

namespace DeviceLogin.Shape

def plain : Shape := .text []

def maybeText : Shape := .optional plain

def maybeTexts (names : List String) : List (String × Shape) := names.map fun name => (name, maybeText)

def envelope : Shape :=
  .object
    [("id", .optional .number), ("result", .optional (.list .anything)), ("results", .optional (.list .anything)),
      ("error", .optional (.list (.oneOf [.number, plain])))]
    true

def methodEntry : Shape := .tuple [plain, .anything, .anything, plain]

def systemInformation : Shape :=
  .object
    (maybeTexts ["product", "name", "model", "generation", "serial", "macAddr", "area", "region", "language"]) true

def interfaceInformation : Shape :=
  .object (maybeTexts ["interfaceVersion", "productCategory", "productName", "modelName", "serverName"]) true

def networkSetting : Shape :=
  .object (maybeTexts ["netif", "hwAddr", "ipAddrV4", "ipAddrV6", "netmask", "gateway"]) true

def remoteKey : Shape :=
  .object [("name", .optional (.nullable plain)), ("value", .optional (.nullable plain))] true

def remoteKeys : Shape := .list remoteKey

def listedCommand : Shape := .object [("name", plain), ("type", maybeText), ("value", plain)] false

def listedCommands : Shape := .oneOf [listedCommand, .list listedCommand]

def listedAction : Shape := .object [("name", plain), ("url", maybeText)] true

def listedActions : Shape := .oneOf [listedAction, .list listedAction]

def cookies : Shape := .record plain

def settings : Shape :=
  .object
    [("deviceAddress", .text [.address]), ("deviceMacAddress", .optional (.text [.macAddress])),
      ("discoveredMacAddress", maybeText), ("accessCode", maybeText), ("irccUrl", .optional (.text [.address])),
      ("commandsMapFile", .optional (.text [.nonEmpty])), ("transformFolder", .optional (.text [.nonEmpty])),
      ("cookieFilePath", .optional (.text [.nonEmpty])), ("clientId", .optional (.text [.nonEmpty]))]
    false

end DeviceLogin.Shape
