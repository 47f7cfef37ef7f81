import DeviceLogin.CommandMap.Basic
import DeviceLogin.Http.Client
import DeviceLogin.Log.Logger
import DeviceLogin.Shape.Messages
import DeviceLogin.Xml.Document

set_option autoImplicit false

namespace DeviceLogin.Ircc

def listAction : String := "getRemoteCommandList"

def actionListElement : String := "X_CERS_ActionList_URL"

def commandListElement : String := "remoteCommandList"

def document (url : String) : Act (Scene Xml.Marks) Json := do
  let response ← Scene.onWorld (World.request url { headers := [("Accept", "text/xml")] })
  if response.status != 200 then
    throw (.error ("GET " ++ url ++ " failed with status " ++ response.status.text))
  let scene ← get
  let (answer, marks) := Xml.read scene.focus response.body
  set { scene with focus := marks }
  match answer with
  | some (.ok tree) => pure tree
  | some (.error (.broken message)) => throw (.error message)
  | some (.error .crowdedText) => throw .crowdedText
  | none => throw .noAnswer

def textMember (value : Json) (name : String) : String := ((value.member? name).bind Json.text?).getD ""

def asList (value : Json) : List Json :=
  match value with
  | .arr items => items
  | item => [item]

def commands? (list : Json) : Option (List RemoteCommand) :=
  (Shape.accept? Shape.listedCommands (list.findValue? "command")).map fun found =>
    (asList found).map fun item => ⟨textMember item "name", textMember item "value"⟩

def isTree : Json → Bool
  | .obj _ | .arr _ => true
  | _ => false

def readCommands (logger : Logger) (list : Json) : StateM World (List RemoteCommand) := do
  if !isTree list then return []
  match commands? list with
  | none =>
      logger.debug "IRCC command list has no readable commands"
      return []
  | some commands =>
      logger.debug ("Read " ++ String.ofList (Nat.toDigits 10 commands.length) ++ " IRCC commands")
      return commands

def actionUrl (document : Json) (listUrl name : String) : Except Failure String :=
  match Shape.accept? Shape.listedActions (document.findValue? "action") with
  | none => .error (.error ("IRCC action list at " ++ listUrl ++ " is not readable"))
  | some found =>
      let url := (((asList found).find? (textMember · "name" == name)).map (textMember · "url")).getD ""
      if url.isEmpty then .error (.error ("IRCC device does not support " ++ name)) else .ok url

def fetch (parent : Logger) (url : String) : Act (Scene Xml.Marks) (List RemoteCommand) := do
  let logger := parent.child (.about "IRCC")
  let description ← document url
  match description.findValue? commandListElement with
  | some list => Act.always (Scene.inWorld (readCommands logger list))
  | none =>
      let listUrl := ((description.findValue? actionListElement).bind Json.elementText?).getD ""
      if listUrl.isEmpty then
        throw (.error ("IRCC device description at " ++ url ++ " has no " ++ actionListElement))
      let actions ← document listUrl
      let commandsUrl ← MonadExcept.ofExcept (actionUrl actions listUrl listAction)
      match (← document commandsUrl).findValue? commandListElement with
      | some list => Act.always (Scene.inWorld (readCommands logger list))
      | none => throw (.error ("No remoteCommandList in response from " ++ commandsUrl))

end DeviceLogin.Ircc
