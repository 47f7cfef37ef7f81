import DeviceLogin.Cookie.Jar
import DeviceLogin.Http.Client
import DeviceLogin.Json.Writer

set_option autoImplicit false

namespace DeviceLogin

def keyHeader : String := "X-Auth-PSK"

abbrev Reauthorize := String → Act (Scene Credentials) Bool

structure Channel where
  url : String
  logger : Logger := {}
  timeout : Option Number := none
  reauthorize : Option Reauthorize := none
  credentials : Credentials := {}

structure Message where
  method : String
  body : Json

namespace Credentials

def key? (credentials : Credentials) : Option String := credentials.headers.get? keyHeader

def withHeader (credentials : Credentials) (name value : String) : Credentials :=
  { credentials with headers := credentials.headers.put name value }

def withoutHeader (credentials : Credentials) (name : String) : Credentials :=
  { credentials with headers := credentials.headers.erase name }

def withJar (credentials : Credentials) (jar : Nat) : Credentials := { credentials with jar := some jar }

def withoutJar (credentials : Credentials) : Credentials := { credentials with jar := none }

end Credentials

namespace Channel

def change (f : Credentials → Credentials) (channel : Channel) : Channel :=
  { channel with credentials := f channel.credentials }

def headersFor (channel : Channel) (extra : Ordered String) (cookies : Option String) : Ordered String :=
  let base : Ordered String :=
    [("Content-Type", "application/json; charset=UTF-8"), ("Accept", "application/json")]
  let headers := (base.putAll channel.credentials.headers).putAll extra
  match cookies with
  | some cookies => headers.put "Cookie" cookies
  | none => headers

def cookies? (channel : Channel) (world : World) : Option String :=
  channel.credentials.jar.bind fun number => (world.jar number).header?

def order (channel : Channel) (message : Message) (extra : Ordered String) (world : World) : Http.Order :=
  { method := "POST"
    headers := channel.headersFor extra (channel.cookies? world)
    body := some (Json.write message.body)
    timeout := channel.timeout }

def keep (channel : Channel) (response : Http.Response) : StateM World Unit :=
  match channel.credentials.jar with
  | some number => World.storeCookies number (World.settingsIn response.headers)
  | none => pure ()

def unavailable (message : String) : Http.Response := { status := 503, body := message }

def post (channel : Channel) (message : Message) (extra : Ordered String) : StateM World Http.Response := do
  let order := channel.order message extra (← get)
  match ← (World.request channel.url order).run with
  | .ok response =>
      channel.keep response
      return response
  | .error failure =>
      channel.logger.debug (message.method ++ " failed: " ++ failure.message) { service := some channel.url }
      return unavailable failure.message

def isDenied (status : Number) : Bool := status == 401 || status == 403

def send (message : Message) (extra : Ordered String := []) : Act (Scene Channel) Http.Response := do
  let channel := (← get).focus
  let response ← Act.always (Scene.inWorld (channel.post message extra))
  match channel.credentials.autoAuth && isDenied response.status, channel.reauthorize with
  | true, some reauthorize =>
      let note := message.method ++ " answered " ++ response.status.text ++ " - re-authorizing"
      Act.always (Scene.inWorld (channel.logger.debug note { service := some channel.url }))
      let again ← Scene.zoom (·.credentials) (fun credentials channel => { channel with credentials := credentials })
        (reauthorize channel.url)
      if again then
        let channel := (← get).focus
        Act.always (Scene.inWorld (channel.post message extra))
      else return response
  | _, _ => return response

end Channel

end DeviceLogin
