import DeviceLogin.Act
import DeviceLogin.Http.Sender
import DeviceLogin.Log.Context

set_option autoImplicit false

namespace DeviceLogin

structure Credentials where
  autoAuth : Bool := true
  headers : Ordered String := []
  jar : Option Nat := none

inductive FileCall where
  | probe
  | read
  | write
  | remove
deriving DecidableEq

inductive WriteMode where
  | replacePrivately
  | createOnly
deriving DecidableEq

-- A write that fails once the file is open has written so many bytes of its content.
structure FileFault where
  message : String
  written : Option Nat := none

-- Files and folders, and which access fails: by how many accesses there were before it, its kind and
-- its path.
structure Files where
  contents : Ordered String := []
  folders : List String := [".", "/"]
  accesses : Nat := 0
  fault : Nat → FileCall → String → Option FileFault := fun _ _ _ => none

inductive Alarm where
  | silent
  | report
  | warn (context : Log.Context)

structure CookieJar where
  cookies : Ordered String := []
  file : Option String := none
  alarm : Alarm := .silent

structure SocketPlan where
  bindError : Option String := none
  sendError : Option String := none

structure SocketUse where
  packet : Option (List UInt8)
  port : Number
  address : String

inductive Event where
  | logged (level : Log.Level) (line : String)
  | requested (request : Http.Request)
  | wrote (path content : String) (mode : WriteMode)
  | removed (path : String)
  | broadcast (use : SocketUse)
  | property (key : String) (value : Option String)
  | jarFailed (message : String)
  | reauthorizing (url : String) (credentials : Credentials)
  | probing (url : String) (credentials : Credentials)
  | waking (ip mac : Option String)
  | fetching (url : String)

-- `asked` holds the requests as they were given to the HTTP client, those that it refused among them.
structure World where
  device : List Http.Request → Http.Request → Http.Exchange
  sender : Http.Sender := {}
  asked : List Http.Request := []
  files : Files := {}
  jars : List CookieJar := []
  sockets : Nat → SocketPlan := fun _ => {}
  socketsOpened : Nat := 0
  refusesProperty : String → Option Failure := fun _ => none
  trace : List Event := []

structure Scene (σ : Type) where
  focus : σ
  world : World

namespace World

def record (event : Event) : StateM World Unit :=
  modify fun world => { world with trace := world.trace ++ [event] }

def push (key : String) (value : Option String) : Act World Unit := do
  match (← get).refusesProperty key with
  | some failure => throw failure
  | none => Act.always (record (.property key value))

end World

namespace Scene

variable {σ τ α : Type}

def inWorld (step : StateM World α) : StateM (Scene σ) α :=
  onPart Scene.world (fun world scene => { scene with world := world }) step

def onWorld (act : Act World α) : Act (Scene σ) α :=
  Act.inside Scene.world (fun world scene => { scene with world := world }) act

def zoom (get : σ → τ) (put : τ → σ → σ) (act : Act (Scene τ) α) : Act (Scene σ) α :=
  Act.inside (fun scene => ⟨get scene.focus, scene.world⟩)
    (fun inner scene => ⟨put inner.focus scene.focus, inner.world⟩) act

def change (f : σ → σ) (scene : Scene σ) : Scene σ := { scene with focus := f scene.focus }

end Scene

end DeviceLogin
