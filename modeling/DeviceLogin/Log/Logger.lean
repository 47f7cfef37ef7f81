import DeviceLogin.World.Basic

set_option autoImplicit false

namespace DeviceLogin

structure Logger where
  context : Log.Context := {}
deriving Inhabited

namespace Logger

def child (logger : Logger) (context : Log.Context) : Logger := ⟨logger.context.overlay context⟩

def forDevice (device : Option String) (category : String) : Logger :=
  ⟨{ category := some category, device := device }⟩

def write (logger : Logger) (level : Log.Level) (message : String) (context : Log.Context := {}) :
    StateM World Unit :=
  World.record (.logged level ((logger.context.overlay context).line message))

def debug (logger : Logger) (message : String) (context : Log.Context := {}) : StateM World Unit :=
  logger.write .debug message context

def info (logger : Logger) (message : String) : StateM World Unit := logger.write .info message

def warn (logger : Logger) (message : String) : StateM World Unit := logger.write .warn message

def error (logger : Logger) (message : String) : StateM World Unit := logger.write .error message

end Logger

end DeviceLogin
