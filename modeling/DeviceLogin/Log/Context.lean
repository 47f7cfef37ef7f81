import DeviceLogin.Json.Writer

set_option autoImplicit false

namespace DeviceLogin.Log

inductive Level where
  | debug
  | info
  | warn
  | error
deriving DecidableEq, Repr

structure Context where
  category : Option String := none
  device : Option String := none
  service : Option String := none
  operation : Option String := none
  metadata : Ordered Json := []
deriving Inhabited

namespace Context

def about (category : String) : Context := { category := some category }

def overlay (lower upper : Context) : Context :=
  { category := upper.category <|> lower.category
    device := upper.device <|> lower.device
    service := upper.service <|> lower.service
    operation := upper.operation <|> lower.operation
    metadata := Ordered.inMemberOrder (Ordered.putAll lower.metadata upper.metadata) }

def part (opening : String) (text : Option String) (closing : String) : List String :=
  match text with
  | some text => if text.isEmpty then [] else [opening ++ text ++ closing]
  | none => []

def parts (context : Context) : List String :=
  part "[" context.category "]" ++ part "[" context.device "]" ++ part "[Service:" context.service "]" ++
    part "(" context.operation ")"

def line (context : Context) (message : String) : String :=
  let head := if context.parts.isEmpty then "" else String.intercalate " " context.parts ++ " "
  let tail := if context.metadata.isEmpty then "" else " " ++ Json.write (.obj context.metadata)
  head ++ message ++ tail

end Context

end DeviceLogin.Log
