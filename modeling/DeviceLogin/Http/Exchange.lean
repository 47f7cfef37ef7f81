import DeviceLogin.Number.Decimal
import DeviceLogin.Ordered
import DeviceLogin.Text.Utf8

set_option autoImplicit false

namespace DeviceLogin.Http

structure Request where
  secure : Bool
  host : String
  port : Option String
  path : String
  method : String
  headers : Ordered String
  bodyLength : Option Nat
  body : Option String
  timeout : Number

inductive HeaderValue where
  | one (value : String)
  | many (values : List String)

structure Response where
  status : Number
  body : String
  headers : Ordered HeaderValue := []

inductive Chunk where
  | bytes (bytes : List UInt8)
  | text (text : String)

def Chunk.toBytes : Chunk → List UInt8
  | .bytes given => given
  | .text given => Text.utf8 given

structure Answer where
  status : Option Number
  headers : Ordered HeaderValue
  chunks : List Chunk
  streamError : Option String
  truncated : Bool

inductive Exchange where
  | failed (message : String)
  | timedOut
  | answered (answer : Answer)

inductive StreamEvent where
  | data (chunk : Chunk)
  | failed (message : String)
  | ended
  | closed (complete : Bool)

def Answer.events (answer : Answer) : List StreamEvent :=
  answer.chunks.map .data ++ (answer.streamError.map .failed).toList ++
    (if answer.truncated then [] else [.ended]) ++ [.closed (!answer.truncated)]

inductive Settled where
  | failed (message : String)
  | whole (bytes : List UInt8)
  | cut

def settle (received : List UInt8) : List StreamEvent → Settled
  | [] => .cut
  | .data chunk :: rest => settle (received ++ chunk.toBytes) rest
  | .failed message :: _ => .failed message
  | .ended :: _ => .whole received
  | .closed complete :: rest => if complete then settle received rest else .cut

def statusOr500 : Option Number → Number
  | some status => if status.isZero then 500 else status
  | none => 500

def Exchange.outcome (url : String) (timeout : Number) : Exchange → Except String Response
  | .failed message => .error message
  | .timedOut =>
      .error ("Request to " ++ url ++ " timed out after " ++ timeout.text ++ "ms")
  | .answered answer =>
      match settle [] answer.events with
      | .failed message => .error message
      | .whole bytes => .ok ⟨statusOr500 answer.status, Text.ofUtf8 bytes, answer.headers⟩
      | .cut => .error ("Connection to " ++ url ++ " closed before the response completed")

end DeviceLogin.Http
