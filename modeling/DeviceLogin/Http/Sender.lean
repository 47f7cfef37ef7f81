import DeviceLogin.Http.Exchange
import DeviceLogin.Json.Basic

set_option autoImplicit false

namespace DeviceLogin.Http

def isTokenChar (c : Char) : Bool := c.isAlphanum || "!#$%&'*+-.^_`|~".toList.contains c

def isToken (name : String) : Bool := !name.isEmpty && name.toList.all isTokenChar

def isFieldChar (c : Char) : Bool :=
  let point := c.toNat
  point == 0x9 || (0x20 ≤ point && point ≤ 0x7E) || (0x80 ≤ point && point ≤ 0xFF)

def isPathChar (c : Char) : Bool :=
  let point := c.toNat
  0x21 ≤ point && point ≤ 0xFF

def isDuration : Number → Bool
  | .finite negative units => !negative || units == 0
  | _ => false

def isPrintable (c : Char) : Bool := 0x20 ≤ c.toNat && c.toNat ≤ 0x7E

def ownHeaders : List String := ["Content-Type", "Content-Length", "Accept", "Authorization", "Cookie", "X-Auth-PSK"]

theorem own_headers_tokens : ∀ header ∈ ownHeaders, isToken header = true := by decide

theorem field_of_printable (c : Char) (printable : isPrintable c = true) : isFieldChar c = true := by
  simp only [isPrintable, isFieldChar, Bool.and_eq_true, Bool.or_eq_true, beq_iff_eq, decide_eq_true_eq] at printable ⊢
  omega

-- What the HTTP client lets into a request: the name of a header, the characters of its value and
-- of a path, and a timeout. It refuses any other request before a connection is made.
structure Sender where
  name : String → Bool := isToken
  field : Char → Bool := isFieldChar
  path : Char → Bool := isPathChar
  timeout : Number → Bool := isDuration
  named : ∀ header ∈ ownHeaders, name header = true := by exact DeviceLogin.Http.own_headers_tokens
  printed : ∀ c, isPrintable c = true → field c = true := by exact DeviceLogin.Http.field_of_printable

def Request.fields (request : Request) : Ordered String :=
  match request.bodyLength with
  | some length => request.headers.put "Content-Length" (String.ofList (Nat.toDigits 10 length))
  | none => request.headers

-- The headers that are looked at: the length of a body is a number of the client's own.
def Request.given (request : Request) : Ordered String :=
  if request.bodyLength.isSome then request.headers.erase "Content-Length" else request.headers

namespace Sender

def takes (sender : Sender) (value : String) : Bool := value.toList.all sender.field

def fieldFault? (sender : Sender) (field : String × String) : Option String :=
  if !sender.name field.1 then some ("Header name must be a valid HTTP token [\"" ++ field.1 ++ "\"]")
  else if !sender.takes field.2 then some ("Invalid character in header content [\"" ++ field.1 ++ "\"]")
  else none

def timeoutFault? (sender : Sender) (timeout : Number) : Option String :=
  if sender.timeout timeout then none
  else
    some ("The value of \"msecs\" is out of range. It must be a non-negative finite number. Received " ++ timeout.text)

def refusal? (sender : Sender) (request : Request) : Option String :=
  if !request.path.toList.all sender.path then some "Request path contains unescaped characters"
  else
    match (Ordered.inMemberOrder request.given).findSome? sender.fieldFault? with
    | some message => some message
    | none => sender.timeoutFault? request.timeout

def sends (sender : Sender) (request : Request) : Bool := (sender.refusal? request).isNone

end Sender

end DeviceLogin.Http
