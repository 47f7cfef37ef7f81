import DeviceLogin.Client
import DeviceLogin.Proofs.Act.Agreement
import DeviceLogin.Proofs.Clients
import DeviceLogin.Proofs.Http.Sending

set_option autoImplicit false

namespace DeviceLogin

open Act

variable (mask : String → String)

def isSecret (header : String) : Bool := header == keyHeader || header == "Authorization"

def maskedValue (header value : String) : String := if isSecret header then mask value else value

def Ordered.masked (headers : Ordered String) : Ordered String :=
  headers.map fun header => (header.1, maskedValue mask header.1 header.2)

def Http.Request.masked (request : Http.Request) : Http.Request :=
  { request with headers := Ordered.masked mask request.headers }

def Event.masked : Event → Event
  | .requested request => .requested (request.masked mask)
  | event => event

def Http.Request.redacted : Http.Request → Http.Request := masked fun _ => ""

def Event.redacted : Event → Event := masked fun _ => ""

def Credentials.masked (credentials : Credentials) : Credentials :=
  { credentials with headers := Ordered.masked mask credentials.headers }

def Channel.masked (channel : Channel) : Channel := channel.change (Credentials.masked mask)

def Service.masked (service : Service) : Service := service.changeChannel (Channel.masked mask)

def Client.masked (client : Client) : Client := client.changeChannels (Channel.masked mask)

theorem masked_masked (other : String → String) (header value : String) (hides : ∀ value, mask (other value) = mask value) :
    maskedValue mask header (maskedValue other header value) = maskedValue mask header value := by
  by_cases secret : isSecret header <;> simp [maskedValue, secret, hides]

theorem plain_masked (header value : String) (plain : isSecret header = false) : maskedValue mask header value = value := by
  simp [maskedValue, plain]

namespace Ordered

theorem masked_put (headers : Ordered String) (name value : String) :
    masked mask (headers.put name value) = (masked mask headers).put name (maskedValue mask name value) := by
  induction headers with
  | nil => rfl
  | cons first rest ih =>
      obtain ⟨known, old⟩ := first
      by_cases same : known = name
      · simp [put, masked, same]
      · have tail : List.map (fun header : String × String => (header.1, maskedValue mask header.1 header.2))
            (put rest name value) = (masked mask rest).put name (maskedValue mask name value) := ih
        simp only [put, masked, same, if_false, List.map_cons, tail]

theorem masked_erase (headers : Ordered String) (name : String) :
    masked mask (headers.erase name) = (masked mask headers).erase name := by
  simp only [masked, erase, List.filter_map]
  rfl

theorem masked_put_all (headers added : Ordered String) :
    masked mask (headers.putAll added) = (masked mask headers).putAll (masked mask added) := by
  induction added generalizing headers with
  | nil => rfl
  | cons first rest ih =>
      have step := ih (headers.put first.1 first.2)
      rw [masked_put] at step
      exact step

end Ordered

theorem Http.Request.redacted_masked (request : Http.Request) : (request.masked mask).redacted = request.redacted := by
  have values (header : String × String) :
      maskedValue (fun _ => "") header.1 (maskedValue mask header.1 header.2) = maskedValue (fun _ => "") header.1 header.2 :=
    masked_masked _ mask header.1 header.2 fun _ => rfl
  simp only [redacted, masked, Ordered.masked, List.map_map, Function.comp_def, values]

theorem Event.redacted_masked (event : Event) : (event.masked mask).redacted = event.redacted := by
  cases event with
  | requested request => exact congrArg Event.requested (Http.Request.redacted_masked mask request)
  | _ => rfl

variable {mask}

theorem Http.Request.redacted_of_masked {request twin : Http.Request} (same : request.masked mask = twin.masked mask) :
    request.redacted = twin.redacted := by
  rw [← redacted_masked mask request, same, redacted_masked]

theorem requests_redacted {requests others : List Http.Request}
    (same : requests.map (Http.Request.masked mask) = others.map (Http.Request.masked mask)) :
    requests.map Http.Request.redacted = others.map Http.Request.redacted := by
  have through := congrArg (List.map Http.Request.redacted) same
  simpa only [List.map_map, Function.comp_def, Http.Request.redacted_masked] using through

theorem events_redacted {events others : List Event} (same : events.map (Event.masked mask) = others.map (Event.masked mask)) :
    events.map Event.redacted = others.map Event.redacted := by
  have through := congrArg (List.map Event.redacted) same
  simpa only [List.map_map, Function.comp_def, Event.redacted_masked] using through

-- A mask under which the HTTP client takes what it took without it.
def Http.Sender.Overlooks (sender : Http.Sender) (mask : String → String) : Prop :=
  ∀ value, sender.takes (mask value) = sender.takes value

namespace Http.Sender

variable {sender : Sender}

theorem refusal_masked (overlooks : sender.Overlooks mask) (request : Request) :
    sender.refusal? (request.masked mask) = sender.refusal? request := by
  have fault (field : String × String) :
      sender.fieldFault? (field.1, maskedValue mask field.1 field.2) = sender.fieldFault? field := by
    have taken : sender.takes (maskedValue mask field.1 field.2) = sender.takes field.2 := by
      by_cases secret : isSecret field.1 <;> simp [maskedValue, secret, overlooks field.2]
    rw [fieldFault?, fieldFault?, taken]
  have given : (request.masked mask).given = Ordered.masked mask request.given := by
    cases sized : request.bodyLength with
    | none => simp [Request.given, Request.masked, sized]
    | some bytes => simp [Request.given, Request.masked, sized, Ordered.masked_erase]
  have fields : (Ordered.inMemberOrder (request.masked mask).given).findSome? sender.fieldFault? =
      (Ordered.inMemberOrder request.given).findSome? sender.fieldFault? := by
    rw [given, Ordered.masked, Ordered.member_order_map fun header => maskedValue mask header.1 header.2,
      List.findSome?_map]
    exact congrArg (List.findSome? · _) (funext fault)
  rw [refusal?, refusal?, fields]
  rfl

theorem refusal_alike (overlooks : sender.Overlooks mask) {request twin : Request}
    (same : request.masked mask = twin.masked mask) : sender.refusal? request = sender.refusal? twin := by
  rw [← refusal_masked overlooks request, same, refusal_masked overlooks twin]

theorem sent_masked (overlooks : sender.Overlooks mask) (requests : List Request) :
    (requests.filter sender.sends).map (Request.masked mask) = (requests.map (Request.masked mask)).filter sender.sends := by
  have sends : sender.sends ∘ Request.masked mask = sender.sends := by
    funext request
    rw [Function.comp_apply, Sender.sends, Sender.sends, refusal_masked overlooks]
  rw [List.filter_map, sends]

end Http.Sender

namespace Credentials

variable (mask)

theorem with_header_masked (credentials : Credentials) (name value : String) :
    (credentials.withHeader name value).masked mask =
      (credentials.masked mask).withHeader name (maskedValue mask name value) := by
  simp only [withHeader, masked, Ordered.masked_put]

theorem without_header_masked (credentials : Credentials) (name : String) :
    (credentials.withoutHeader name).masked mask = (credentials.masked mask).withoutHeader name := by
  simp only [withoutHeader, masked, Ordered.masked_erase]

-- Two changes that come to the same but for a secret.
structure Twins (f g : Credentials → Credentials) : Prop where
  same : ∃ common : Credentials → Credentials,
    (∀ credentials, (f credentials).masked mask = common (credentials.masked mask)) ∧
      ∀ credentials, (g credentials).masked mask = common (credentials.masked mask)
  quiet : ∀ credentials, (f credentials).autoAuth = credentials.autoAuth

theorem twins_key (key other : String) (same : mask key = mask other) :
    Twins mask (·.withHeader keyHeader key) (·.withHeader keyHeader other) := by
  have hidden : maskedValue mask keyHeader key = maskedValue mask keyHeader other := by
    simp [maskedValue, isSecret, same]
  refine ⟨⟨(·.withHeader keyHeader (maskedValue mask keyHeader other)), fun credentials => ?_, fun credentials => ?_⟩, fun _ => rfl⟩
  · rw [with_header_masked, hidden]
  · rw [with_header_masked]

theorem twins_without_key : Twins mask (·.withoutHeader keyHeader) (·.withoutHeader keyHeader) :=
  ⟨⟨(·.withoutHeader keyHeader), fun credentials => without_header_masked mask credentials keyHeader,
    fun credentials => without_header_masked mask credentials keyHeader⟩, fun _ => rfl⟩

theorem twins_jar (jar : Nat) : Twins mask (·.withJar jar) (·.withJar jar) :=
  ⟨⟨(·.withJar jar), fun _ => rfl, fun _ => rfl⟩, fun _ => rfl⟩

theorem twins_without_jar : Twins mask withoutJar withoutJar :=
  ⟨⟨withoutJar, fun _ => rfl, fun _ => rfl⟩, fun _ => rfl⟩

end Credentials

variable (mask)

theorem headers_for_masked (channel : Channel) (extra : Ordered String) (cookies : Option String) :
    Ordered.masked mask (channel.headersFor extra cookies) =
      (channel.masked mask).headersFor (Ordered.masked mask extra) cookies := by
  have base : Ordered.masked mask [("Content-Type", "application/json; charset=UTF-8"), ("Accept", "application/json")] =
      [("Content-Type", "application/json; charset=UTF-8"), ("Accept", "application/json")] := by
    simp [Ordered.masked, maskedValue, isSecret, keyHeader]
  have cookie (value : String) : maskedValue mask "Cookie" value = value := plain_masked mask _ value (by decide)
  cases cookies with
  | none => simp only [Channel.headersFor, Ordered.masked_put_all, base, Channel.masked, Channel.change, Credentials.masked]
  | some value =>
      simp only [Channel.headersFor, Ordered.masked_put, Ordered.masked_put_all, base, cookie, Channel.masked,
        Channel.change, Credentials.masked]

def Blind (device : List Http.Request → Http.Request → Http.Exchange) : Prop :=
  ∀ history other request twin, history.map Http.Request.redacted = other.map Http.Request.redacted →
    request.redacted = twin.redacted → device history request = device other twin

def Service.Refusals.Blind (refusals : Service.Refusals) : Prop :=
  ∀ history other, history.map Http.Request.redacted = other.map Http.Request.redacted → refusals history = refusals other

-- The mask tells the secrets that the client takes from those that it refuses, and nothing else.
def World.Alike (world twin : World) : Prop :=
  ∃ asked trace, twin = { world with asked := asked, trace := trace } ∧
    world.asked.map (Http.Request.masked mask) = asked.map (Http.Request.masked mask) ∧
    world.trace.map (Event.masked mask) = trace.map (Event.masked mask) ∧
    Blind world.device ∧ world.sender.Overlooks mask

namespace Channel

structure Alike (channel twin : Channel) : Prop where
  same : channel.masked mask = twin.masked mask
  muted : channel.credentials.autoAuth = false

end Channel

end DeviceLogin
