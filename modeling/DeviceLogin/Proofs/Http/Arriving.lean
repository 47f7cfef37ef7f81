import DeviceLogin.Proofs.Http.Sending
import DeviceLogin.Proofs.Posting
import DeviceLogin.Proofs.Text.Encodings

set_option autoImplicit false

namespace DeviceLogin

namespace Http

def joined (chunks : List Chunk) : List UInt8 := chunks.flatMap Chunk.toBytes

namespace StreamEvent

def Passes : StreamEvent → Prop
  | .data _ => True
  | .closed complete => complete = true
  | _ => False

def bytes : StreamEvent → List UInt8
  | .data chunk => chunk.toBytes
  | _ => []

end StreamEvent

-- An exchange that comes to no whole answer.
inductive Exchange.Breaks : Exchange → Prop
  | failed (message : String) : Breaks (.failed message)
  | timedOut : Breaks .timedOut
  | disturbed {answer : Answer} (message : String) (before after : List StreamEvent)
      (events : answer.events = before ++ .failed message :: after) (unended : .ended ∉ before) : Breaks (.answered answer)
  | truncated {answer : Answer} (cut : answer.truncated = true) : Breaks (.answered answer)

theorem settle_passing (received : List UInt8) (before rest : List StreamEvent) (passing : ∀ event ∈ before, event.Passes) :
    settle received (before ++ rest) = settle (received ++ before.flatMap StreamEvent.bytes) rest := by
  induction before generalizing received with
  | nil => simp
  | cons event before ih =>
      obtain ⟨here, later⟩ := List.forall_mem_cons.mp passing
      cases event with
      | data chunk =>
          rw [List.cons_append, settle, ih _ later, List.flatMap_cons, List.append_assoc]
          rfl
      | closed complete =>
          have whole : complete = true := here
          rw [List.cons_append, settle, if_pos whole, ih _ later, List.flatMap_cons]
          rfl
      | failed message => cases here
      | ended => cases here

namespace Answer

variable (answer : Answer)

theorem pieces_pass : ∀ event ∈ answer.chunks.map StreamEvent.data, event.Passes := by
  intro event member
  obtain ⟨chunk, -, rfl⟩ := List.mem_map.mp member
  trivial

theorem pieces_joined : (answer.chunks.map StreamEvent.data).flatMap StreamEvent.bytes = joined answer.chunks :=
  List.flatMap_map ..

theorem settled :
    settle [] answer.events =
      match answer.streamError with
      | some message => .failed message
      | none => if answer.truncated then .cut else .whole (joined answer.chunks) := by
  rw [events, List.append_assoc, List.append_assoc, settle_passing _ _ _ answer.pieces_pass, List.nil_append, pieces_joined]
  cases answer.streamError with
  | some message => rfl
  | none => cases answer.truncated <;> rfl

theorem breaks_iff : (Exchange.answered answer).Breaks ↔ answer.streamError.isSome = true ∨ answer.truncated = true := by
  constructor
  · intro broken
    cases broken with
    | disturbed message before after events unended =>
        have failing : StreamEvent.failed message ∈ answer.events := events ▸ List.mem_append_right _ List.mem_cons_self
        cases failed : answer.streamError with
        | some other => exact .inl rfl
        | none => cases cut : answer.truncated <;> simp [Answer.events, failed, cut] at failing
    | truncated cut => exact .inr cut
  · rintro (failed | cut)
    · obtain ⟨message, failed⟩ := Option.isSome_iff_exists.mp failed
      have order : answer.events = answer.chunks.map .data ++ .failed message ::
          ((if answer.truncated then [] else [.ended]) ++ [.closed (!answer.truncated)]) := by
        rw [events, failed, List.append_assoc, List.append_assoc]
        rfl
      exact .disturbed message _ _ order (by simp)
    · exact .truncated cut

def response : Response :=
  { status :=
      match answer.status with
      | some status => if status.isZero then 500 else status
      | none => 500
    body := Text.ofUtf8 (joined answer.chunks)
    headers := answer.headers }

theorem outcome_whole (address : String) (timeout : Number) (whole : ¬ (Exchange.answered answer).Breaks) :
    (Exchange.answered answer).outcome address timeout = .ok answer.response := by
  rw [breaks_iff, not_or, Bool.not_eq_true, Bool.not_eq_true, Option.isSome_eq_false_iff, Option.isNone_iff_eq_none] at whole
  rw [Exchange.outcome, settled, whole.1, whole.2]
  rfl

theorem outcome_broken (address : String) (timeout : Number) (broken : (Exchange.answered answer).Breaks) :
    ∃ message, (Exchange.answered answer).outcome address timeout = .error message := by
  rw [Exchange.outcome, settled]
  rcases failed : answer.streamError with _ | message
  · have cut := (breaks_iff answer).mp broken
    rw [failed] at cut
    rw [cut.resolve_left (by simp)]
    exact ⟨_, rfl⟩
  · exact ⟨message, rfl⟩

theorem outcome_cut (address : String) (timeout : Number) (chunks : List Chunk) (same : joined chunks = joined answer.chunks) :
    (Exchange.answered { answer with chunks := chunks }).outcome address timeout =
      (Exchange.answered answer).outcome address timeout := by
  simp only [Exchange.outcome, settled, same]

end Answer

theorem Exchange.breaks_iff_error (exchange : Exchange) (address : String) (timeout : Number) :
    exchange.Breaks ↔ ∃ message, exchange.outcome address timeout = .error message := by
  cases exchange with
  | failed message => exact ⟨fun _ => ⟨message, rfl⟩, fun _ => .failed message⟩
  | timedOut => exact ⟨fun _ => ⟨_, rfl⟩, fun _ => .timedOut⟩
  | answered answer =>
      refine ⟨answer.outcome_broken address timeout, fun failed => ?_⟩
      by_contra whole
      obtain ⟨message, failed⟩ := failed
      exact nomatch (answer.outcome_whole address timeout whole).symm.trans failed

end Http

namespace World

theorem request_ended (address : String) (order : Http.Order) (url : Url) (read : Url.read? address = some url)
    (world : World) :
    ((request address order).perform world).1 =
      ((world.answers world.asked (Http.requestOf url order)).outcome address
        (order.timeout.getD Http.defaultTimeout)).mapError .error := by
  rw [request_sent address order world url read]
  cases (world.answers world.asked (Http.requestOf url order)).outcome address (order.timeout.getD Http.defaultTimeout) <;>
    rfl

end World

-- A request whose address can be read is made once. It fails exactly if its exchange breaks: it is refused, fails or gets
-- no answer in time, the answer is disturbed before it ends, or it is cut off. Otherwise it gives the status of the answer,
-- which is 500 where there is none or it is zero, the headers, and the text of all pieces of the body put together; so text
-- comes whole however it was cut. No other cut of the same bytes, not even inside a character, makes a difference.
theorem body_arrives_whole (address : String) (order : Http.Order) (url : Url) (read : Url.read? address = some url)
    (world : World) :
    let request := Http.requestOf url order
    let exchange := world.answers world.asked request
    let ended := (World.request address order).perform world
    ended.2 = world.asking request ∧
    ((∃ failure, ended.1 = .error failure) ↔ exchange.Breaks) ∧
    (∀ answer, exchange = .answered answer → ¬ exchange.Breaks →
      ended.1 = .ok answer.response ∧
      ∀ text, Http.joined answer.chunks = Text.utf8 text → answer.response.body = text) ∧
    ∀ (answer : Http.Answer) (chunks : List Http.Chunk) (other : World), exchange = .answered answer →
      Http.joined chunks = Http.joined answer.chunks →
      other.answers other.asked request = .answered { answer with chunks := chunks } →
        ((World.request address order).perform other).1 = ended.1 := by
  intro request exchange ended
  have result : ended.1 = (exchange.outcome address (order.timeout.getD Http.defaultTimeout)).mapError .error :=
    World.request_ended address order url read world
  refine ⟨?_, ?_, ?_, ?_⟩
  · exact congrArg Prod.snd (World.request_sent address order world url read)
  · rw [result, Http.Exchange.breaks_iff_error exchange address (order.timeout.getD Http.defaultTimeout)]
    cases exchange.outcome address (order.timeout.getD Http.defaultTimeout) <;> simp [Except.mapError]
  · intro answer answered whole
    rw [result, answered, answer.outcome_whole _ _ (answered ▸ whole)]
    refine ⟨rfl, fun text same => ?_⟩
    rw [Http.Answer.response, same, Text.of_utf8_utf8]
  · intro answer chunks other answered same again
    rw [result, World.request_ended address order url read other, again, answered, answer.outcome_cut _ _ chunks same]

theorem sends_plain (url : Url) (read : Url.read? "http://tv/sony/system" = some url) :
    ({} : Http.Sender).sends (Http.requestOf url {}) = true := by
  have plain : ((Url.read? "http://tv/sony/system").all fun url =>
      ({} : Http.Sender).sends (Http.requestOf url {})) = true := by decide +kernel
  rwa [read] at plain

theorem body_arrives_whole_in_pieces :
    let answer : Http.Answer :=
      { status := some 200
        headers := []
        chunks := [.bytes [0xC3], .bytes [0xA9]]
        streamError := none
        truncated := false }
    let world : World := { device := fun _ _ => .answered answer }
    ∃ url, Url.read? "http://tv/sony/system" = some url ∧
      ∃ response, ((World.request "http://tv/sony/system" {}).perform world).1 = .ok response ∧ response.body = "é" := by
  intro answer world
  obtain ⟨url, read⟩ : ∃ url, Url.read? "http://tv/sony/system" = some url := Option.isSome_iff_exists.mp (by decide +kernel)
  obtain ⟨-, -, delivers, -⟩ := body_arrives_whole "http://tv/sony/system" {} url read world
  have whole : ¬ (Http.Exchange.answered answer).Breaks := by simp [Http.Answer.breaks_iff, answer]
  have answered : world.answers world.asked _ = .answered answer := World.answers_sent world.asked (sends_plain url read)
  obtain ⟨delivered, text⟩ := delivers answer answered (answered ▸ whole)
  exact ⟨url, read, answer.response, delivered, text "é" (by decide +kernel)⟩

theorem zero_status_replaced :
    let answer : Http.Answer :=
      { status := some 0, headers := [], chunks := [.text "x"], streamError := none, truncated := false }
    let world : World := { device := fun _ _ => .answered answer }
    (Url.read? "http://tv/sony/system").isSome = true ∧ ¬ (Http.Exchange.answered answer).Breaks ∧
      ∃ response, ((World.request "http://tv/sony/system" {}).perform world).1 = .ok response ∧
        response.status = 500 ∧ response.status ≠ answer.status.getD 500 := by
  intro answer world
  have readable : (Url.read? "http://tv/sony/system").isSome = true := by decide +kernel
  obtain ⟨url, read⟩ := Option.isSome_iff_exists.mp readable
  have whole : ¬ (Http.Exchange.answered answer).Breaks := by simp [Http.Answer.breaks_iff, answer]
  have delivered : ((World.request "http://tv/sony/system" {}).perform world).1 = .ok answer.response := by
    have answered : world.answers world.asked (Http.requestOf url {}) = .answered answer :=
      World.answers_sent world.asked (sends_plain url read)
    rw [World.request_ended _ _ url read, answered, answer.outcome_whole _ _ whole]
    rfl
  have status : answer.response.status = 500 := by decide +kernel
  exact ⟨readable, whole, answer.response, delivered, status, by rw [status]; decide +kernel⟩

end DeviceLogin
