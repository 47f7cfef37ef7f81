import Mathlib
import DeviceLogin.Proofs.Login.Settling
import DeviceLogin.Proofs.Replies
import DeviceLogin.Proofs.Sending

set_option autoImplicit false

namespace DeviceLogin

-- The body is an object with a list of error codes, which starts with the code that counts.
structure Http.Reports (body : String) (members : List (String × Json)) (code : Json) (rest : List Json) : Prop where
  read : Json.read? body = some (.obj members)
  listed : Ordered.get? members "error" = some (.arr (code :: rest))
  coded : code.isCode = true

def DeviceFault.reported (code : Json) (rest : List Json) : DeviceFault :=
  ⟨FaultKind.ofCode (Reply.codeOf code), Reply.codeOf code, (rest.head?.map Json.plainText).getD ""⟩

namespace Reply

variable {status : Number} {body : String} {members : List (String × Json)} {code : Json} {rest : List Json}

theorem of_body_reports (reports : Http.Reports body members code rest) (tidy : isEnvelope members = true) :
    ofBody status body = { status := status, fault := some (.reported code rest) } := by
  have found : ((Ordered.get? members "error").bind items?).bind faultOf? = some (.reported code rest) := by
    rw [reports.listed]
    rfl
  rw [of_body_envelope status body members reports.read tidy, ofEnvelope, Json.member?, found]

end Reply

-- What becomes of an error in the body of an answer. If the body is an envelope in all its members, the reply carries
-- the error with the class of its code, whatever the status of the answer: it counts as an error, has no results, and no
-- registration that is answered so is accepted. If another member or another element of the list is of another kind,
-- the error is lost: the reply is a note, an error by nothing but its status, and a registration that is answered so
-- with status 200 is accepted.
theorem reported_errors_survive_envelopes (status : Number) (body : String) (members : List (String × Json)) (code : Json)
    (rest : List Json) (reports : Http.Reports body members code rest) :
    let reply := Reply.ofBody status body
    (Reply.isEnvelope members = true →
      reply.fault = some (.reported code rest) ∧ reply.isError = true ∧ reply.hasResults = false) ∧
    (Reply.isEnvelope members = false → reply = { status := status, note := body } ∧ (reply.isError = true ↔ status ≠ 200)) ∧
    ∀ (service : Service) (clientId : String) (jar : Nat) (parent : Logger) (pin : Option String) (world : World)
      (headers : Ordered Http.HeaderValue) (after : Scene Channel),
      (Channel.send (Pairing.message clientId) (Pairing.headers pin)).perform
          ⟨(service.carrying (·.withJar jar)).channel, world⟩ = (.ok ⟨status, body, headers⟩, after) →
      ∃ outcome final, (Pairing.request clientId jar parent pin).perform ⟨service, world⟩ = (.ok outcome, final) ∧
        (outcome = .ok ↔ Reply.isEnvelope members = false ∧ status = 200) := by
  intro reply
  have kept (tidy : Reply.isEnvelope members = true) :
      reply = { status := status, fault := some (.reported code rest) } := Reply.of_body_reports reports tidy
  have lost (odd : Reply.isEnvelope members = false) : reply = { status := status, note := body } :=
    Reply.of_body_object_other status body members reports.read odd
  refine ⟨fun tidy => ?_, fun odd => ⟨lost odd, ?_⟩, ?_⟩
  · rw [kept tidy]
    exact ⟨rfl, rfl, rfl⟩
  · rw [lost odd]
    simp [Reply.isError]
  · intro service clientId jar parent pin world headers after sent
    obtain ⟨told, -, ended⟩ := Pairing.request_answered service clientId jar parent pin sent
    refine ⟨_, _, ended, ?_⟩
    have judged := Pairing.registered_ok_iff (Pairing.registered_judge pin (Reply.ofResponse ⟨status, body, headers⟩))
    have same : Reply.ofResponse ⟨status, body, headers⟩ = reply := rfl
    rw [judged, same, Reply.status_of_body]
    cases tidy : Reply.isEnvelope members with
    | true => simp [kept tidy]
    | false => simp [lost tidy]

def obligingDevice (body : String) (_ : List Http.Request) (_ : Http.Request) : Http.Exchange :=
  .answered { status := some 200, headers := [], chunks := [.text body], streamError := none, truncated := false }

theorem reported_errors_survive_envelopes_refusal :
    let body := "\x7b\"error\":[\"401\",\"Unauthorized\"]\x7d"
    let members : List (String × Json) := [("error", .arr [.str "401", .str "Unauthorized"])]
    let service : Service := { name := "accessControl", channel := { url := "http://tv/sony/accessControl" } }
    Http.Reports body members (.str "401") [.str "Unauthorized"] ∧
      (Reply.ofBody 200 body).fault = some ⟨.unauthorized, 401, "Unauthorized"⟩ ∧
      ∃ outcome final, (Pairing.request "phone" 0 {} (some "1234")).perform ⟨service, { device := obligingDevice body }⟩ =
        (.ok outcome, final) ∧ outcome ≠ .ok := by
  intro body members service
  have read : Json.read? body = some (.obj members) := by cbv
  have reports : Http.Reports body members (.str "401") [.str "Unauthorized"] := ⟨read, rfl, rfl⟩
  obtain ⟨kept, -, registered⟩ := reported_errors_survive_envelopes 200 body members _ _ reports
  have coded : Reply.codeOf (.str "401") = 401 := by decide +kernel
  have kind : FaultKind.ofCode 401 = .unauthorized := by decide +kernel
  have fault : DeviceFault.reported (.str "401") [.str "Unauthorized"] = ⟨.unauthorized, 401, "Unauthorized"⟩ := by
    rw [DeviceFault.reported, coded, kind]
    rfl
  let channel := (service.carrying (·.withJar 0)).channel
  let world : World := { device := obligingDevice body }
  rcases posted : (channel.post (Pairing.message "phone") (Pairing.headers (some "1234"))).run world with ⟨response, after⟩
  have answered : ((channel.post (Pairing.message "phone") (Pairing.headers (some "1234"))).run world).1.status = 200 ∧
      ((channel.post (Pairing.message "phone") (Pairing.headers (some "1234"))).run world).1.body = body := by
    decide +kernel +zetaReduce
  rw [posted] at answered
  have sent := Channel.send_once channel _ _ world posted fun reauthorize asks => Option.some_ne_none _ asks.2.2.symm
  have whole : response = ⟨response.status, response.body, response.headers⟩ := rfl
  rw [whole, answered.1, answered.2] at sent
  obtain ⟨outcome, final, ended, accepted⟩ := registered service "phone" 0 {} (some "1234") world _ _ sent
  exact ⟨reports, fault ▸ (kept rfl).1, outcome, final, ended, fun ok => Bool.noConfusion (accepted.mp ok).1⟩

theorem reported_error_lost :
    let body := "\x7b\"error\":[\"401\",\"Unauthorized\"],\"id\":null\x7d"
    let service : Service := { name := "accessControl", channel := { url := "http://tv/sony/accessControl" } }
    let registered := (Pairing.request "phone" 0 {} (some "1234")).perform ⟨service, { device := obligingDevice body }⟩
    (∃ members, Http.Reports body members (.str "401") [.str "Unauthorized"]) ∧
      (Reply.ofBody 200 body).fault = none ∧ (Reply.ofBody 200 body).isError = false ∧ registered.1.toOption = some .ok := by
  intro body service registered
  have read : Json.read? body =
      some (.obj [("error", .arr [.str "401", .str "Unauthorized"]), ("id", .null)]) := by cbv
  have reply : Reply.ofBody 200 body = { status := 200, note := body } := Reply.of_body_object_other 200 body _ read rfl
  refine ⟨⟨_, read, rfl, rfl⟩, by rw [reply], by simp [reply, Reply.isError], ?_⟩
  decide +kernel +zetaReduce

end DeviceLogin
