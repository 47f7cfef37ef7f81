import DeviceLogin.Proofs.Http.Sending
import DeviceLogin.Proofs.Sending

set_option autoImplicit false

namespace DeviceLogin

open Act

namespace Channel

-- A message was posted once: the request that it came to, the answer, and the world afterwards.
structure Posted (channel : Channel) (message : Message) (extra : Ordered String) (url : Url) (before : World)
    (request : Http.Request) (answer : Http.Response) (after : World) : Prop where
  made : request = Http.requestOf url (channel.order message extra before)
  header : ∀ name, name ≠ "Cookie" → request.headers.get? name = channel.setting? extra name
  cookie : request.headers.get? "Cookie" = (channel.cookies? before).or (channel.setting? extra "Cookie")
  length : request.fields.get? "Content-Length" =
    some (String.ofList (Nat.toDigits 10 (Text.utf8 (Json.write message.body)).length))
  asked : after.asked = before.asked ++ [request]
  sent : after.asked.filter before.sender.sends =
    before.asked.filter before.sender.sends ++ if before.sender.sends request then [request] else []
  answers : after.answers = before.answers
  unsent : ∀ failed, before.sender.refusal? request = some failed →
    answer = unavailable failed ∧ after.jars = before.jars
  answered : answer =
    match (before.answers before.asked request).outcome channel.url request.timeout with
    | .ok response => response
    | .error failed => unavailable failed
  jars : after.jars =
    match channel.credentials.jar with
    | some number => before.jars.modify number (CookieJar.take (before.answers before.asked request).settings)
    | none => before.jars

def hooked (channel : Channel) (hook : Option Reauthorize) : Channel := { channel with reauthorize := hook }

variable (channel : Channel) (message : Message) (extra : Ordered String) (world : World)

theorem post_posted {url : Url} (read : Url.read? channel.url = some url) :
    channel.Posted message extra url world (Sent.posted channel message extra url world.traffic).request
      ((channel.post message extra).run world).1 ((channel.post message extra).run world).2 := by
  have headers : (Sent.posted channel message extra url world.traffic).request.headers =
      channel.headersFor extra (channel.cookies? world) := rfl
  have traffic := (post_reached channel message extra world).2
  have one : channel.sends message extra world.traffic = [Sent.posted channel message extra url world.traffic] := by
    rw [sends, read]
    rfl
  rw [one] at traffic
  have asked : ((channel.post message extra).run world).2.asked =
      world.asked ++ [(Sent.posted channel message extra url world.traffic).request] := congrArg Traffic.asked traffic
  have answered := post_sent channel message extra world url read
  have jars := congrArg Traffic.jars traffic
  refine
    { made := rfl
      header := fun name other => ?_
      cookie := ?_
      length := (Ordered.get_put _ _ _ _).trans (if_pos rfl)
      asked := asked
      sent := ?_
      answers := congrArg Traffic.answers traffic
      unsent := fun failed refused => ?_
      answered := answered
      jars := jars }
  · rw [headers, get_headers_for, if_neg other]
  · rw [headers, get_headers_for, if_pos rfl]
  · rw [asked, List.filter_append, List.filter_cons, List.filter_nil]
  · have answer : world.traffic.answers world.traffic.asked (Sent.posted channel message extra url world.traffic).request =
        .failed failed := World.answers_refused world.asked refused
    refine ⟨?_, ?_⟩
    · rw [answered, Traffic.answer, answer]
      rfl
    · refine jars.trans ?_
      simp only [Traffic.afterAll, List.foldl_cons, List.foldl_nil, Traffic.after, answer]
      cases (Sent.posted channel message extra url world.traffic).jar with
      | none => rfl
      | some number => exact List.modify_id number world.jars

end Channel

end DeviceLogin
