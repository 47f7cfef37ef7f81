import DeviceLogin.Channel
import DeviceLogin.Proofs.Act.Invariant

set_option autoImplicit false

namespace DeviceLogin

namespace Http

def Exchange.response? : Exchange → Option Response
  | .answered answer =>
      match settle [] answer.events with
      | .whole bytes => some ⟨statusOr500 answer.status, Text.ofUtf8 bytes, answer.headers⟩
      | _ => none
  | _ => none

theorem outcome_ok_iff (exchange : Exchange) (url : String) (timeout : Number) (response : Response) :
    exchange.outcome url timeout = .ok response ↔ exchange.response? = some response := by
  cases exchange with
  | failed message => simp [Exchange.outcome, Exchange.response?]
  | timedOut => simp [Exchange.outcome, Exchange.response?]
  | answered answer =>
      simp only [Exchange.outcome, Exchange.response?]
      cases settle [] answer.events <;> simp

theorem outcome_error (exchange : Exchange) (url message : String) (timeout : Number)
    (failed : exchange.outcome url timeout = .error message) : exchange.response? = none := by
  cases found : exchange.response? with
  | none => rfl
  | some response =>
      rw [(outcome_ok_iff exchange url timeout response).mpr found] at failed
      exact nomatch failed

def Exchange.settings (exchange : Exchange) : List String :=
  match exchange.response? with
  | some response => World.settingsIn response.headers
  | none => []

end Http

def CookieJar.take (settings : List String) (jar : CookieJar) : CookieJar :=
  { jar with cookies := settings.foldl Cookie.apply jar.cookies }

structure Traffic where
  answers : List Http.Request → Http.Request → Http.Exchange
  asked : List Http.Request
  jars : List CookieJar

-- A request, with the jar that takes the cookies of its answer.
structure Sent where
  request : Http.Request
  jar : Option Nat

def World.traffic (world : World) : Traffic := ⟨world.answers, world.asked, world.jars⟩

namespace Traffic

def cookies? (traffic : Traffic) (number : Nat) : Option String :=
  (traffic.jars.getD number ({} : CookieJar)).header?

def after (traffic : Traffic) (sent : Sent) : Traffic :=
  let settings := (traffic.answers traffic.asked sent.request).settings
  { traffic with
    asked := traffic.asked ++ [sent.request]
    jars :=
      match sent.jar with
      | some number => traffic.jars.modify number (CookieJar.take settings)
      | none => traffic.jars }

def afterAll (traffic : Traffic) (sends : List Sent) : Traffic := sends.foldl after traffic

def Along (property : Traffic → Sent → Prop) : Traffic → List Sent → Prop
  | _, [] => True
  | traffic, sent :: rest => property traffic sent ∧ Along property (traffic.after sent) rest

theorem after_all_append (traffic : Traffic) (first rest : List Sent) :
    traffic.afterAll (first ++ rest) = (traffic.afterAll first).afterAll rest := List.foldl_append

theorem asked_after_all (traffic : Traffic) (sends : List Sent) :
    (traffic.afterAll sends).asked = traffic.asked ++ sends.map Sent.request := by
  induction sends generalizing traffic with
  | nil => simp [afterAll]
  | cons sent rest ih =>
      change ((traffic.after sent).afterAll rest).asked = _
      rw [ih]
      simp [after]

theorem along_append (property : Traffic → Sent → Prop) (traffic : Traffic) (first rest : List Sent) :
    Along property traffic (first ++ rest) ↔
      Along property traffic first ∧ Along property (traffic.afterAll first) rest := by
  induction first generalizing traffic with
  | nil => simp [Along, afterAll]
  | cons sent tail ih =>
      simp only [List.cons_append, Along, ih, and_assoc]
      rfl

theorem along_mono {narrow wide : Traffic → Sent → Prop} (within : ∀ traffic sent, narrow traffic sent → wide traffic sent)
    (traffic : Traffic) (sends : List Sent) (along : Along narrow traffic sends) : Along wide traffic sends := by
  induction sends generalizing traffic with
  | nil => trivial
  | cons sent rest ih => exact ⟨within _ _ along.1, ih _ along.2⟩

theorem along_of_all {property : Sent → Prop} (traffic : Traffic) (sends : List Sent) :
    Along (fun _ sent => property sent) traffic sends ↔ ∀ sent ∈ sends, property sent := by
  induction sends generalizing traffic with
  | nil => simp [Along]
  | cons sent rest ih => simp [Along, ih]

end Traffic

def Sent.posted (channel : Channel) (message : Message) (extra : Ordered String) (url : Url) (traffic : Traffic) :
    Sent :=
  { request := Http.requestOf url
      { method := "POST"
        headers := channel.headersFor extra (channel.credentials.jar.bind traffic.cookies?)
        body := some (Json.write message.body)
        timeout := channel.timeout }
    jar := channel.credentials.jar }

def Sent.fetched (url : Url) : Sent := ⟨Http.requestOf url { headers := [("Accept", "text/xml")] }, none⟩

def Sent.IsFetch (_ : Traffic) (sent : Sent) : Prop := ∃ url, sent = Sent.fetched url

theorem modify_take_unchanged (jars : List CookieJar) (number : Nat) (settings : List String)
    (same : settings.foldl Cookie.apply (jars.getD number {}).cookies = (jars.getD number {}).cookies) :
    jars.modify number (CookieJar.take settings) = jars := by
  -- There may be no jar of that number, so the induction is on the jars.
  induction jars generalizing number with
  | nil => simp
  | cons jar rest ih =>
      cases number with
      | zero =>
          have kept : settings.foldl Cookie.apply jar.cookies = jar.cookies := same
          simp [CookieJar.take, kept]
      | succ before => simpa using ih before (by simpa using same)

theorem modify_take_changed (jars : List CookieJar) (number : Nat) (settings : List String) :
    jars.modify number (fun jar => { jar with cookies := settings.foldl Cookie.apply (jars.getD number {}).cookies }) =
      jars.modify number (CookieJar.take settings) := by
  induction jars generalizing number with
  | nil => simp
  | cons jar rest ih =>
      cases number with
      | zero => simp [CookieJar.take]
      | succ before => simpa using ih before

end DeviceLogin
