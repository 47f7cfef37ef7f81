import DeviceLogin.Proofs.Connecting

set_option autoImplicit false

namespace DeviceLogin

open Act

def MethodTable.ofItems (items : List Json) : MethodTable := ofReply { status := 200, results := some items }

-- An envelope without an error, with a list in its `result`, or else in its `results`.
structure Http.Lists (body : String) (members : List (String × Json)) (items : List Json) : Prop where
  read : Json.read? body = some (.obj members)
  tidy : Reply.isEnvelope members = true
  sound : ∀ codes, Ordered.get? members "error" = some (.arr codes) → codes = []
  listed : Ordered.get? members "result" = some (.arr items) ∨
    Ordered.get? members "result" = none ∧ Ordered.get? members "results" = some (.arr items)

namespace Reply

variable {status : Number} {body : String}

theorem of_body_lists {members : List (String × Json)} {items : List Json} (lists : Http.Lists body members items) :
    ofBody status body = { status := status, results := some items } := by
  have unfaulted := (faultless_iff members).mpr lists.sound
  rw [of_body_envelope status body members lists.read lists.tidy, ofEnvelope, Json.member?, unfaulted]
  rcases lists.listed with result | ⟨none, results⟩
  · simp [Json.member?, result, items?]
  · simp [Json.member?, none, results, items?]

theorem lists_of_envelope {members : List (String × Json)} {items : List Json} (read : Json.read? body = some (.obj members))
    (tidy : isEnvelope members = true) (found : (ofEnvelope status (.obj members)).results = some items) :
    Http.Lists body members items := by
  rw [ofEnvelope, Json.member?] at found
  split at found
  · cases found
  · next unfaulted =>
    refine ⟨read, tidy, (faultless_iff members).mp unfaulted, ?_⟩
    simp only [isEnvelope, Bool.and_eq_true] at tidy
    obtain ⟨⟨⟨-, resultList⟩, resultsList⟩, -⟩ := tidy
    simp only [Json.member?] at found
    -- The members are lists if they are there, so the first of them that is there has been taken.
    rcases result : Ordered.get? members "result" with _ | value
    · rcases results : Ordered.get? members "results" with _ | value
      · simp [result, results] at found
      · rw [results] at resultsList
        cases value with
        | arr others => simpa [result, results, items?] using found
        | _ => cases resultsList
    · rw [result] at resultList
      cases value with
      | arr others => simpa [result, items?] using found
      | _ => cases resultList

theorem lists_of_results {items : List Json} (found : (ofBody status body).results = some items) :
    ∃ members, Http.Lists body members items := by
  by_cases envelope : ∃ members, Json.read? body = some (.obj members) ∧ isEnvelope members = true
  · obtain ⟨members, read, tidy⟩ := envelope
    rw [of_body_envelope status body members read tidy] at found
    exact ⟨members, lists_of_envelope read tidy found⟩
  · have other : ∀ members, Json.read? body = some (.obj members) → isEnvelope members = false :=
      fun members read => Bool.eq_false_iff.mpr fun tidy => envelope ⟨members, read, tidy⟩
    rw [of_body_other status body other] at found
    exact nomatch found

end Reply

namespace Service

def told (service : Service) (channel : Channel) (response : Http.Response) : Service :=
  let reply := Reply.ofResponse response
  { name := service.name
    channel := channel
    methods := if reply.isError then none else some (MethodTable.ofReply reply) }

theorem load_sent (service : Service) {world : World} {response : Http.Response} {after : Scene Channel}
    (sent : (Channel.send listing).perform ⟨service.channel, world⟩ = (.ok response, after)) :
    load.perform ⟨service, world⟩ = (.ok (Reply.ofResponse response), ⟨service.told after.focus response, after.world⟩) := by
  have read := read_methods_sent service.name sent
  simp only [load, perform_bind, perform_get, onChannel, Scene.zoom, perform_inside, read]
  rfl

theorem told_error_iff (response : Http.Response) :
    (Reply.ofResponse response).isError = false ↔ response.status = 200 ∧ (Reply.ofResponse response).fault = none := by
  rw [Reply.isError, Reply.status_of_response]
  simp [and_comm]

theorem told_knows_iff (service : Service) (channel : Channel) (response : Http.Response) :
    (service.told channel response).knowsMethods = true ↔
      response.status = 200 ∧ (Reply.ofResponse response).fault = none := by
  rw [← told_error_iff]
  cases failed : (Reply.ofResponse response).isError <;> simp [knowsMethods, told, failed]

theorem told_known (service : Service) (channel : Channel) (response : Http.Response)
    (known : (service.told channel response).knowsMethods = true) :
    (service.told channel response).methods = some (MethodTable.ofReply (Reply.ofResponse response)) := by
  have fine := (told_error_iff response).mpr ((told_knows_iff service channel response).mp known)
  simp [told, fine]

inductive Used (start : Service) : Service → Prop
  | start : Used start start
  | executed {service : Service} {world : World} {method : String} {params : List Json} {result : Except Failure Reply}
      {after : Scene Service} (before : Used start service)
      (ended : (execute method params).perform ⟨service, world⟩ = (result, after)) : Used start after.focus
  | rechanneled {service : Service} (before : Used start service) (change : Channel → Channel) :
      Used start (service.changeChannel change)

theorem execute_methods (service : Service) (method : String) (params : List Json) (world : World) :
    ((execute method params).perform ⟨service, world⟩).2.focus.methods = service.methods := by
  cases lacks : service.lacks method with
  | true => rw [execute_lacking service method params world lacks]
  | false => rw [execute_sent service method params lacks rfl]

theorem used_methods {start service : Service} (used : Used start service) : service.methods = start.methods := by
  induction used with
  | start => rfl
  | @executed service world method params result after before ended ih =>
      have kept := execute_methods service method params world
      rw [ended] at kept
      exact kept.trans ih
  | rechanneled before change ih => exact ih

theorem of_reply_unlisted (response : Http.Response)
    (unlisted : ∀ members items, ¬ Http.Lists response.body members items) :
    MethodTable.ofReply (Reply.ofResponse response) = [] := by
  cases results : (Reply.ofResponse response).results with
  | none => simp [MethodTable.ofReply, results]
  | some items =>
      obtain ⟨members, lists⟩ := Reply.lists_of_results results
      exact absurd lists (unlisted members items)

-- What a service knows after an answer to its question for the methods, whatever the answer. It knows them if and only
-- if the answer has status 200 and no error. If the body of such an answer lists methods, it knows exactly those. If the
-- body lists none, though, because it is empty, no JSON or no envelope with a list, the service knows the methods to be
-- none at all, and from then on answers for every method itself, that none is there. As long as the methods are not
-- known, every call is sent over the channel, through all that is done with the service.
theorem load_knows_but (service : Service) (world : World) (response : Http.Response) (after : Scene Channel)
    (sent : (Channel.send listing).perform ⟨service.channel, world⟩ = (.ok response, after)) :
    ∃ loaded : Service, load.perform ⟨service, world⟩ = (.ok (Reply.ofResponse response), ⟨loaded, after.world⟩) ∧
      loaded.name = service.name ∧ loaded.channel = after.focus ∧
      (loaded.knowsMethods = true ↔ response.status = 200 ∧ (Reply.ofResponse response).fault = none) ∧
      (∀ members items, response.status = 200 → Http.Lists response.body members items →
        loaded.methods = some (MethodTable.ofItems items)) ∧
      (loaded.knowsMethods = true → (∀ members items, ¬ Http.Lists response.body members items) →
        loaded.methods = some [] ∧ ∀ later, Used loaded later → ∀ method params world, method ≠ listMethods →
          (execute method params).perform ⟨later, world⟩ = (.ok (Reply.notImplemented method), ⟨later, world⟩)) ∧
      (loaded.knowsMethods = false → ∀ later, Used loaded later → ∀ method params world result after,
        (Channel.send (later.nextCall method params).1.message).perform ⟨later.channel, world⟩ = (result, after) →
        (execute method params).perform ⟨later, world⟩ =
          (result.map Reply.ofResponse,
            ⟨{ later with channel := after.focus, lastId := later.lastId + 1 }, after.world⟩)) := by
  have knows := told_knows_iff service after.focus response
  refine ⟨service.told after.focus response, load_sent service sent, rfl, rfl, knows, ?_, ?_, ?_⟩
  · intro members items accepted lists
    have made : Reply.ofResponse response = { status := response.status, results := some items } :=
      Reply.of_body_lists lists
    have known := told_known service after.focus response (knows.mpr ⟨accepted, by rw [made]⟩)
    rw [known, made, accepted, MethodTable.ofItems]
  · intro known unlisted
    have methods := told_known service after.focus response known
    rw [of_reply_unlisted response unlisted] at methods
    refine ⟨methods, fun later used method params world other => ?_⟩
    refine execute_lacking later method params world ?_
    have none := (used_methods used).trans methods
    simp [lacks, knowsMethods, offers, none, other, Ordered.has, Ordered.get?]
  · intro unknown later used method params world result after sent
    refine execute_sent later method params ?_ sent
    have unknown : later.knowsMethods = false := by rw [knowsMethods, used_methods used]; exact unknown
    simp [lacks, unknown]

theorem load_knows_but_unanswered :
    let service : Service := { name := "system", channel := { url := "http://tv/sony/system" } }
    let world : World := { device := fun _ _ => .timedOut }
    ∃ reply loaded after, load.perform ⟨service, world⟩ = (.ok reply, ⟨loaded, after⟩) ∧ loaded.knowsMethods = false ∧
      ∀ response sent, (Channel.send (loaded.nextCall "getPowerStatus" []).1.message).perform ⟨loaded.channel, after⟩ =
          (.ok response, sent) →
        ((execute "getPowerStatus" []).perform ⟨loaded, after⟩).1 = .ok (Reply.ofResponse response) := by
  intro service world
  rcases posted : (service.channel.post listing []).run world with ⟨response, after⟩
  have unavailable : ((service.channel.post listing []).run world).1.status ≠ 200 := by decide +kernel
  rw [posted] at unavailable
  have sent := Channel.send_once service.channel listing [] world posted fun _ asks => Option.some_ne_none _ asks.2.2.symm
  obtain ⟨loaded, ended, -, -, knows, -, -, sends⟩ := load_knows_but service world _ _ sent
  have unknown : loaded.knowsMethods = false := Bool.eq_false_iff.mpr fun known => unavailable (knows.mp known).1
  refine ⟨_, _, _, ended, unknown, fun response sent called => ?_⟩
  rw [sends unknown loaded .start "getPowerStatus" [] _ _ _ called]
  rfl

theorem load_knows_without_list :
    let device : List Http.Request → Http.Request → Http.Exchange := fun _ _ =>
      .answered { status := some 200, headers := [], chunks := [], streamError := none, truncated := false }
    let service : Service := { name := "system", channel := { url := "http://tv/sony/system" } }
    let world : World := { device := device }
    let answer := ((service.channel.post listing []).run world).1
    let loaded := (load.perform ⟨service, world⟩).2
    let called := (execute "getPowerStatus" []).perform loaded
    answer.status = 200 ∧ (∀ members items, ¬ Http.Lists answer.body members items) ∧ loaded.focus.knowsMethods = true ∧
      called.1.toOption.bind Reply.faultKind? = some .notImplemented ∧
      called.2.world.asked.length = loaded.world.asked.length := by
  intro device service world answer loaded called
  have empty : answer.body = "" := by decide +kernel +zetaReduce
  refine ⟨by decide +kernel +zetaReduce, fun members items lists => ?_, by decide +kernel +zetaReduce,
    by decide +kernel +zetaReduce, by decide +kernel +zetaReduce⟩
  have read := lists.read
  rw [empty, Reply.read_empty] at read
  exact nomatch read

end Service

end DeviceLogin
