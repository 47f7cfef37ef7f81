import DeviceLogin.Proofs.Posting

set_option autoImplicit false

namespace DeviceLogin

open Act

def Channel.Muted (channel : Channel) : Prop := channel.credentials.autoAuth = false

theorem send_muted (channel : Channel) (message : Message) (extra : Ordered String) (world : World) (muted : channel.Muted) :
    (Channel.send message extra).perform ⟨channel, world⟩ =
      (.ok ((channel.post message extra).run world).1, ⟨channel, ((channel.post message extra).run world).2⟩) := by
  have off : channel.credentials.autoAuth = false := muted
  simp only [Channel.send, perform_bind, perform_get, perform_always, Scene.inWorld, off, Bool.false_and]
  rfl

def Sent.Over (channel : Channel) (calls : Call → Prop) (traffic : Traffic) (sent : Sent) : Prop :=
  ∃ call url, calls call ∧ Url.read? channel.url = some url ∧ sent = Sent.posted channel call.message [] url traffic

theorem over_of_sends (channel : Channel) (calls : Call → Prop) (call : Call) (known : calls call) (traffic : Traffic)
    (sent : Sent) (member : sent ∈ channel.sends call.message [] traffic) : Sent.Over channel calls traffic sent := by
  obtain ⟨url, read, rfl⟩ : ∃ url, Url.read? channel.url = some url ∧
      Sent.posted channel call.message [] url traffic = sent := by
    simpa [Channel.sends] using member
  exact ⟨call, url, known, read, rfl⟩

def Call.Of (method : String) (params : List Json) (call : Call) : Prop := call.method = method ∧ call.params = params

namespace Service

theorem execute_lacking (service : Service) (method : String) (params : List Json) (world : World)
    (lacks : service.lacks method = true) :
    (execute method params).perform ⟨service, world⟩ = (.ok (Reply.notImplemented method), ⟨service, world⟩) := by
  simp only [execute, perform_bind, perform_get, lacks, if_true, perform_pure]

theorem execute_sent (service : Service) (method : String) (params : List Json) {world : World}
    {result : Except Failure Http.Response} {after : Scene Channel} (reaches : service.lacks method = false)
    (sent : (Channel.send (service.nextCall method params).1.message).perform ⟨service.channel, world⟩ = (result, after)) :
    (execute method params).perform ⟨service, world⟩ =
      (result.map Reply.ofResponse,
        ⟨{ service with channel := after.focus, lastId := service.lastId + 1 }, after.world⟩) := by
  simp only [nextCall] at sent
  simp only [execute, perform_bind, perform_get, reaches, Bool.false_eq_true, if_false, perform_set, onChannel, Scene.zoom,
    perform_inside, nextCall, sent]
  cases result <;> rfl

theorem execute_muted (service : Service) (method : String) (params : List Json) (world : World)
    (muted : service.channel.Muted) :
    (execute method params).perform ⟨service, world⟩ =
      if service.lacks method then (.ok (Reply.notImplemented method), ⟨service, world⟩)
      else
        let posted := (service.channel.post (service.nextCall method params).1.message []).run world
        (.ok (Reply.ofResponse posted.1), ⟨{ service with lastId := service.lastId + 1 }, posted.2⟩) := by
  split
  · next lacks => exact execute_lacking service method params world lacks
  · next reaches =>
    exact execute_sent service method params (Bool.eq_false_iff.mpr reaches) (send_muted service.channel _ [] world muted)

-- A service as it was but for the number of its last call, in a world of which the invariant holds.
structure At (service : Service) (inv : World → Prop) (scene : Scene Service) : Prop where
  same : ∃ number, scene.focus = { service with lastId := number }
  world : inv scene.world

def Refused (refusals : Refusals) (name : String) (after : World) (failure : Failure) : Prop :=
  ∃ method params, refusals after.asked name method params = some failure

variable {inv : World → Prop}

theorem execute_keeps (service : Service) (method : String) (params : List Json) (muted : service.channel.Muted)
    (posting : ∀ call : Call, call.Of method params → Holding inv (service.channel.post call.message [])) :
    Keeps (At service inv) (fun _ _ => False) (execute method params) := by
  intro scene there
  obtain ⟨number, same⟩ := there.same
  obtain ⟨focus, world⟩ := scene
  subst same
  rw [execute_muted { service with lastId := number } method params world muted]
  split
  · exact ⟨there, fun failure failed => nomatch failed⟩
  · exact ⟨⟨⟨number + 1, rfl⟩, posting _ ⟨rfl, rfl⟩ world there.world⟩, fun failure failed => nomatch failed⟩

theorem ask_keeps (service : Service) (refusals : Refusals) (method : String) (params : List Json)
    (muted : service.channel.Muted)
    (posting : ∀ call : Call, call.Of method params → Holding inv (service.channel.post call.message [])) :
    Keeps (At service inv) (fun scene => Refused refusals service.name scene.world) (ask refusals method params) := by
  refine Keeps.get_bind fun scene there => ?_
  obtain ⟨number, same⟩ := there.same
  cases found : refusals scene.world.asked scene.focus.name method params with
  | none =>
      obtain ⟨kept, failing⟩ := execute_keeps service method params muted posting scene there
      exact ⟨kept, fun failure failed => False.elim (failing failure failed)⟩
  | some failure =>
      refine ⟨there, fun other failed => ?_⟩
      cases failed
      rw [same] at found
      exact ⟨method, params, found⟩

abbrev Around (service : Service) (allowed : Traffic → Sent → Prop) (start : World) : Scene Service → Prop :=
  At service (World.Reached allowed start)

theorem posting_reached {service : Service} {allowed : Traffic → Sent → Prop} {start : World} {calls : Call → Prop}
    (within : ∀ traffic sent, Sent.Over service.channel calls traffic sent → allowed traffic sent) (call : Call)
    (known : calls call) : Holding (World.Reached allowed start) (service.channel.post call.message []) := by
  intro world reached
  refine World.reached_trans reached (World.reached_mono ?_ (Channel.post_reached service.channel _ [] world).1)
  exact fun traffic sent member => within traffic sent (over_of_sends _ _ call known _ _ member)

end Service

end DeviceLogin
