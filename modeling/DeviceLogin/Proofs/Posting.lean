import DeviceLogin.Proofs.Lookups
import DeviceLogin.Proofs.Reached
import DeviceLogin.Service

set_option autoImplicit false

namespace DeviceLogin

open Act

def Traffic.Silent : Traffic → Sent → Prop := fun _ _ => False

theorem silent_traffic {start now : World} (reached : World.Reached Traffic.Silent start now) :
    now.traffic = start.traffic := by
  obtain ⟨sends, traffic, along⟩ := reached.traffic
  cases sends with
  | nil => exact traffic
  | cons sent rest => exact False.elim along.1

namespace World

variable {allowed : Traffic → Sent → Prop}

theorem store_cookies_run (number : Nat) (settings : List String) (world : World) :
    ((storeCookies number settings).run world).2 =
      if (Cookie.applyAll (world.jar number).cookies settings).2 then
        ((saveJar number).run
          { world with
            jars := world.jars.modify number
              fun jar => { jar with cookies := (Cookie.applyAll (world.jar number).cookies settings).1 } }).2
      else world := by
  simp only [storeCookies, StateT.run_bind, StateT.run_get, pure_bind]
  cases (Cookie.applyAll (world.jar number).cookies settings).2 <;> rfl

theorem store_cookies_reached (number : Nat) (settings : List String) (world : World) :
    Reached allowed { world with jars := world.jars.modify number (CookieJar.take settings) }
      ((storeCookies number settings).run world).2 := by
  rw [store_cookies_run]
  split
  · rw [Cookie.apply_all_held, jar, modify_take_changed]
    exact save_jar_reached number _ (reached_refl allowed _)
  · next same =>
      have kept := Cookie.apply_all_unchanged (world.jar number).cookies settings (by simpa using same)
      rw [modify_take_unchanged world.jars number settings kept]
      exact reached_refl allowed world

theorem store_cookies_jars (number : Nat) (settings : List String) (world : World) :
    ((storeCookies number settings).run world).2.jars = world.jars.modify number (CookieJar.take settings) :=
  congrArg Traffic.jars (silent_traffic (store_cookies_reached number settings world))

theorem jar_modified {number : Nat} {world after : World} {change : CookieJar → CookieJar} (opened : number < world.jars.length)
    (jars : after.jars = world.jars.modify number change) : after.jar number = change (world.jar number) := by
  simp [jar, jars, List.getD_eq_getElem?_getD, List.getElem?_eq_getElem opened]

def asking (request : Http.Request) (world : World) : World :=
  { world with asked := world.asked ++ [request], trace := world.trace ++ [.requested request] }

theorem request_bad_address (address : String) (order : Http.Order) (world : World) (bad : Url.read? address = none) :
    (request address order).perform world = (.error .badAddress, world) := by
  rw [request, bad]
  rfl

theorem request_sent (address : String) (order : Http.Order) (world : World) (url : Url)
    (read : Url.read? address = some url) :
    (request address order).perform world =
      (match (world.answers world.asked (Http.requestOf url order)).outcome address
          (order.timeout.getD Http.defaultTimeout) with
        | .ok response => .ok response
        | .error message => .error (.error message),
        asking (Http.requestOf url order) world) := by
  rw [request, read]
  simp only [perform_bind, perform_always]
  have sent : (exchange (Http.requestOf url order)).run world =
      (world.answers world.asked (Http.requestOf url order), asking (Http.requestOf url order) world) := rfl
  rw [sent]
  cases (world.answers world.asked (Http.requestOf url order)).outcome address
    (order.timeout.getD Http.defaultTimeout) <;> rfl

theorem fetch_reached (address : String) (world : World) :
    Reached Sent.IsFetch world
      ((request address { headers := [("Accept", "text/xml")] }).perform world).2 := by
  cases read : Url.read? address with
  | none =>
      rw [request_bad_address _ _ _ read]
      exact reached_refl _ world
  | some url =>
      rw [request_sent _ _ _ url read]
      exact ⟨rfl, rfl, ⟨[Sent.fetched url], rfl, ⟨url, rfl⟩, trivial⟩, ⟨[.requested _], rfl, by simp [Event.ordinary]⟩⟩

end World

namespace Channel

def sends (channel : Channel) (message : Message) (extra : Ordered String) (traffic : Traffic) : List Sent :=
  ((Url.read? channel.url).map fun url => Sent.posted channel message extra url traffic).toList

def setting? (channel : Channel) (extra : Ordered String) (name : String) : Option String :=
  (extra.last? name).or ((channel.credentials.headers.last? name).or
    (Ordered.get? [("Content-Type", "application/json; charset=UTF-8"), ("Accept", "application/json")] name))

theorem get_headers_for (channel : Channel) (extra : Ordered String) (cookies : Option String) (name : String) :
    (channel.headersFor extra cookies).get? name =
      if name = "Cookie" then cookies.or (channel.setting? extra name) else channel.setting? extra name := by
  cases cookies with
  | none => simp only [headersFor, Ordered.get_put_all_last, setting?, Option.none_or, ite_self]
  | some value =>
      simp only [headersFor, Ordered.get_put, Ordered.get_put_all_last, setting?, Option.some_or, @eq_comm _ name "Cookie"]

theorem take_nothing (jars : List CookieJar) (number : Nat) :
    jars.modify number (CookieJar.take []) = jars := by
  have same : (CookieJar.take [] : CookieJar → CookieJar) = id := rfl
  rw [same, List.modify_id]

theorem keep_reached (channel : Channel) (response : Http.Response) (world : World) :
    World.Reached Traffic.Silent
      { world with
        jars :=
          match channel.credentials.jar with
          | some number => world.jars.modify number (CookieJar.take (World.settingsIn response.headers))
          | none => world.jars }
      ((channel.keep response).run world).2 := by
  rw [keep]
  cases channel.credentials.jar with
  | none => exact World.reached_refl _ world
  | some number => exact World.store_cookies_reached number _ world

theorem post_run (channel : Channel) (message : Message) (extra : Ordered String) (world : World) :
    (channel.post message extra).run world =
      match (World.request channel.url (channel.order message extra world)).perform world with
      | (.ok response, after) => (response, ((channel.keep response).run after).2)
      | (.error failure, after) =>
          (unavailable failure.message,
            ((channel.logger.debug (message.method ++ " failed: " ++ failure.message)
              { service := some channel.url }).run after).2) := by
  simp only [post, StateT.run_bind, StateT.run_get, pure_bind, perform]
  cases ((World.request channel.url (channel.order message extra world)).run).run world with
  | mk result after => cases result <;> rfl

theorem jars_after_posted (channel : Channel) (message : Message) (extra : Ordered String) (world : World) (url : Url) :
    (world.traffic.after (Sent.posted channel message extra url world.traffic)).jars =
      match channel.credentials.jar with
      | some number => world.jars.modify number (CookieJar.take
          (world.answers world.asked (Http.requestOf url (channel.order message extra world))).settings)
      | none => world.jars := rfl

theorem asking_reached (channel : Channel) (message : Message) (extra : Ordered String) (world : World) (url : Url)
    (read : Url.read? channel.url = some url) (after : World) (jars : List CookieJar)
    (stored : jars = (world.traffic.after (Sent.posted channel message extra url world.traffic)).jars)
    (quiet : World.Reached Traffic.Silent
      { World.asking (Sent.posted channel message extra url world.traffic).request world with jars := jars } after) :
    World.Reached (fun traffic sent => sent ∈ channel.sends message extra traffic) world after ∧
      after.traffic = world.traffic.afterAll (channel.sends message extra world.traffic) := by
  have only : channel.sends message extra world.traffic = [Sent.posted channel message extra url world.traffic] := by
    simp [sends, read]
  have traffic : after.traffic = world.traffic.afterAll (channel.sends message extra world.traffic) := by
    rw [silent_traffic quiet, only, stored]
    rfl
  obtain ⟨events, trace, ordinary⟩ := quiet.trace
  refine ⟨⟨quiet.faults, quiet.refusals, ⟨_, traffic, ?_⟩, ⟨.requested (Sent.posted channel message extra url world.traffic).request :: events, ?_, ?_⟩⟩,
    traffic⟩
  · rw [only]
    exact ⟨by simp [only], trivial⟩
  · rw [trace]
    simp [World.asking]
  · simpa [Event.ordinary] using ordinary

theorem post_reached (channel : Channel) (message : Message) (extra : Ordered String) (world : World) :
    World.Reached (fun traffic sent => sent ∈ channel.sends message extra traffic) world
        ((channel.post message extra).run world).2 ∧
      ((channel.post message extra).run world).2.traffic =
        world.traffic.afterAll (channel.sends message extra world.traffic) := by
  rw [post_run]
  cases read : Url.read? channel.url with
  | none =>
      have quiet : World.Reached Traffic.Silent world
          ((channel.logger.debug (message.method ++ " failed: " ++ Failure.badAddress.message)
            { service := some channel.url }).run world).2 :=
        World.debug_reached _ _ _ world (World.reached_refl _ world)
      have none : channel.sends message extra world.traffic = [] := by simp [sends, read]
      rw [World.request_bad_address _ _ _ read, none]
      exact ⟨World.reached_mono (fun _ _ never => False.elim never) quiet, silent_traffic quiet⟩
  | some url =>
      rw [World.request_sent _ _ _ url read]
      -- A failed exchange takes no cookies, and taking none leaves the jars as they are.
      cases outcome : (world.answers world.asked (Http.requestOf url (channel.order message extra world))).outcome
          channel.url ((channel.order message extra world).timeout.getD Http.defaultTimeout) with
      | ok response =>
          have settings : (world.answers world.asked (Http.requestOf url (channel.order message extra world))).settings =
              World.settingsIn response.headers := by
            rw [Http.Exchange.settings, (Http.outcome_ok_iff _ _ _ _).mp outcome]
          refine asking_reached channel message extra world url read _ _ ?_ (keep_reached channel response _)
          rw [jars_after_posted, settings]
          rfl
      | error failed =>
          refine asking_reached channel message extra world url read _ world.jars ?_
            (World.debug_reached channel.logger _ _ _ (World.reached_refl _ _))
          have settings : (world.answers world.asked (Http.requestOf url (channel.order message extra world))).settings =
              [] := by
            rw [Http.Exchange.settings, Http.outcome_error _ _ _ _ outcome]
          rw [jars_after_posted, settings]
          cases channel.credentials.jar with
          | none => rfl
          | some number => exact (take_nothing world.jars number).symm

end Channel

end DeviceLogin
