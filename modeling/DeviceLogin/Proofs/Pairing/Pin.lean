import DeviceLogin.Proofs.Login.Settling
import DeviceLogin.Proofs.Pairing.Device
import DeviceLogin.Proofs.Retrying
import DeviceLogin.Proofs.Text.Base64

set_option autoImplicit false

namespace DeviceLogin

open Act

namespace Pairing

theorem basic_text (pin : String) :
    basic pin = "Basic " ++ String.ofList (Text.Base64.digits (Text.utf8 (":" ++ pin))) := rfl

theorem basic_injective : Function.Injective basic := by
  intro one two same
  have read := congrArg Http.readBasic? same
  rw [Http.read_basic, Http.read_basic] at read
  exact congrArg Prod.snd (Option.some.inj read)

theorem posted_pin {channel : Channel} {clientId pin : String} {url : Url} {before after : World} {request : Http.Request}
    {answer : Http.Response}
    (posted : channel.Posted (message clientId) (headers (some pin)) url before request answer after) :
    request.calls "actRegister" ∧ request.headers.get? "Authorization" = some (basic pin) := by
  refine ⟨?_, ?_⟩
  · rw [posted.made]
    exact Http.calls_of_body _ _ _ rfl
  · rw [posted.header "Authorization" (by decide)]
    rfl

theorem request_course (service : Service) (clientId : String) (jar : Nat) (parent : Logger) (pin : Option String)
    (world : World) :
    ∃ result final, (service.carrying (·.withJar jar)).channel.Course (message clientId) (headers pin) world result final ∧
      World.Logged final.world ((request clientId jar parent pin).perform ⟨service, world⟩).2.world := by
  have course := (service.carrying (·.withJar jar)).channel.send_course (message clientId) (headers pin) world
  rcases sent : (Channel.send (message clientId) (headers pin)).perform ⟨(service.carrying (·.withJar jar)).channel, world⟩
    with ⟨result, final⟩
  rw [sent] at course
  refine ⟨result, final, course, ?_⟩
  cases result with
  | ok response =>
      obtain ⟨told, logged, ended⟩ := request_answered service clientId jar parent pin sent
      rw [ended]
      exact logged
  | error failure =>
      have ended : ((request clientId jar parent pin).perform ⟨service, world⟩).2.world = final.world := by
        simp only [Service.carrying, Service.changeChannel] at sent
        simp only [request, perform_bind, perform_modify, perform_ensuring, Service.onChannel, Scene.zoom, perform_inside,
          Scene.change, Service.changeChannel, sent]
      rw [ended]
      exact logged_refl _

end Pairing

namespace Login

theorem pair_asked (login : Login) (client : Client) (accessControl service : Service) (code : String) (url : Url)
    (world : World) (given : login.settings.HasCode code) (pin : Settings.isRequest code = false)
    (known : client.service? accessControl.name = some service) (muted : service.channel.Muted)
    (read : Url.read? service.channel.url = some url) :
    ∃ request, ((login.pair accessControl).perform ⟨client, world⟩).2.world.asked = world.asked ++ [request] ∧
      request.calls "actRegister" ∧ request.headers.get? "Authorization" = some (Pairing.basic code) := by
  have present := (present_iff login.settings code).mpr given
  have requests : login.settings.requestsPin = false := by simp [Settings.requestsPin, given.1, pin]
  obtain ⟨outcome, after, requested, response, posted, sent, -, logged⟩ :=
    request_perform login service world muted (some code)
  have post := (service.carrying (·.withJar login.jar)).channel.post_posted (Pairing.message login.settings.client)
    (Pairing.headers (some code)) world read
  rw [sent] at post
  have asked : after.asked = posted.asked := congrArg Traffic.asked (logged_traffic logged)
  have ended : ((login.pair accessControl).perform ⟨client, world⟩).2.world.asked = after.asked := by
    simp only [pair, present, requests, perform_bind, Client.on_service_perform _ _ _ _ _ known, Bool.false_eq_true, if_false,
      requested]
    split <;> rfl
  exact ⟨_, by rw [ended, asked, post.asked], Pairing.posted_pin post⟩

end Login

-- A PIN gets to the device as it is. The header that holds it is the word Basic and a text of the alphabet of Base64,
-- padded as it has to be, which stands for the bytes of a colon and the PIN: no user, and behind the first colon the PIN. No
-- two PINs have one header. Each time that a registration sends its message, over whatever channel and also when it has
-- to be sent again, the message carries this header, and but for what is done to get new credentials nothing else is sent.
-- The PIN of a login is the access code, unless that asks for a PIN.
theorem pin_arrives_whole :
    (∀ pin, ∃ text, Pairing.basic pin = "Basic " ++ String.ofList text ∧ Text.Base64.Padded text ∧
      Text.Base64.decode? text = some (Text.utf8 (":" ++ pin)) ∧ Http.readBasic? (Pairing.basic pin) = some ("", pin)) ∧
    Function.Injective Pairing.basic ∧
    (∀ (clientId pin : String) (channel : Channel) (url : Url) (world : World), Url.read? channel.url = some url →
      ∃ request answer after,
        channel.Posted (Pairing.message clientId) (Pairing.headers (some pin)) url world request answer after ∧
          request.calls "actRegister" ∧ request.headers.get? "Authorization" = some (Pairing.basic pin)) ∧
    (∀ (clientId pin : String) (jar : Nat) (parent : Logger) (service : Service) (world : World),
      ∃ result final,
        (service.carrying (·.withJar jar)).channel.Course (Pairing.message clientId) (Pairing.headers (some pin)) world
          result final ∧
        World.Logged final.world ((Pairing.request clientId jar parent (some pin)).perform ⟨service, world⟩).2.world) ∧
    ∀ (login : Login) (client : Client) (accessControl service : Service) (code : String) (url : Url) (world : World),
      login.settings.HasCode code → Settings.isRequest code = false →
      client.service? accessControl.name = some service → service.channel.Muted →
      Url.read? service.channel.url = some url →
        ∃ request, ((login.pair accessControl).perform ⟨client, world⟩).2.world.asked = world.asked ++ [request] ∧
          request.calls "actRegister" ∧ request.headers.get? "Authorization" = some (Pairing.basic code) := by
  refine ⟨fun pin => ?_, Pairing.basic_injective, ?_, ?_, ?_⟩
  · exact ⟨_, Pairing.basic_text pin, Text.Base64.digits_padded _, Text.Base64.decode_digits _, Http.read_basic pin⟩
  · intro clientId pin channel url world read
    have posted := channel.post_posted (Pairing.message clientId) (Pairing.headers (some pin)) world read
    exact ⟨_, _, _, posted, Pairing.posted_pin posted⟩
  · exact fun clientId pin jar parent service world => Pairing.request_course service clientId jar parent (some pin) world
  · exact fun login client accessControl service code url world => login.pair_asked client accessControl service code url world

example : Pairing.basic "1:2 é" = "Basic OjE6MiDDqQ==" := by decide +kernel

theorem pin_arrives_whole_odd :
    let service : Service :=
      { name := "accessControl", channel := { url := "http://tv/sony/accessControl", credentials := { autoAuth := false } } }
    let login : Login :=
      { settings := { deviceAddress := .text "http://tv/sony", accessCode := .text "1:2 é" }, logger := {}, jar := 0 }
    let world : World := { device := fun _ _ => .timedOut }
    login.settings.HasCode "1:2 é" ∧ Settings.isRequest "1:2 é" = false ∧
      ∃ request, ((login.pair service).perform ⟨Client.ofServices [service], world⟩).2.world.asked = [request] ∧
        request.headers.get? "Authorization" = some "Basic OjE6MiDDqQ==" := by
  intro service login world
  have given : login.settings.HasCode "1:2 é" := ⟨rfl, by decide +kernel⟩
  have pin : Settings.isRequest "1:2 é" = false := by
    have opening : (Text.lowerAfter [] "1:2 é".toList).head? = some '1' := rfl
    rw [Settings.isRequest, Text.sameCaseless, beq_eq_false_iff_ne]
    intro same
    have first := congrArg (fun text => text.toList.head?) same
    simp only [Text.lowercase, String.toList_ofList, opening] at first
    exact absurd first (by decide +kernel)
  obtain ⟨url, read⟩ : ∃ url, Url.read? service.channel.url = some url := Option.isSome_iff_exists.mp (by decide +kernel)
  obtain ⟨request, asked, -, header⟩ := pin_arrives_whole.2.2.2.2 login (Client.ofServices [service]) service service "1:2 é"
    url world given pin rfl rfl read
  have text : Pairing.basic "1:2 é" = "Basic OjE6MiDDqQ==" := by decide +kernel
  exact ⟨given, pin, request, asked, text ▸ header⟩

end DeviceLogin
