import DeviceLogin.Proofs.Act.Agreement
import DeviceLogin.Proofs.CommandMap.Course
import DeviceLogin.Proofs.Login.Interruptions

set_option autoImplicit false

namespace DeviceLogin

open Act Service

def Service.SameButKeys (refusals other : Refusals) : Prop :=
  ∀ method, method ≠ CommandMap.keysMethod → SameFor method refusals other

abbrev SameService : Scene Site → Scene Site → Prop := Scene.Alike (fun site twin => site.service = twin.service) Eq

theorem Agreeing.same {σ α : Type} (step : StateM σ α) : Agreeing Eq step step := by
  rintro state _ rfl
  exact ⟨rfl, rfl⟩

theorem Act.Agrees.same {σ α : Type} (act : Act σ α) : Agrees Eq act act := by
  rintro state _ rfl
  exact ⟨rfl, rfl⟩

namespace CommandMap

theorem write_result (scope : String) (settings : Settings) (refusals : Refusals) (parent : Logger) (scene : Scene Site) :
    ((write scope settings refusals parent).perform scene).1.map (fun _ => ()) =
      match place? settings with
      | none => .ok ()
      | some path => ((World.fileExists path).perform scene.world).1.map fun _ => () := by
  cases place : place? settings with
  | none =>
      obtain ⟨message, ended⟩ := write_unplaced settings refusals parent scene id scope place
      rw [← write_amid_nobody, ended]
      rfl
  | some path =>
      dsimp only
      cases answered : scene.world.fault? .probe path with
      | some message =>
          obtain ⟨folder, file, one, two, rfl⟩ := place_named settings place
          have unanswered := World.file_exists_faulty answered
          simp only [write, one, two, perform_bind, Scene.onWorld, perform_inside, unanswered]
          rfl
      | none =>
          rw [World.file_exists_perform path scene.world answered]
          cases present : scene.world.files.occupied path with
          | true =>
              rw [← write_amid_nobody, write_present settings refusals parent scene id scope place answered present]
              rfl
          | false =>
              rw [← write_amid_nobody, write_absent settings refusals parent scene id scope place answered present]
              split <;> rfl

end CommandMap

namespace Provisioning

def readings (plan : Plan) : Act (Scene Site) Unit := do
  readSystem plan
  readInterface plan
  readNetwork plan

theorem run_result (plan : Plan) (scene : Scene Site) :
    ((run plan).perform scene).1 =
      match (readings plan).perform scene with
      | (.error failure, _) => .error failure
      | (.ok _, after) =>
          match CommandMap.place? plan.settings with
          | none => .ok ()
          | some path => ((World.fileExists path).perform after.world).1.map fun _ => () := by
  have parted : run plan = (readings plan >>= fun _ => writeMap plan >>= fun _ => pure ()) := by
    simp only [run, readings, bind_assoc]
  rw [parted, perform_bind]
  rcases (readings plan).perform scene with ⟨result, after⟩
  cases result with
  | error failure => rfl
  | ok _ =>
      have written := CommandMap.write_result plan.scope plan.settings plan.refusals plan.parent after
      dsimp only
      rw [← written, perform_bind, writeMap]
      rcases (CommandMap.write plan.scope plan.settings plan.refusals plan.parent).perform after with ⟨answer, last⟩
      cases answer <;> rfl

variable (plan : Plan) {other : Refusals} (same : SameButKeys plan.refusals other)

theorem offers_same (method : String) : Agrees SameService (Site.offers method) (Site.offers method) := by
  refine Agrees.get_bind fun scene twin alike => ?_
  have service : scene.focus.service = twin.focus.service := alike.focus
  rw [service]
  exact ⟨rfl, alike⟩

theorem say_same (message : String) : Agrees SameService (say plan message) (say (plan.refusing other) message) :=
  Agrees.always (Agreeing.in_world (Agreeing.same (plan.logger.debug message)))

theorem pushing_same (pairs : List (String × Option String)) :
    Agrees SameService (Scene.onWorld (pushAll pairs)) (Scene.onWorld (pushAll pairs)) :=
  (Agrees.same (pushAll pairs)).on_world

include same

theorem asking_same {method : String} (spared : method ≠ CommandMap.keysMethod) (params : List Json) :
    Agrees SameService (Site.onService (Service.ask plan.refusals method params))
      (Site.onService (Service.ask other method params)) := by
  rw [ask_same (same method spared)]
  have alike : Agrees (Scene.Alike Eq Eq) (Service.ask plan.refusals method params)
      (Service.ask plan.refusals method params) := by
    rintro ⟨_, _⟩ ⟨_, _⟩ ⟨rfl, rfl⟩
    exact ⟨rfl, rfl, rfl⟩
  exact alike.zoom (fun _ _ service => service) fun _ _ _ _ _ service => service

theorem ask_optional_same {method : String} (spared : method ≠ CommandMap.keysMethod) :
    Agrees SameService (askOptional plan method) (askOptional (plan.refusing other) method) := by
  refine (offers_same method).bind fun offered => Agrees.ite ((say_same plan _).bind fun _ => Agrees.pure _) ?_
  refine (asking_same plan same spared []).bind fun reply => ?_
  exact Agrees.ite ((say_same plan _).bind fun _ => Agrees.pure _) (Agrees.pure _)

theorem read_facts_same {method : String} (spared : method ≠ CommandMap.keysMethod) (shape : Shape) (facts : List Fact) :
    Agrees SameService (readFacts plan method shape facts) (readFacts (plan.refusing other) method shape facts) := by
  refine (ask_optional_same plan same spared).bind fun answer => ?_
  cases answer with
  | none => exact Agrees.pure ()
  | some reply =>
      cases accepted : Shape.accept? shape reply.first? with
      | none =>
          simp only [accepted]
          exact say_same plan _
      | some data =>
          simp only [accepted]
          exact pushing_same _

theorem first_setting_same (names : List String) :
    Agrees SameService (firstSetting plan names) (firstSetting (plan.refusing other) names) := by
  induction names with
  | nil => exact Agrees.pure none
  | cons netif rest ih =>
      refine (asking_same plan same (by decide) _).bind fun reply => ?_
      cases setting? reply with
      | none => exact ih
      | some setting => exact Agrees.pure _

theorem read_network_same : Agrees SameService (readNetwork plan) (readNetwork (plan.refusing other)) := by
  refine (offers_same networkMethod).bind fun offered => Agrees.ite (say_same plan _) ?_
  refine (first_setting_same plan same interfaces).bind fun found => ?_
  cases found with
  | none => exact say_same plan _
  | some setting => exact pushing_same _

theorem readings_same : Agrees SameService (readings plan) (readings (plan.refusing other)) :=
  (read_facts_same plan same (by decide) _ _).bind fun _ =>
    (read_facts_same plan same (by decide) _ _).bind fun _ => read_network_same plan same

theorem run_same {scene twin : Scene Site} (alike : SameService scene twin) :
    ((run plan).perform scene).1 = ((run (plan.refusing other)).perform twin).1 := by
  obtain ⟨result, after⟩ := readings_same plan same scene twin alike
  rw [run_result, run_result]
  generalize (readings plan).perform scene = mine at result after
  generalize (readings (plan.refusing other)).perform twin = yours at result after
  obtain ⟨value, here⟩ := mine
  obtain ⟨_, there⟩ := yours
  dsimp only at result after
  subst result
  have world : here.world = there.world := after.world
  cases value with
  | error failure => rfl
  | ok _ =>
      dsimp only
      rw [world]
      rfl

end Provisioning

namespace Login

def otherwise (login : Login) (refusals : Refusals) (source : CommandSource) : Login :=
  { login with refusals := refusals, source := source }

variable (login : Login) {client : Client} {accessControl system : Service} {other : Refusals}
  (same : SameButKeys login.refusals other) (source : CommandSource)

include same

theorem settle_same (accessControl system : Service) :
    (login.otherwise other source).settle accessControl system = login.settle accessControl system := by
  have probing : Probe.run other = Probe.run login.refusals := by
    unfold Probe.run
    rw [ask_same (same "getDeviceMode" (by decide)), ask_same (same "getPowerStatus" (by decide))]
  unfold settle
  dsimp only [otherwise]
  rw [probing]
  rfl

theorem provision_same (system : Service) (scene : Scene Client) :
    (((login.otherwise other source).provision system).perform scene).1 = ((login.provision system).perform scene).1 := by
  have alike : SameService ⟨⟨(scene.focus.service? system.name).getD system, login.source⟩, scene.world⟩
      ⟨⟨(scene.focus.service? system.name).getD system, source⟩, scene.world⟩ := ⟨rfl, rfl⟩
  exact (Provisioning.run_same login.plan same alike).symm

end Login

end DeviceLogin
