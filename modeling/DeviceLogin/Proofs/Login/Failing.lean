import DeviceLogin.Proofs.Login.Decision
import DeviceLogin.Proofs.Login.Indifference

set_option autoImplicit false

namespace DeviceLogin

open Act Service

def Event.error? : Event → Option String
  | .logged .error line => some line
  | _ => none

namespace World

def errors (world : World) : List String := world.trace.filterMap Event.error?

theorem errors_onward {before after : World} (onward : before.Onward after) : after.errors = before.errors := by
  obtain ⟨events, trace, ordinary⟩ := onward.trace
  have none : events.filterMap Event.error? = [] := by
    refine List.filterMap_eq_nil_iff.mpr fun event member => ?_
    have plain := ordinary event member
    cases event with
    | logged level line => cases level <;> first | rfl | exact nomatch plain
    | _ => rfl
  rw [errors, trace, List.filterMap_append, none, List.append_nil]
  rfl

theorem record_errors (event : Event) (mild : event.error? = none) (lines : List String) :
    Holding (fun world => world.errors = lines) (record event) := by
  intro world same
  change (world.trace ++ [event]).filterMap Event.error? = lines
  rw [List.filterMap_append, List.filterMap_cons_none mild, List.filterMap_nil, List.append_nil]
  exact same

end World

theorem WakeOnLan.wake_errors (lines : List String) (parent : Logger) (target : Target) (ip mac : Option String) :
    Holding (fun world => world.errors = lines) (wake parent target ip mac) := by
  have debug (message : String) : Holding (fun world : World => world.errors = lines)
      ((parent.child (.about "Wake")).debug message) := World.record_errors _ rfl lines
  have sent (packet : List UInt8) : Holding (fun world : World => world.errors = lines) (broadcast target packet) := by
    refine Holding.get_bind fun world same => ?_
    cases plan : (world.sockets world.socketsOpened).bindError with
    | some message =>
        simp only [plan]
        exact World.record_errors _ rfl lines _ same
    | none =>
        simp only [plan]
        exact World.record_errors _ rfl lines _ same
  unfold wake
  cases Text.present? mac with
  | none => exact debug _
  | some mac =>
      dsimp only
      cases packet? mac with
      | none => exact debug _
      | some packet =>
          refine (sent packet).bind fun failure => ?_
          cases failure with
          | some message => exact debug _
          | none => exact debug _

namespace Login

theorem wake_errors (login : Login) (world : World) : (login.wake.perform world).2.errors = world.errors := by
  unfold wake
  cases login.waker with
  | packet target => exact WakeOnLan.wake_errors _ _ _ _ _ world rfl
  | supplied answer =>
      dsimp only
      cases answer login.settings.hostName? login.settings.macAddress? with
      | some failure => rfl
      | none => exact World.record_errors _ rfl _ world rfl

def reporting (login : Login) (stage : String) (thrown : Failure) (world : World) : World :=
  { world with trace := world.trace ++ [.logged .error (login.incidentLine stage thrown)] }

def ready (login : Login) (world : World) : World :=
  ((login.logger.debug "Scalar web device now connected").run world).2

variable (login : Login) {client : Client} {accessControl system : Service}

theorem guarded_reporting {σ α : Type} (stage : String) (act : Act (Scene σ) α) (scene : Scene σ) :
    (login.guarded stage act).perform scene =
      match act.perform scene with
      | (.ok value, after) => (.ok value, after)
      | (.error thrown, after) => (.error thrown.asError, ⟨after.focus, login.reporting stage thrown after.world⟩) := by
  rcases ended : act.perform scene with ⟨result, after⟩
  cases result with
  | ok value => exact guarded_value login stage act scene after value ended
  | error thrown =>
      obtain ⟨final, rfl, same⟩ := guarded_failure login stage act scene after thrown ended
      exact same

theorem run_perform (world : World) (offers : client.Offers accessControl system) :
    login.run.perform ⟨client, world⟩ =
      match login.wake.perform world with
      | (.error failure, after) => (.error failure, ⟨client.muted, after⟩)
      | (.ok _, woken) =>
          match (login.settle accessControl system).perform ⟨client.muted, woken⟩ with
          | (.error thrown, settled) =>
              (.error thrown.asError, ⟨settled.focus, login.reporting "authorize" thrown settled.world⟩)
          | (.ok outcome, settled) =>
              if outcome = .ok then
                match (login.provision system).perform ⟨settled.focus, login.ready settled.world⟩ with
                | (.error thrown, stopped) =>
                    (.error thrown.asError, ⟨stopped.focus, login.reporting "postLogin" thrown stopped.world⟩)
                | (.ok _, final) => (.ok .ok, final)
              else (.ok outcome, ⟨settled.focus,
                ((login.logger.info ("Login did not complete: " ++ outcome.describe)).run settled.world).2⟩) := by
  rw [run_found login client accessControl system world offers, proceed]
  simp only [perform_bind, Scene.onWorld, perform_inside, guarded_reporting]
  rcases login.wake.perform world with ⟨woke, woken⟩
  cases woke with
  | error failure => rfl
  | ok _ =>
      dsimp only
      rcases (login.settle accessControl system).perform ⟨client.muted, woken⟩ with ⟨result, settled⟩
      cases result with
      | error thrown => rfl
      | ok outcome =>
          dsimp only
          rw [conclude]
          by_cases accepted : outcome = .ok
          · simp only [accepted, if_true, perform_bind, perform_always, guarded_reporting]
            have noted : ((Scene.inWorld (login.logger.debug "Scalar web device now connected")).run settled).2 =
                ⟨settled.focus, login.ready settled.world⟩ := rfl
            rw [noted]
            rcases (login.provision system).perform ⟨settled.focus, login.ready settled.world⟩ with ⟨read, final⟩
            cases read <;> rfl
          · simp only [accepted, if_false]
            rfl

theorem run_same {other : Refusals} (same : SameButKeys login.refusals other) (source : CommandSource) (client : Client)
    (world : World) :
    ((login.otherwise other source).run.perform ⟨client, world⟩).1 = (login.run.perform ⟨client, world⟩).1 := by
  by_cases absent : client.service? "accessControl" = none ∨ client.service? "system" = none
  · rw [run_missing _ client world absent, run_missing _ client world absent]
  · obtain ⟨foundAccess, foundSystem⟩ := not_or.mp absent
    obtain ⟨accessControl, access⟩ := Option.ne_none_iff_exists'.mp foundAccess
    obtain ⟨system, about⟩ := Option.ne_none_iff_exists'.mp foundSystem
    have waked : (login.otherwise other source).wake = login.wake := rfl
    rw [run_perform _ world ⟨access, about⟩, run_perform _ world ⟨access, about⟩, settle_same login same source, waked]
    rcases login.wake.perform world with ⟨woke, woken⟩
    cases woke with
    | error failure => rfl
    | ok _ =>
        dsimp only
        rcases (login.settle accessControl system).perform ⟨client.muted, woken⟩ with ⟨result, settled⟩
        cases result with
        | error thrown => rfl
        | ok outcome =>
            by_cases accepted : outcome = .ok
            · simp only [accepted, if_true]
              have read := provision_same login same source system ⟨settled.focus, login.ready settled.world⟩
              have ready : (login.otherwise other source).ready settled.world = login.ready settled.world := rfl
              rw [ready]
              generalize ((login.otherwise other source).provision system).perform _ = yours at read
              generalize (login.provision system).perform ⟨settled.focus, login.ready settled.world⟩ = mine at read
              obtain ⟨value, there⟩ := yours
              obtain ⟨_, here⟩ := mine
              dsimp only at read
              subst read
              cases value <;> rfl
            · simp only [accepted, if_false]

section

variable {world woken : World} {settled : Scene Client} (offers : client.Offers accessControl system)
  (waking : login.wake.perform world = (.ok (), woken))

include offers waking

theorem run_unsettled {thrown : Failure}
    (settling : (login.settle accessControl system).perform ⟨client.muted, woken⟩ = (.error thrown, settled)) :
    login.run.perform ⟨client, world⟩ =
      (.error thrown.asError, ⟨settled.focus, login.reporting "authorize" thrown settled.world⟩) := by
  rw [run_perform login world offers, waking]
  simp only [settling]

theorem run_unaccepted {outcome : Outcome} (other : outcome ≠ .ok)
    (settling : (login.settle accessControl system).perform ⟨client.muted, woken⟩ = (.ok outcome, settled)) :
    login.run.perform ⟨client, world⟩ = (.ok outcome, ⟨settled.focus,
      ((login.logger.info ("Login did not complete: " ++ outcome.describe)).run settled.world).2⟩) := by
  rw [run_perform login world offers, waking]
  simp only [settling, if_neg other]

theorem run_accepted (settling : (login.settle accessControl system).perform ⟨client.muted, woken⟩ = (.ok .ok, settled)) :
    login.run.perform ⟨client, world⟩ =
      match (login.provision system).perform ⟨settled.focus, login.ready settled.world⟩ with
      | (.error thrown, stopped) =>
          (.error thrown.asError, ⟨stopped.focus, login.reporting "postLogin" thrown stopped.world⟩)
      | (.ok _, final) => (.ok .ok, final) := by
  rw [run_perform login world offers, waking]
  simp only [settling, if_true]

omit offers waking

theorem ready_onward (world : World) : world.Onward (login.ready world) :=
  World.debug_reached login.logger _ {} world (World.reached_refl _ world)

theorem hushed_muted (offers : client.Offers accessControl system) : client.muted.Hushed [accessControl, system] := by
  have known := Client.offers_known (Client.muted_offers client accessControl system offers)
  intro given member
  simp only [List.mem_cons, List.not_mem_nil, or_false] at member
  rcases member with rfl | rfl
  · exact ⟨_, known.1, rfl⟩
  · exact ⟨_, known.2, rfl⟩

theorem settle_going (woken : World) (offers : client.Offers accessControl system) :
    Going (Client.Hushed [accessControl, system]) woken
      ((login.settle accessControl system).perform ⟨client.muted, woken⟩).2 :=
  (settle_consults login accessControl system).after login.refusals ⟨client.muted, woken⟩ (hushed_muted offers)

theorem provision_going (hushed : settled.focus.Hushed [accessControl, system]) :
    Going (Client.Hushed [accessControl, system]) (login.ready settled.world)
      ((login.provision system).perform ⟨settled.focus, login.ready settled.world⟩).2 :=
  (provision_consults login accessControl system).after login.refusals ⟨settled.focus, login.ready settled.world⟩ hushed

theorem reporting_prefix (stage : String) (thrown : Failure) (world : World) :
    world.trace <+: (login.reporting stage thrown world).trace := List.prefix_append _ _

theorem provision_traced (offers : client.Offers accessControl system)
    (waking : login.wake.perform world = (.ok (), woken))
    (settling : (login.settle accessControl system).perform ⟨client.muted, woken⟩ = (.ok .ok, settled)) :
    ((login.provision system).perform ⟨settled.focus, login.ready settled.world⟩).2.world.trace <+:
      (login.run.perform ⟨client, world⟩).2.world.trace := by
  rw [run_accepted login offers waking settling]
  rcases (login.provision system).perform ⟨settled.focus, login.ready settled.world⟩ with ⟨result, final⟩
  cases result with
  | error thrown => exact reporting_prefix login _ _ _
  | ok _ => exact List.prefix_refl _

theorem settle_traced (offers : client.Offers accessControl system)
    (waking : login.wake.perform world = (.ok (), woken)) :
    ((login.settle accessControl system).perform ⟨client.muted, woken⟩).2.world.trace <+:
      (login.run.perform ⟨client, world⟩).2.world.trace := by
  have going := settle_going login woken offers
  rcases settling : (login.settle accessControl system).perform ⟨client.muted, woken⟩ with ⟨result, settled⟩
  rw [settling] at going
  cases result with
  | error thrown =>
      rw [run_unsettled login offers waking settling]
      exact reporting_prefix login _ _ _
  | ok outcome =>
      by_cases accepted : outcome = .ok
      · subst accepted
        have read := provision_going login going.1
        exact (World.onward_prefix (World.reached_trans (ready_onward login settled.world) read.2)).trans
          (provision_traced login offers waking settling)
      · rw [run_unaccepted login offers waking accepted settling]
        exact List.prefix_append _ _

end

-- What a login may be rejected with that no call of a service has thrown.
inductive Blamed (login : Login) (start : World) : Failure → Prop
  | waker {answer : Option String → Option String → Option Failure} {failure : Failure}
      (supplied : login.waker = .supplied answer)
      (failed : answer login.settings.hostName? login.settings.macAddress? = some failure) : Blamed login start failure
  | reading {thrown : Failure} (fails : start.Fails thrown) : Blamed login start thrown.asError

inductive StageOf (method : String) : String → Prop
  | authorize (probing : method ∈ probingMethods) : StageOf method "authorize"
  | postLogin (reading : method ∈ readingMethods) : StageOf method "postLogin"

inductive Course (login : Login) (scene : Scene Client) : Prop
  | through (calls : List Occasion) (passed : ∀ call ∈ calls, thrown? login.refusals call = none)
      (same : ∀ other, SameFor CommandMap.keysMethod login.refusals other → (∀ call ∈ calls, thrown? other call = none) →
        (login.refusing other).run.perform scene = login.run.perform scene)
      (blamed : ∀ failure, (login.run.perform scene).1 = .error failure → login.Blamed scene.world failure)
      (silent : ∀ outcome, (login.run.perform scene).1 = .ok outcome →
        (login.run.perform scene).2.world.errors = scene.world.errors)
  | stopped (early : List Occasion) (call : Occasion) (thrown : Failure) (stage : String) (stopped : Scene Client)
      (passed : ∀ call ∈ early, thrown? login.refusals call = none) (throws : thrown? login.refusals call = some thrown)
      (staged : StageOf call.method stage) (asked : stopped.world.asked = call.asked)
      (errors : stopped.world.errors = scene.world.errors)
      (ends : ∀ other value, SameFor CommandMap.keysMethod login.refusals other →
        (∀ call ∈ early, thrown? other call = none) → thrown? other call = some value →
        (login.refusing other).run.perform scene =
          (.error value.asError, ⟨stopped.focus, login.reporting stage value stopped.world⟩))
      (goes : ∀ other, SameFor CommandMap.keysMethod login.refusals other → (∀ call ∈ early, thrown? other call = none) →
        thrown? other call = none →
        stopped.world.trace <+: ((login.refusing other).run.perform scene).2.world.trace)

theorem woken_fails {world woken : World} {result : Except Failure Unit} {failure : Failure}
    (waking : login.wake.perform world = (result, woken)) (fails : woken.Fails failure) : world.Fails failure := by
  obtain ⟨beside, -⟩ := waking_beside login world waking
  cases fails with
  | property key refused => exact .property key (beside.refusals ▸ refused)
  | existence count path unanswered => exact .existence count path (beside.files ▸ unanswered)

theorem run_missing_course {client : Client} {world : World}
    (absent : client.service? "accessControl" = none ∨ client.service? "system" = none) : login.Course ⟨client, world⟩ := by
  have ended (other : Login) := run_missing other client world absent
  refine .through [] (List.forall_mem_nil _) (fun other _ _ => (ended _).trans (ended _).symm)
    (fun failure failed => ?_) fun outcome _ => ?_
  · rw [ended] at failed
    exact nomatch failed
  · rw [ended]

theorem run_unwoken_course {world woken : World} {failure : Failure} (offers : client.Offers accessControl system)
    (waking : login.wake.perform world = (.error failure, woken)) : login.Course ⟨client, world⟩ := by
  have ended (refusals : Refusals) : (login.refusing refusals).run.perform ⟨client, world⟩ =
      (.error failure, ⟨client.muted, woken⟩) := by
    have same : (login.refusing refusals).wake.perform world = (.error failure, woken) := waking
    rw [run_perform (login.refusing refusals) world offers, same]
  have mine : login.run.perform ⟨client, world⟩ = (.error failure, ⟨client.muted, woken⟩) := ended login.refusals
  refine .through [] (List.forall_mem_nil _) (fun other _ _ => (ended other).trans mine.symm)
    (fun other failed => ?_) fun outcome succeeded => ?_
  · rw [mine] at failed
    obtain ⟨answer, supplied, answered⟩ := (wake_beside login world world (World.beside_refl world)).2 failure (by rw [waking])
    cases failed
    exact .waker supplied answered
  · rw [mine] at succeeded
    exact nomatch succeeded

theorem woken_errors {world woken : World} (waking : login.wake.perform world = (.ok (), woken)) :
    woken.errors = world.errors := by
  have same := wake_errors login world
  rwa [waking] at same

structure Passes (login : Login) (accessControl system : Service) (start : Scene Client) (calls : List Occasion)
    (ended : Except Failure Outcome × Scene Client) : Prop where
  passed : ∀ call ∈ calls, thrown? login.refusals call = none
  again : ∀ other, SameFor CommandMap.keysMethod login.refusals other → (∀ call ∈ calls, thrown? other call = none) →
    ((login.refusing other).settle accessControl system).perform start = ended

theorem Passes.settles {start : Scene Client} {calls : List Occasion} {ended : Except Failure Outcome × Scene Client}
    (passes : login.Passes accessControl system start calls ended) :
    (login.settle accessControl system).perform start = ended :=
  passes.again login.refusals (fun _ _ _ => rfl) passes.passed

section

variable {world woken : World} {settled : Scene Client} {calls : List Occasion}
  (offers : client.Offers accessControl system) (waking : login.wake.perform world = (.ok (), woken))

include offers waking

theorem run_unsettled_course {thrown : Failure}
    (passes : login.Passes accessControl system ⟨client.muted, woken⟩ calls (.error thrown, settled))
    (fails : woken.Fails thrown) : login.Course ⟨client, world⟩ := by
  have course (other : Refusals) (spares : SameFor CommandMap.keysMethod login.refusals other)
      (none : ∀ call ∈ calls, thrown? other call = none) :=
    run_unsettled (login.refusing other) offers waking (passes.again other spares none)
  have ended := course login.refusals (fun _ _ _ => rfl) passes.passed
  refine .through calls passes.passed (fun other spares none => ?_) (fun failure failed => ?_) fun outcome succeeded => ?_
  · exact (course other spares none).trans ended.symm
  · obtain rfl : thrown.asError = failure := Except.error.inj ((congrArg Prod.fst ended).symm.trans failed)
    exact .reading (woken_fails login waking fails)
  · exact nomatch (congrArg Prod.fst ended).symm.trans succeeded

theorem run_unaccepted_course {outcome : Outcome} (refused : outcome ≠ .ok)
    (passes : login.Passes accessControl system ⟨client.muted, woken⟩ calls (.ok outcome, settled)) :
    login.Course ⟨client, world⟩ := by
  have course (other : Refusals) (spares : SameFor CommandMap.keysMethod login.refusals other)
      (none : ∀ call ∈ calls, thrown? other call = none) :=
    run_unaccepted (login.refusing other) offers waking refused (passes.again other spares none)
  have ended := course login.refusals (fun _ _ _ => rfl) passes.passed
  have going := settle_going login woken offers
  rw [passes.settles] at going
  refine .through calls passes.passed (fun other spares none => ?_) (fun failure failed => ?_) fun _ _ => ?_
  · exact (course other spares none).trans ended.symm
  · exact nomatch (congrArg Prod.fst ended).symm.trans failed
  · have said : settled.world.Onward
        ((login.logger.info ("Login did not complete: " ++ outcome.describe)).run settled.world).2 :=
      World.write_log_reached login.logger .info _ {} (by decide) settled.world (World.reached_refl _ _)
    exact (congrArg (fun run => run.2.world.errors) ended).trans
      ((World.errors_onward (World.reached_trans going.2 said)).trans (woken_errors login waking))

theorem run_accepted_course (passes : login.Passes accessControl system ⟨client.muted, woken⟩ calls (.ok .ok, settled)) :
    login.Course ⟨client, world⟩ := by
  have going := settle_going login woken offers
  rw [passes.settles] at going
  have onward := World.reached_trans going.2 (ready_onward login settled.world)
  have errors := (World.errors_onward onward).trans (woken_errors login waking)
  have split {early late : List Occasion} {other : Refusals} (none : ∀ call ∈ early ++ late, thrown? other call = none) :=
    List.forall_mem_append.mp none
  have course (other : Refusals) (spares : SameFor CommandMap.keysMethod login.refusals other)
      (none : ∀ call ∈ calls, thrown? other call = none) :=
    run_accepted (login.refusing other) offers waking (passes.again other spares none)
  have read := provision_going login going.1
  cases (provision_consults login accessControl system).consulted login.refusals
    ⟨settled.focus, login.ready settled.world⟩ going.1 with
  | stopped early call thrown stopped later throws listed asked on ends goes =>
      refine .stopped (calls ++ early) call thrown "postLogin" stopped
        (List.forall_mem_append.mpr ⟨passes.passed, later⟩) throws (.postLogin listed) asked
        ((World.errors_onward on).trans errors) (fun other value spares none found => ?_) fun other spares none free => ?_
      · have stops : ((login.refusing other).provision system).perform
            ⟨settled.focus, (login.refusing other).ready settled.world⟩ = (.error value, stopped) :=
          ends other value spares (split none).2 found
        rw [course other spares (split none).1, stops]
        rfl
      · exact (goes other spares (split none).2 free).trans
          (provision_traced (login.refusing other) offers waking (passes.again other spares (split none).1))
  | through more later same failing =>
      have ended := run_accepted login offers waking passes.settles
      rcases reading : (login.provision system).perform ⟨settled.focus, login.ready settled.world⟩ with ⟨result, final⟩
      rw [reading] at ended read
      refine .through (calls ++ more) (List.forall_mem_append.mpr ⟨passes.passed, later⟩) (fun other spares none => ?_)
        (fun failure failed => ?_) fun outcome succeeded => ?_
      · have again : ((login.refusing other).provision system).perform
            ⟨settled.focus, (login.refusing other).ready settled.world⟩ = (result, final) :=
          (same other spares (split none).2).trans reading
        rw [course other spares (split none).1, again, ended]
        rfl
      · rw [ended] at failed
        cases result with
        | ok _ => exact nomatch failed
        | error thrown =>
            cases failed
            have fails := failing thrown (congrArg Prod.fst reading)
            exact .reading (woken_fails login waking (World.fails_onward onward fails))
      · rw [ended] at succeeded ⊢
        cases result with
        | ok _ => exact (World.errors_onward read.2).trans errors
        | error thrown => exact nomatch succeeded

theorem run_woken_course : login.Course ⟨client, world⟩ := by
  cases (settle_consults login accessControl system).consulted login.refusals ⟨client.muted, woken⟩ (hushed_muted offers) with
  | stopped early call thrown stopped passed throws listed asked onward ends goes =>
      refine .stopped early call thrown "authorize" stopped passed throws (.authorize listed) asked
        ((World.errors_onward onward).trans (woken_errors login waking)) (fun other value spares none found => ?_)
        fun other spares none free => ?_
      · exact run_unsettled (login.refusing other) offers waking (ends other value spares none found)
      · exact (goes other spares none free).trans (settle_traced (login.refusing other) offers waking)
  | through calls passed same fails =>
      rcases settling : (login.settle accessControl system).perform ⟨client.muted, woken⟩ with ⟨result, settled⟩
      have passes : login.Passes accessControl system ⟨client.muted, woken⟩ calls (result, settled) :=
        ⟨passed, fun other spares none => (same other spares none).trans settling⟩
      cases result with
      | error thrown =>
          exact run_unsettled_course login offers waking passes (fails thrown (congrArg Prod.fst settling))
      | ok outcome =>
          by_cases accepted : outcome = .ok
          · subst accepted
            exact run_accepted_course login offers waking passes
          · exact run_unaccepted_course login offers waking accepted passes

end

theorem run_course (client : Client) (world : World) : login.Course ⟨client, world⟩ := by
  cases foundAccess : client.service? "accessControl" with
  | none => exact run_missing_course login (.inl foundAccess)
  | some accessControl =>
      cases foundSystem : client.service? "system" with
      | none => exact run_missing_course login (.inr foundSystem)
      | some system =>
          have offers : client.Offers accessControl system := ⟨foundAccess, foundSystem⟩
          rcases waking : login.wake.perform world with ⟨woke, woken⟩
          cases woke with
          | error failure => exact run_unwoken_course login offers waking
          | ok _ => exact run_woken_course login offers waking

def Makes (login : Login) (scene : Scene Client) (call : Occasion) : Prop :=
  ∃ refusals, ButFor call login.refusals refusals ∧
    (login.refusing refusals).run.perform scene ≠ login.run.perform scene

def Throws (login : Login) (scene : Scene Client) (call : Occasion) (thrown : Failure) : Prop :=
  login.Makes scene call ∧ thrown? login.refusals call = some thrown

theorem incident_line_staged {method stage : String} (staged : StageOf method stage) (thrown : Failure) :
    ∃ rest, login.incidentLine stage thrown = "[Session] DEVICE (" ++ stage ++ ")" ++ rest := by
  have aloud : Incident.aside " (" (some stage) ")" = " (" ++ stage ++ ")" := by cases staged <;> rfl
  simp only [incidentLine, Incident.line, aloud, String.append_assoc]
  exact ⟨_, congrArg ("[Session] DEVICE (" ++ ·) rfl⟩

theorem other_refusals (refusals : Refusals) (call : Occasion) (value : Option Failure) :
    ∃ other, ButFor call refusals other ∧ thrown? other call = value := by
  classical
  refine ⟨fun asked name method params => if (⟨asked, name, method, params⟩ : Occasion) = call then value
    else refusals asked name method params, fun another different => if_neg different, if_pos rfl⟩

theorem passed_but_for {refusals other : Refusals} {calls : List Occasion} {call : Occasion} {thrown : Failure}
    (passed : ∀ call ∈ calls, thrown? refusals call = none) (throws : thrown? refusals call = some thrown)
    (butFor : ButFor call refusals other) : ∀ call ∈ calls, thrown? other call = none := by
  intro another member
  have different : another ≠ call := by
    rintro rfl
    exact nomatch (passed another member).symm.trans throws
  exact (butFor another different).trans (passed another member)

theorem other_failure (thrown : Failure) : ∃ value : Failure, value.asError ≠ thrown.asError := by
  by_cases bad : thrown.asError = .badAddress
  · exact ⟨.noAnswer, fun same => nomatch same.trans bad⟩
  · exact ⟨.badAddress, fun same => bad same.symm⟩

theorem staged_not_keys {method stage : String} (staged : StageOf method stage) : method ≠ CommandMap.keysMethod := by
  rintro rfl
  cases staged with
  | authorize probing => exact absurd probing (by decide)
  | postLogin reading => exact absurd reading (by decide)

-- A call of a service that throws, but for the one for the keys of the device, rejects the login with what it has
-- thrown, as an error. One line is logged as an error, and it names the stage that makes such calls. But for that line the
-- world is as the call has found it: what has happened until then happens as well if the call does not throw. Neither the
-- call for the keys nor the other source of commands makes a difference to how the login ends. Only a call that throws, a
-- waker that does, a refused property or an unanswered question for the map file rejects a login, and one that is not
-- rejected logs no error.
theorem thrown_calls_end (login : Login) (client : Client) (world : World) :
    let ended := login.run.perform ⟨client, world⟩
    (∀ call thrown, login.Throws ⟨client, world⟩ call thrown → call.method ≠ CommandMap.keysMethod →
      ∃ (stage line : String) (stopped : Scene Client), StageOf call.method stage ∧
        (∃ rest, line = "[Session] DEVICE (" ++ stage ++ ")" ++ rest) ∧
        ended = (.error thrown.asError,
          ⟨stopped.focus, { stopped.world with trace := stopped.world.trace ++ [.logged .error line] }⟩) ∧
        ended.2.world.errors = world.errors ++ [line] ∧ stopped.world.asked = call.asked ∧
        ∀ refusals, ButFor call login.refusals refusals → thrown? refusals call = none →
          stopped.world.trace <+: ((login.refusing refusals).run.perform ⟨client, world⟩).2.world.trace) ∧
    (∀ refusals source, SameButKeys login.refusals refusals →
      ((login.otherwise refusals source).run.perform ⟨client, world⟩).1 = ended.1) ∧
    (∀ failure, ended.1 = .error failure →
      (∃ call thrown, login.Throws ⟨client, world⟩ call thrown ∧ call.method ≠ CommandMap.keysMethod ∧
        failure = thrown.asError) ∨ login.Blamed world failure) ∧
    ∀ outcome, ended.1 = .ok outcome → ended.2.world.errors = world.errors := by
  intro ended
  have unmoved (refusals : Refusals) (source : CommandSource) (same : SameButKeys login.refusals refusals) :=
    run_same login same source client world
  cases run_course login client world with
  | through calls passed same blamed silent =>
      refine ⟨fun call thrown made notKeys => ?_, unmoved, fun failure failed => .inr (blamed failure failed), silent⟩
      obtain ⟨⟨refusals, butFor, differs⟩, throws⟩ := made
      -- The call is none of those that matter, so nothing can hinge on it.
      exact absurd (same refusals (but_for_method butFor notKeys) (passed_but_for passed throws butFor)) differs
  | stopped early call thrown stage stopped passed throws staged asked errors ends goes =>
      have stops : ended = (.error thrown.asError, ⟨stopped.focus, login.reporting stage thrown stopped.world⟩) :=
        ends login.refusals thrown (fun _ _ _ => rfl) passed throws
      refine ⟨fun given value made notKeys => ?_, unmoved, fun failure failed => .inl ?_, fun outcome succeeded => ?_⟩
      · obtain ⟨⟨refusals, butFor, differs⟩, found⟩ := made
        -- Any other call that throws stands behind the one that has ended the run, and makes no difference.
        have same : given = call := by
          refine Classical.byContradiction fun other => differs ?_
          have unchanged : thrown? refusals call = some thrown := (butFor call (Ne.symm other)).trans throws
          exact (ends refusals thrown (but_for_method butFor notKeys) (passed_but_for passed found butFor) unchanged).trans
            stops.symm
        subst same
        obtain rfl : value = thrown := Option.some.inj (found.symm.trans throws)
        refine ⟨stage, login.incidentLine stage value, stopped, staged, incident_line_staged login staged value, stops, ?_,
          asked, fun other alone free => goes other (but_for_method alone notKeys) (passed_but_for passed throws alone) free⟩
        have reported : (login.reporting stage value stopped.world).errors =
            stopped.world.errors ++ [login.incidentLine stage value] := List.filterMap_append
        rw [stops, reported, errors]
      · obtain ⟨value, different⟩ := other_failure thrown
        obtain ⟨other, butFor, found⟩ := other_refusals login.refusals call (some value)
        have notKeys := staged_not_keys staged
        have ended := ends other value (but_for_method butFor notKeys) (passed_but_for passed throws butFor) found
        rw [stops] at failed
        refine ⟨call, thrown, ⟨⟨other, butFor, fun same => different ?_⟩, throws⟩, notKeys, (Except.error.inj failed).symm⟩
        exact Except.error.inj (congrArg Prod.fst (ended.symm.trans (same.trans stops)))
      · rw [stops] at succeeded
        exact nomatch succeeded

theorem thrown_calls_end_reading :
    let service (name : String) : Service :=
      { name := name, channel := { url := "http://tv/sony" },
        methods := some [("getDeviceMode", ["1.0"]), ("getSystemInformation", ["1.0"])] }
    let login : Login :=
      { settings := { deviceAddress := .absent }, logger := {}, jar := 0,
        refusals := fun _ _ method _ => if method = "getSystemInformation" then some (.other (.str "boom")) else none }
    let answer : Http.Exchange :=
      .answered { status := some 200, headers := [], chunks := [], streamError := none, truncated := false }
    let client := Client.ofServices [service "accessControl", service "system"]
    let world : World := { device := fun _ _ => answer, jars := [{}] }
    (login.run.perform ⟨client, world⟩).2.world.errors = ["[Session] DEVICE (postLogin): boom"] ∧
      ∃ call thrown line, login.Throws ⟨client, world⟩ call thrown ∧ call.method ≠ CommandMap.keysMethod ∧
        (login.run.perform ⟨client, world⟩).1 = .error thrown.asError ∧ thrown.asError = .error "boom" ∧
        (login.run.perform ⟨client, world⟩).2.world.errors = world.errors ++ [line] := by
  intro service login answer client world
  have told : (match (login.run.perform ⟨client, world⟩).1 with | .error (.error message) => some message | _ => none) =
      some "boom" := by decide +kernel +zetaReduce
  have lines : (login.run.perform ⟨client, world⟩).2.world.errors = ["[Session] DEVICE (postLogin): boom"] := by
    decide +kernel +zetaReduce
  have unsupplied (given : Option String → Option String → Option Failure) : login.waker ≠ .supplied given := nofun
  have taken (key : String) : world.refusesProperty key = none := rfl
  have answered (count : Nat) (path : String) : world.files.fault count .probe path = none := rfl
  obtain ⟨single, -, causes, -⟩ := thrown_calls_end login client world
  clear_value login client world
  obtain ⟨failure, rejected, same⟩ : ∃ failure, (login.run.perform ⟨client, world⟩).1 = .error failure ∧
      failure = .error "boom" := by
    revert told
    rcases (login.run.perform ⟨client, world⟩).1 with failure | outcome
    · cases failure with
      | error message => exact fun told => ⟨_, rfl, congrArg Failure.error (Option.some.inj told)⟩
      | _ => exact fun told => nomatch told
    · exact fun told => nomatch told
  rcases causes failure rejected with ⟨call, thrown, throws, notKeys, rfl⟩ | blamed
  · obtain ⟨stage, line, stopped, -, -, -, errors, -⟩ := single call thrown throws notKeys
    exact ⟨lines, call, thrown, line, throws, notKeys, rejected, same, errors⟩
  · cases blamed with
    | waker supplied _ => exact absurd supplied (unsupplied _)
    | reading fails =>
        cases fails with
        | property key refused => exact nomatch (taken key).symm.trans refused
        | existence count path unanswered => exact nomatch (answered count path).symm.trans unanswered

end Login

end DeviceLogin
