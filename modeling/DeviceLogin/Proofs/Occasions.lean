import DeviceLogin.Proofs.Calls

set_option autoImplicit false

namespace DeviceLogin

open Act

namespace World

abbrev Onward : World → World → Prop := Reached fun _ _ => True

-- A refused property, or a question for a file that is not answered.
inductive Fails (world : World) : Failure → Prop
  | property {failure : Failure} (key : String) (refused : world.refusesProperty key = some failure) : Fails world failure
  | existence {fault : FileFault} (count : Nat) (path : String)
      (unanswered : world.files.fault count .probe path = some fault) : Fails world (.error fault.message)

theorem onward_prefix {before after : World} (onward : before.Onward after) : before.trace <+: after.trace := by
  obtain ⟨events, trace, -⟩ := onward.trace
  exact ⟨events, trace.symm⟩

theorem fails_onward {before after : World} (onward : before.Onward after) {failure : Failure}
    (fails : after.Fails failure) : before.Fails failure := by
  cases fails with
  | property key refused => exact .property key (onward.refusals ▸ refused)
  | existence count path unanswered => exact .existence count path (onward.faults ▸ unanswered)

end World

namespace Service

structure Occasion where
  asked : List Http.Request
  name : String
  method : String
  params : List Json

def thrown? (refusals : Refusals) (occasion : Occasion) : Option Failure :=
  refusals occasion.asked occasion.name occasion.method occasion.params

def SameFor (method : String) (refusals other : Refusals) : Prop :=
  ∀ asked name params, other asked name method params = refusals asked name method params

def ButFor (occasion : Occasion) (refusals other : Refusals) : Prop :=
  ∀ another, another ≠ occasion → thrown? other another = thrown? refusals another

theorem but_for_method {occasion : Occasion} {refusals other : Refusals} {method : String}
    (butFor : ButFor occasion refusals other) (different : occasion.method ≠ method) : SameFor method refusals other :=
  fun asked name params => butFor ⟨asked, name, method, params⟩ fun same => different (same ▸ rfl)

end Service

open Service

variable {σ τ α β : Type}

inductive Consulted (spared : String) (methods : List String) (acts : Refusals → Act (Scene σ) α) (refusals : Refusals)
    (scene : Scene σ) : Prop
  | through (calls : List Occasion) (passed : ∀ call ∈ calls, thrown? refusals call = none)
      (same : ∀ other, SameFor spared refusals other → (∀ call ∈ calls, thrown? other call = none) →
        (acts other).perform scene = (acts refusals).perform scene)
      (fails : ∀ failure, ((acts refusals).perform scene).1 = .error failure → scene.world.Fails failure)
  | stopped (early : List Occasion) (call : Occasion) (thrown : Failure) (stopped : Scene σ)
      (passed : ∀ call ∈ early, thrown? refusals call = none) (throws : thrown? refusals call = some thrown)
      (listed : call.method ∈ methods) (asked : stopped.world.asked = call.asked)
      (onward : scene.world.Onward stopped.world)
      (ends : ∀ other value, SameFor spared refusals other → (∀ call ∈ early, thrown? other call = none) →
        thrown? other call = some value → (acts other).perform scene = (.error value, stopped))
      (goes : ∀ other, SameFor spared refusals other → (∀ call ∈ early, thrown? other call = none) →
        thrown? other call = none → stopped.world.trace <+: ((acts other).perform scene).2.world.trace)

def Going (focus : σ → Prop) (start : World) (scene : Scene σ) : Prop := focus scene.focus ∧ start.Onward scene.world

structure Consults (spared : String) (focus : σ → Prop) (methods : List String) (acts : Refusals → Act (Scene σ) α) :
    Prop where
  keeps : ∀ refusals start, Keeps (Going focus start) (fun _ _ => True) (acts refusals)
  consulted : ∀ refusals scene, focus scene.focus → Consulted spared methods acts refusals scene

namespace Consults

variable {spared : String} {focus : σ → Prop} {methods : List String}

theorem after {acts : Refusals → Act (Scene σ) α} (consults : Consults spared focus methods acts) (refusals : Refusals)
    (scene : Scene σ) (wanted : focus scene.focus) :
    Going focus scene.world ((acts refusals).perform scene).2 :=
  (consults.keeps refusals scene.world scene ⟨wanted, World.reached_refl _ _⟩).1

theorem steady {acts : Refusals → Act (Scene σ) α}
    (same : ∀ refusals other, SameFor spared refusals other → acts other = acts refusals)
    (keeps : ∀ refusals start, Keeps (Going focus start) (fun _ failure => start.Fails failure) (acts refusals)) :
    Consults spared focus methods acts where
  keeps refusals start := (keeps refusals start).weaken fun _ _ _ _ => trivial
  consulted refusals scene wanted :=
    .through [] (fun _ member => nomatch member) (fun other spares _ => by rw [same refusals other spares])
      (keeps refusals scene.world scene ⟨wanted, World.reached_refl _ _⟩).2

theorem pure (value : α) : Consults spared focus methods fun _ => (Pure.pure value : Act (Scene σ) α) :=
  steady (fun _ _ _ => rfl) fun _ _ => Keeps.pure value

theorem ite {c : Prop} [Decidable c] {acts others : Refusals → Act (Scene σ) α} (yes : Consults spared focus methods acts)
    (no : Consults spared focus methods others) :
    Consults spared focus methods fun refusals => if c then acts refusals else others refusals := by
  split
  · exact yes
  · exact no

theorem bind {acts : Refusals → Act (Scene σ) α} {next : Refusals → α → Act (Scene σ) β}
    (first : Consults spared focus methods acts)
    (rest : ∀ value, Consults spared focus methods fun refusals => next refusals value) :
    Consults spared focus methods fun refusals => acts refusals >>= next refusals where
  keeps refusals start := (first.keeps refusals start).bind fun value => (rest value).keeps refusals start
  consulted refusals scene wanted := by
    -- What the first part has traced is still there after the second one.
    have further (other : Refusals) : ((acts other).perform scene).2.world.trace <+:
        ((acts other >>= next other).perform scene).2.world.trace := by
      have ready := first.after other scene wanted
      rw [perform_bind]
      generalize (acts other).perform scene = ended at ready
      obtain ⟨result, middle⟩ := ended
      cases result with
      | error failure => exact List.prefix_refl _
      | ok value => exact World.onward_prefix ((rest value).after other middle ready.1).2
    cases first.consulted refusals scene wanted with
    | stopped early call thrown stopped passed throws listed asked onward ends goes =>
        refine .stopped early call thrown stopped passed throws listed asked onward (fun other value spares none found => ?_)
          fun other spares none free => (goes other spares none free).trans (further other)
        rw [perform_bind, ends other value spares none found]
    | through calls passed same fails =>
        obtain ⟨ready, onward⟩ := first.after refusals scene wanted
        rcases ended : (acts refusals).perform scene with ⟨result, middle⟩
        rw [ended] at same fails ready onward
        cases result with
        | error failure =>
            refine .through calls passed (fun other spares none => ?_) fun other failed => ?_
            · rw [perform_bind, perform_bind, same other spares none, ended]
            · rw [perform_bind, ended] at failed
              cases failed
              exact fails failure rfl
        | ok value =>
            have split {early late : List Occasion} {other : Refusals}
                (none : ∀ call ∈ early ++ late, thrown? other call = none) :=
              List.forall_mem_append.mp none
            cases (rest value).consulted refusals middle ready with
            | through more later sames failing =>
                refine .through (calls ++ more) (List.forall_mem_append.mpr ⟨passed, later⟩) (fun other spares none => ?_)
                  fun failure failed => ?_
                · rw [perform_bind, perform_bind, same other spares (split none).1, ended]
                  exact sames other spares (split none).2
                · rw [perform_bind, ended] at failed
                  exact World.fails_onward onward (failing failure failed)
            | stopped early call thrown stopped later throws listed asked on ends goes =>
                refine .stopped (calls ++ early) call thrown stopped (List.forall_mem_append.mpr ⟨passed, later⟩) throws
                  listed asked (World.reached_trans onward on) (fun other value spares none found => ?_)
                  fun other spares none free => ?_
                · rw [perform_bind, same other spares (split none).1]
                  exact ends other value spares (split none).2 found
                · rw [perform_bind, same other spares (split none).1]
                  exact goes other spares (split none).2 free

theorem zoom {outer : σ → Prop} {inner : τ → Prop} {get : σ → τ} {put : τ → σ → σ} {acts : Refusals → Act (Scene τ) α}
    (consults : Consults spared inner methods acts) (into : ∀ whole, outer whole → inner (get whole))
    (back : ∀ whole part, outer whole → inner part → outer (put part whole)) :
    Consults spared outer methods fun refusals => Scene.zoom get put (acts refusals) where
  keeps refusals start :=
    Keeps.zoom _ (fun _ _ => True) (consults.keeps refusals start) (fun _ going => ⟨into _ going.1, going.2⟩)
      fun _ _ going after => ⟨back _ _ going.1 after.1, after.2⟩
  consulted refusals scene wanted := by
    cases consults.consulted refusals ⟨get scene.focus, scene.world⟩ (into _ wanted) with
    | through calls passed same fails =>
        refine .through calls passed (fun other spares none => ?_) fails
        rw [Scene.zoom, Scene.zoom, perform_inside, perform_inside, same other spares none]
    | stopped early call thrown stopped passed throws listed asked onward ends goes =>
        refine .stopped early call thrown ⟨put stopped.focus scene.focus, stopped.world⟩ passed throws listed asked onward
          (fun other value spares none found => ?_) goes
        rw [Scene.zoom, perform_inside, ends other value spares none found]

theorem ensuring {acts : Refusals → Act (Scene σ) α} {change : σ → σ} (consults : Consults spared focus methods acts)
    (kept : ∀ part, focus part → focus (change part)) :
    Consults spared focus methods fun refusals => Act.ensuring (acts refusals) (Scene.change change) where
  keeps refusals start scene going :=
    have after := consults.keeps refusals start scene going
    ⟨⟨kept _ after.1.1, after.1.2⟩, fun _ _ => trivial⟩
  consulted refusals scene wanted := by
    cases consults.consulted refusals scene wanted with
    | through calls passed same fails =>
        refine .through calls passed (fun other spares none => ?_) fails
        rw [perform_ensuring, perform_ensuring, same other spares none]
    | stopped early call thrown stopped passed throws listed asked onward ends goes =>
        refine .stopped early call thrown (Scene.change change stopped) passed throws listed asked onward
          (fun other value spares none found => ?_) goes
        rw [perform_ensuring, ends other value spares none found]

theorem changing {change : σ → σ} (kept : ∀ part, focus part → focus (change part)) :
    Consults spared focus methods fun _ => (modify (Scene.change change) : Act (Scene σ) Unit) :=
  steady (fun _ _ _ => rfl) fun _ _ scene going => ⟨⟨kept scene.focus going.1, going.2⟩, fun _ failed => nomatch failed⟩

theorem in_world {step : StateM World α} (holding : ∀ start, Holding (World.Onward start) step) :
    Consults spared focus methods fun _ => Act.always (Scene.inWorld step : StateM (Scene σ) α) :=
  steady (fun _ _ _ => rfl) fun _ start =>
    Keeps.always ((holding start).in_world (fun _ going => going.2) fun _ _ going onward => ⟨going.1, onward⟩)

theorem debug (logger : Logger) (message : String) :
    Consults spared focus methods fun _ => Act.always (Scene.inWorld (logger.debug message) : StateM (Scene σ) Unit) :=
  in_world fun _ => World.debug_reached logger message {}

theorem on_world {act : Act World α}
    (keeps : ∀ start, Keeps (World.Onward start) (fun _ failure => start.Fails failure) act) :
    Consults spared focus methods fun _ => (Scene.onWorld act : Act (Scene σ) α) :=
  steady (fun _ _ _ => rfl) fun _ start =>
    (keeps start).on_world (fun _ going => going.2) fun _ _ going onward => ⟨going.1, onward⟩

end Consults

namespace Service

def Silenced (service : Service) : Prop := service.channel.Muted

theorem ask_refused {refusals : Refusals} {method : String} {params : List Json} {scene : Scene Service} {failure : Failure}
    (refused : thrown? refusals ⟨scene.world.asked, scene.focus.name, method, params⟩ = some failure) :
    (ask refusals method params).perform scene = (.error failure, scene) := by
  have found : refusals scene.world.asked scene.focus.name method params = some failure := refused
  simp only [ask, perform_bind, perform_get, found]
  rfl

theorem ask_let_through {refusals : Refusals} {method : String} {params : List Json} {scene : Scene Service}
    (free : thrown? refusals ⟨scene.world.asked, scene.focus.name, method, params⟩ = none) :
    (ask refusals method params).perform scene = (execute method params).perform scene := by
  have none : refusals scene.world.asked scene.focus.name method params = none := free
  simp only [ask, perform_bind, perform_get, none]

theorem ask_same {method : String} {refusals other : Refusals} (same : SameFor method refusals other) (params : List Json) :
    ask other method params = ask refusals method params := by
  unfold ask
  simp only [same _ _ _]

theorem posting_onward (channel : Channel) (start : World) (message : Message) :
    Holding (World.Onward start) (channel.post message []) :=
  fun world onward => World.reached_trans onward
    (World.reached_mono (fun _ _ _ => trivial) (Channel.post_reached channel message [] world).1)

theorem ask_consults {spared : String} {methods : List String} (method : String) (params : List Json)
    (listed : method ∈ methods) :
    Consults spared Silenced methods fun refusals => Service.ask refusals method params := by
  have keeps (refusals : Refusals) (start : World) :
      Keeps (Going Silenced start) (fun _ _ => True) (Service.ask refusals method params) := by
    intro scene going
    obtain ⟨⟨⟨number, same⟩, onward⟩, -⟩ := ask_keeps scene.focus refusals method params going.1
      (fun call _ => posting_onward scene.focus.channel start call.message) scene ⟨⟨scene.focus.lastId, rfl⟩, going.2⟩
    refine ⟨⟨?_, onward⟩, fun _ _ => trivial⟩
    rw [same]
    exact going.1
  refine ⟨keeps, fun refusals scene silenced => ?_⟩
  let call : Occasion := ⟨scene.world.asked, scene.focus.name, method, params⟩
  cases found : thrown? refusals call with
  | some thrown =>
      refine .stopped [] call thrown scene (fun _ member => nomatch member) found listed rfl (World.reached_refl _ _)
        (fun other value _ _ refused => ask_refused refused) fun other _ _ _ => ?_
      exact World.onward_prefix (keeps other scene.world scene ⟨silenced, World.reached_refl _ _⟩).1.2
  | none =>
      refine .through [call] (by simpa using found) (fun other _ free => ?_) fun failure failed => ?_
      · rw [ask_let_through found, ask_let_through (free call List.mem_cons_self)]
      · rw [ask_let_through found] at failed
        have posting (call : Call) (_ : call.Of method params) := posting_onward scene.focus.channel scene.world call.message
        exact False.elim ((execute_keeps scene.focus method params silenced posting scene
          ⟨⟨scene.focus.lastId, rfl⟩, World.reached_refl _ _⟩).2 failure failed)

end Service

end DeviceLogin
