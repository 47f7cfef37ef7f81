import DeviceLogin.World.Basic

set_option autoImplicit false

namespace DeviceLogin

variable {σ τ α β : Type}

def Holding (inv : σ → Prop) (step : StateM σ α) : Prop :=
  ∀ state, inv state → inv (step.run state).2

namespace Holding

variable {inv : σ → Prop}

theorem pure (value : α) : Holding inv (Pure.pure value : StateM σ α) := fun _ holds => holds

theorem bind {step : StateM σ α} {next : α → StateM σ β} (first : Holding inv step)
    (rest : ∀ value, Holding inv (next value)) : Holding inv (step >>= next) := by
  intro state holds
  exact rest (step.run state).1 (step.run state).2 (first state holds)

theorem get_bind {next : σ → StateM σ β}
    (rest : ∀ state, inv state → inv ((next state).run state).2) : Holding inv (get >>= next) := rest

end Holding

namespace Act

def Keeps (inv : σ → Prop) (faults : σ → Failure → Prop) (act : Act σ α) : Prop :=
  ∀ state, inv state →
    inv (act.perform state).2 ∧ ∀ failure, (act.perform state).1 = .error failure → faults (act.perform state).2 failure

namespace Keeps

variable {inv : σ → Prop} {faults : σ → Failure → Prop}

theorem pure (value : α) : Keeps inv faults (Pure.pure value : Act σ α) := by
  intro state holds
  exact ⟨holds, fun failure failed => nomatch failed⟩

theorem throw (failure : Failure) (fault : ∀ state, inv state → faults state failure) :
    Keeps inv faults (throw failure : Act σ α) := by
  intro state holds
  refine ⟨holds, fun other failed => ?_⟩
  cases failed
  exact fault state holds

theorem bind {act : Act σ α} {next : α → Act σ β} (first : Keeps inv faults act)
    (rest : ∀ value, Keeps inv faults (next value)) : Keeps inv faults (act >>= next) := by
  intro state holds
  rw [perform_bind]
  obtain ⟨kept, failing⟩ := first state holds
  generalize act.perform state = ended at kept failing
  obtain ⟨result, after⟩ := ended
  cases result with
  | ok value => exact rest value after kept
  | error failure =>
      refine ⟨kept, fun other failed => ?_⟩
      cases failed
      exact failing failure rfl

theorem throw_bind {next : α → Act σ β} (failure : Failure) (fault : ∀ state, inv state → faults state failure) :
    Keeps inv faults (MonadExcept.throw failure >>= next) := throw failure fault

theorem get_bind {next : σ → Act σ β}
    (rest : ∀ state, inv state → inv ((next state).perform state).2 ∧
      ∀ failure, ((next state).perform state).1 = .error failure → faults ((next state).perform state).2 failure) :
    Keeps inv faults (get >>= next) := rest

theorem ite {c : Prop} [Decidable c] {first second : Act σ α} (yes : Keeps inv faults first)
    (no : Keeps inv faults second) : Keeps inv faults (if c then first else second) := by
  split
  · exact yes
  · exact no

theorem always {step : StateM σ α} (holding : Holding inv step) : Keeps inv faults (always step) := by
  intro state holds
  exact ⟨holding state holds, fun failure failed => nomatch failed⟩

theorem weaken {wider : σ → Failure → Prop} {act : Act σ α} (keeps : Keeps inv faults act)
    (within : ∀ state failure, inv state → faults state failure → wider state failure) : Keeps inv wider act := by
  intro state holds
  obtain ⟨kept, failing⟩ := keeps state holds
  exact ⟨kept, fun failure failed => within _ failure kept (failing failure failed)⟩

theorem run {act : Act σ α} (keeps : Keeps inv faults act) : Holding inv act.run :=
  fun state holds => (keeps state holds).1

theorem recover {act : Act σ α} {handler : Failure → StateM σ α} (keeps : Keeps inv (fun _ _ => True) act)
    (handled : ∀ failure, Holding inv (handler failure)) : Holding inv (recover act handler) := by
  refine Holding.bind keeps.run fun result => ?_
  cases result with
  | ok value => exact Holding.pure value
  | error failure => exact handled failure

theorem of_except (result : Except Failure α)
    (fault : ∀ state failure, inv state → result = .error failure → faults state failure) :
    Keeps inv faults (MonadExcept.ofExcept result : Act σ α) := by
  cases result with
  | ok value => exact pure value
  | error failure => exact throw failure fun state holds => fault state failure holds rfl

theorem zoom (outer : Scene σ → Prop) (thrown : World → Failure → Prop) {inner : Scene τ → Prop} {get : σ → τ}
    {put : τ → σ → σ} {act : Act (Scene τ) α} (keeps : Keeps inner (fun scene => thrown scene.world) act)
    (into : ∀ scene, outer scene → inner ⟨get scene.focus, scene.world⟩)
    (back : ∀ scene part, outer scene → inner part → outer ⟨put part.focus scene.focus, part.world⟩) :
    Keeps outer (fun scene => thrown scene.world) (Scene.zoom get put act) := by
  intro scene holds
  obtain ⟨kept, failing⟩ := keeps _ (into scene holds)
  exact ⟨back scene _ holds kept, failing⟩

theorem on_world {outer : Scene σ → Prop} {inner : World → Prop} {thrown : World → Failure → Prop} {act : Act World α}
    (keeps : Keeps inner thrown act) (into : ∀ scene, outer scene → inner scene.world)
    (back : ∀ scene world, outer scene → inner world → outer { scene with world := world }) :
    Keeps outer (fun scene => thrown scene.world) (Scene.onWorld act) := by
  intro scene holds
  obtain ⟨kept, failing⟩ := keeps _ (into scene holds)
  exact ⟨back scene _ holds kept, failing⟩

end Keeps

end Act

theorem Holding.in_world {outer : Scene σ → Prop} {inner : World → Prop} {step : StateM World α}
    (holding : Holding inner step) (into : ∀ scene, outer scene → inner scene.world)
    (back : ∀ scene world, outer scene → inner world → outer { scene with world := world }) :
    Holding outer (Scene.inWorld step) := by
  intro scene holds
  exact back scene _ holds (holding _ (into scene holds))

end DeviceLogin
