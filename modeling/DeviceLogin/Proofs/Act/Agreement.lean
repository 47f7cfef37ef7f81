import DeviceLogin.World.Basic

set_option autoImplicit false

namespace DeviceLogin

variable {σ τ α β : Type}

def Agreeing (alike : σ → σ → Prop) (step other : StateM σ α) : Prop :=
  ∀ state twin, alike state twin →
    (step.run state).1 = (other.run twin).1 ∧ alike (step.run state).2 (other.run twin).2

def Act.Agrees (alike : σ → σ → Prop) (act other : Act σ α) : Prop :=
  ∀ state twin, alike state twin →
    (act.perform state).1 = (other.perform twin).1 ∧ alike (act.perform state).2 (other.perform twin).2

namespace Agreeing

variable {alike : σ → σ → Prop}

theorem pure (value : α) : Agreeing alike (Pure.pure value) (Pure.pure value) := fun _ _ same => ⟨rfl, same⟩

theorem bind {step other : StateM σ α} {next later : α → StateM σ β} (first : Agreeing alike step other)
    (rest : ∀ value, Agreeing alike (next value) (later value)) : Agreeing alike (step >>= next) (other >>= later) := by
  intro state twin same
  obtain ⟨value, after⟩ := first state twin same
  change ((next (step.run state).1).run (step.run state).2).1 = ((later (other.run twin).1).run (other.run twin).2).1 ∧
    alike ((next (step.run state).1).run (step.run state).2).2 ((later (other.run twin).1).run (other.run twin).2).2
  rw [← value]
  exact rest _ _ _ after

theorem get_bind {next later : σ → StateM σ β}
    (rest : ∀ state twin, alike state twin → ((next state).run state).1 = ((later twin).run twin).1 ∧
      alike ((next state).run state).2 ((later twin).run twin).2) :
    Agreeing alike (get >>= next) (get >>= later) := rest

end Agreeing

namespace Act.Agrees

variable {alike : σ → σ → Prop}

theorem pure (value : α) : Agrees alike (Pure.pure value) (Pure.pure value) := fun _ _ same => ⟨rfl, same⟩

theorem throw (failure : Failure) : Agrees alike (throw failure : Act σ α) (throw failure) := fun _ _ same => ⟨rfl, same⟩

theorem bind {act other : Act σ α} {next later : α → Act σ β} (first : Agrees alike act other)
    (rest : ∀ value, Agrees alike (next value) (later value)) : Agrees alike (act >>= next) (other >>= later) := by
  intro state twin same
  obtain ⟨result, after⟩ := first state twin same
  rw [perform_bind, perform_bind]
  generalize act.perform state = ended at result after
  generalize other.perform twin = twinEnded at result after
  obtain ⟨value, now⟩ := ended
  obtain ⟨_, twinNow⟩ := twinEnded
  dsimp only at result after
  subst result
  cases value with
  | ok value => exact rest value now twinNow after
  | error failure => exact ⟨rfl, after⟩

theorem throw_bind {next later : α → Act σ β} (failure : Failure) :
    Agrees alike (MonadExcept.throw failure >>= next) (MonadExcept.throw failure >>= later) := throw failure

theorem get_bind {next later : σ → Act σ β}
    (rest : ∀ state twin, alike state twin → ((next state).perform state).1 = ((later twin).perform twin).1 ∧
      alike ((next state).perform state).2 ((later twin).perform twin).2) :
    Agrees alike (get >>= next) (get >>= later) := rest

theorem ite {c : Prop} [Decidable c] {first second other another : Act σ α} (yes : Agrees alike first other)
    (no : Agrees alike second another) : Agrees alike (if c then first else second) (if c then other else another) := by
  split
  · exact yes
  · exact no

theorem always {step other : StateM σ α} (agreeing : Agreeing alike step other) :
    Agrees alike (always step) (always other) := by
  intro state twin same
  obtain ⟨value, after⟩ := agreeing state twin same
  exact ⟨congrArg Except.ok value, after⟩

theorem run {act other : Act σ α} (agrees : Agrees alike act other) : Agreeing alike act.run other.run := agrees

theorem modify {f g : σ → σ} (changed : ∀ state twin, alike state twin → alike (f state) (g twin)) :
    Agrees alike (modify f) (modify g) := fun state twin same => ⟨rfl, changed state twin same⟩

theorem ensuring {act other : Act σ α} {f g : σ → σ} (agrees : Agrees alike act other)
    (changed : ∀ state twin, alike state twin → alike (f state) (g twin)) :
    Agrees alike (ensuring act f) (ensuring other g) := by
  intro state twin same
  obtain ⟨result, after⟩ := agrees state twin same
  exact ⟨result, changed _ _ after⟩

theorem recover {act other : Act σ α} {handler fallback : Failure → StateM σ α} (agrees : Agrees alike act other)
    (handled : ∀ failure, Agreeing alike (handler failure) (fallback failure)) :
    Agreeing alike (recover act handler) (recover other fallback) := by
  refine Agreeing.bind agrees.run fun result => ?_
  cases result with
  | ok value => exact Agreeing.pure value
  | error failure => exact handled failure

theorem of_except (result : Except Failure α) :
    Agrees alike (MonadExcept.ofExcept result : Act σ α) (MonadExcept.ofExcept result) := by
  cases result with
  | ok value => exact pure value
  | error failure => exact throw failure

end Act.Agrees

-- What is in focus is related by one relation, the worlds are by another.
structure Scene.Alike (focus : σ → σ → Prop) (world : World → World → Prop) (scene twin : Scene σ) : Prop where
  focus : focus scene.focus twin.focus
  world : world scene.world twin.world

section

variable {outer : σ → σ → Prop} {inner : τ → τ → Prop} {worlds : World → World → Prop}

theorem Agreeing.in_world {step other : StateM World α} (agreeing : Agreeing worlds step other) :
    Agreeing (Scene.Alike outer worlds) (Scene.inWorld step) (Scene.inWorld other) := by
  intro scene twin same
  obtain ⟨value, after⟩ := agreeing scene.world twin.world same.world
  exact ⟨value, same.focus, after⟩

theorem Act.Agrees.on_world {act other : Act World α} (agrees : Agrees worlds act other) :
    Agrees (Scene.Alike outer worlds) (Scene.onWorld act) (Scene.onWorld other) := by
  intro scene twin same
  obtain ⟨result, after⟩ := agrees scene.world twin.world same.world
  exact ⟨result, same.focus, after⟩

theorem Act.Agrees.zoom {get : σ → τ} {put : τ → σ → σ} {act other : Act (Scene τ) α}
    (agrees : Agrees (Scene.Alike inner worlds) act other) (into : ∀ focus twin, outer focus twin → inner (get focus) (get twin))
    (back : ∀ focus twin part other, outer focus twin → inner part other → outer (put part focus) (put other twin)) :
    Agrees (Scene.Alike outer worlds) (Scene.zoom get put act) (Scene.zoom get put other) := by
  intro scene twin same
  obtain ⟨result, after⟩ := agrees ⟨get scene.focus, scene.world⟩ ⟨get twin.focus, twin.world⟩
    ⟨into scene.focus twin.focus same.focus, same.world⟩
  exact ⟨result, back _ _ _ _ same.focus after.focus, after.world⟩

end

end DeviceLogin
