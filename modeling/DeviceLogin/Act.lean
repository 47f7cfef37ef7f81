import DeviceLogin.Failure

set_option autoImplicit false

namespace DeviceLogin

abbrev Act (σ α : Type) := ExceptT Failure (StateM σ) α

namespace Act

variable {σ τ α : Type}

def perform (act : Act σ α) (state : σ) : Except Failure α × σ := act.run.run state

def ofFunction (step : σ → Except Failure α × σ) : Act σ α := ExceptT.mk step

def always (step : StateM σ α) : Act σ α := ExceptT.lift step

def recover (act : Act σ α) (handler : Failure → StateM σ α) : StateM σ α := do
  match ← act.run with
  | .ok value => pure value
  | .error failure => handler failure

def ensuring (act : Act σ α) (change : σ → σ) : Act σ α :=
  ofFunction fun state =>
    let (result, after) := act.perform state
    (result, change after)

def inside (get : σ → τ) (put : τ → σ → σ) (act : Act τ α) : Act σ α :=
  ofFunction fun state =>
    let (result, part) := act.perform (get state)
    (result, put part state)

theorem perform_pure (value : α) (state : σ) : (pure value : Act σ α).perform state = (.ok value, state) := rfl

theorem perform_get (state : σ) : (get : Act σ σ).perform state = (.ok state, state) := rfl

theorem perform_set (state after : σ) : (set after : Act σ Unit).perform state = (.ok (), after) := rfl

theorem perform_modify (f : σ → σ) (state : σ) : (modify f : Act σ Unit).perform state = (.ok (), f state) := rfl

theorem perform_always (step : StateM σ α) (state : σ) :
    (always step).perform state = (.ok (step.run state).1, (step.run state).2) := rfl

theorem perform_bind {β : Type} (act : Act σ α) (next : α → Act σ β) (state : σ) :
    (act >>= next).perform state =
      match act.perform state with
      | (.ok value, after) => (next value).perform after
      | (.error failure, after) => (.error failure, after) := by
  simp only [perform, ExceptT.run, bind, ExceptT.bind, ExceptT.mk, StateT.bind, StateT.run, ExceptT.bindCont]
  cases act state with
  | mk result after => cases result <;> rfl

theorem perform_ensuring (act : Act σ α) (change : σ → σ) (state : σ) :
    (ensuring act change).perform state = ((act.perform state).1, change (act.perform state).2) := rfl

theorem perform_inside (get : σ → τ) (put : τ → σ → σ) (act : Act τ α) (state : σ) :
    (inside get put act).perform state =
      ((act.perform (get state)).1, put (act.perform (get state)).2 state) := rfl

end Act

def onPart {σ τ α : Type} (get : σ → τ) (put : τ → σ → σ) (step : StateM τ α) : StateM σ α :=
  fun state =>
    let (result, part) := step.run (get state)
    (result, put part state)

end DeviceLogin
