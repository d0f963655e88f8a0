import ClusterLookup.Failure

/-!
# Actions

An action reads and changes a state, answers or fails, and keeps a journal of what it did. A failure
ends an action: what was done up to it stays done and stays in the journal.
-/

namespace ClusterLookup

structure Outcome (ε σ α : Type) where
  result : Except Failure α
  state : σ
  journal : List ε

/-- A computation over states `σ` that keeps a journal of entries `ε`. -/
def Action (ε σ α : Type) : Type := σ → Outcome ε σ α

namespace Action
variable {ε σ τ α β : Type}

protected def pure (a : α) : Action ε σ α := fun s => ⟨.ok a, s, []⟩

/-- One action after another, unless the first one fails. -/
protected def bind (x : Action ε σ α) (f : α → Action ε σ β) : Action ε σ β := fun s =>
  match x s with
  | ⟨.ok a, s, journal⟩ =>
    let next := f a s
    ⟨next.result, next.state, journal ++ next.journal⟩
  | ⟨.error failure, s, journal⟩ => ⟨.error failure, s, journal⟩

instance : Monad (Action ε σ) where
  pure := Action.pure
  bind := Action.bind

def fail (failure : Failure) : Action ε σ α := fun s => ⟨.error failure, s, []⟩

def ofExcept (result : Except Failure α) : Action ε σ α := fun s => ⟨result, s, []⟩

def note (entries : List ε) : Action ε σ Unit := fun s => ⟨.ok (), s, entries⟩

def read : Action ε σ σ := fun s => ⟨.ok s, s, []⟩

def modify (f : σ → σ) : Action ε σ Unit := fun s => ⟨.ok (), f s, []⟩

/-- An action that answers with its own result and does not fail. -/
def attempt (x : Action ε σ α) : Action ε σ (Except Failure α) := fun s =>
  let outcome := x s
  ⟨.ok outcome.result, outcome.state, outcome.journal⟩

/-- An action on a part of a larger state. -/
def onPart (part : τ → σ) (withPart : τ → σ → τ) (x : Action ε σ α) : Action ε τ α := fun t =>
  let outcome := x (part t)
  ⟨outcome.result, withPart t outcome.state, outcome.journal⟩

/-! ## What each action does -/

@[simp] theorem pure_apply (a : α) (s : σ) : (pure a : Action ε σ α) s = ⟨.ok a, s, []⟩ := rfl

@[simp] theorem fail_apply (failure : Failure) (s : σ) :
    (fail failure : Action ε σ α) s = ⟨.error failure, s, []⟩ := rfl

@[simp] theorem modify_apply (f : σ → σ) (s : σ) :
    (modify f : Action ε σ Unit) s = ⟨.ok (), f s, []⟩ := rfl

theorem bind_apply_of_ok {x : Action ε σ α} {s : σ} {a : α} (h : (x s).result = .ok a)
    (f : α → Action ε σ β) :
    (x >>= f) s = ⟨(f a (x s).state).result, (f a (x s).state).state,
      (x s).journal ++ (f a (x s).state).journal⟩ := by
  change Action.bind x f s = _
  unfold Action.bind
  cases hx : x s with
  | mk result state journal =>
    simp only [hx] at h
    subst h
    rfl

theorem bind_apply_of_error {x : Action ε σ α} {s : σ} {failure : Failure}
    (h : (x s).result = .error failure) (f : α → Action ε σ β) :
    (x >>= f) s = ⟨.error failure, (x s).state, (x s).journal⟩ := by
  change Action.bind x f s = _
  unfold Action.bind
  cases hx : x s with
  | mk result state journal =>
    simp only [hx] at h
    subst h
    rfl

end Action

end ClusterLookup
