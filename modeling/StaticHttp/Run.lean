import StaticHttp.Failure

/-!
# Computations that may fail

A computation carries a state along and keeps what it has done to it, also when it fails.

    a computation goes on where the one before it stopped            (bind_of_ok, bind_of_error)
    what `attempt m` does to the state is what `m` does to it       (attempt_ok, attempt_error)
-/

namespace StaticHttp

/-- A computation that may fail and that carries a state along, also when it fails. -/
abbrev Run (σ α : Type) := EStateM Failure σ α

namespace Run

variable {σ α β : Type}

/-- A result that is known already. -/
def lift (r : Except Failure α) : Run σ α := fun s =>
  match r with
  | .ok a => .ok a s
  | .error f => .error f s

/-- The outcome of a computation, as a value. -/
def attempt (m : Run σ α) : Run σ (Except Failure α) := fun s =>
  match m s with
  | .ok a s => .ok (.ok a) s
  | .error f s => .ok (.error f) s

/-! ## Lemmas -/

@[simp] theorem pure_apply (a : α) (s : σ) : (pure a : Run σ α) s = .ok a s := rfl

@[simp] theorem throw_apply (f : Failure) (s : σ) : (throw f : Run σ α) s = .error f s := rfl

@[simp] theorem get_bind (k : σ → Run σ α) (s : σ) : ((get : Run σ σ) >>= k) s = k s s := rfl

@[simp] theorem modify_bind (g : σ → σ) (k : Unit → Run σ α) (s : σ) :
    ((modify g : Run σ Unit) >>= k) s = k () (g s) := rfl

theorem bind_of_ok {m : Run σ α} {s s' : σ} {a : α} (h : m s = .ok a s') (k : α → Run σ β) :
    (m >>= k) s = k a s' := by
  simp [Bind.bind, EStateM.bind, h]

theorem bind_of_error {m : Run σ α} {s s' : σ} {f : Failure} (h : m s = .error f s')
    (k : α → Run σ β) : (m >>= k) s = .error f s' := by
  simp [Bind.bind, EStateM.bind, h]

theorem lift_of_ok {r : Except Failure α} {a : α} (h : r = .ok a) (s : σ) :
    (lift r : Run σ α) s = .ok a s := by
  subst h
  rfl

theorem lift_of_error {r : Except Failure α} {f : Failure} (h : r = .error f) (s : σ) :
    (lift r : Run σ α) s = .error f s := by
  subst h
  rfl

theorem attempt_ok {m : Run σ α} {s s' : σ} {a : α} (h : m s = .ok a s') :
    attempt m s = .ok (.ok a) s' := by
  simp [attempt, h]

theorem attempt_error {m : Run σ α} {s s' : σ} {f : Failure} (h : m s = .error f s') :
    attempt m s = .ok (.error f) s' := by
  simp [attempt, h]

end Run

end StaticHttp
