import StaticHttp.Connection

/-!
# What a computation comes to

A run of a computation has an outcome and leaves a state behind.  When the state is an exchange,
the run is known from outside by the events that it adds to the history.

    (m.after x).history.toList = x.history.toList ++ es → events m x = es      (events_eq)
-/

namespace StaticHttp

namespace Run

variable {σ α : Type}

/-- What a computation gives. -/
def outcome (m : Run σ α) (s : σ) : Except Failure α :=
  match m s with
  | .ok a _ => .ok a
  | .error f _ => .error f

/-- The state that a computation leaves behind. -/
def after (m : Run σ α) (s : σ) : σ :=
  match m s with
  | .ok _ t => t
  | .error _ t => t

/-- The end of a computation that gives nothing but a failure perhaps. -/
def ended (fault : Option Failure) (t : σ) : EStateM.Result Failure σ Unit :=
  match fault with
  | none => .ok () t
  | some f => .error f t

@[simp] theorem ended_none (t : σ) : ended none t = .ok () t := rfl

@[simp] theorem ended_some (f : Failure) (t : σ) : ended (some f) t = .error f t := rfl

theorem outcome_of_ok {m : Run σ α} {s t : σ} {a : α} (h : m s = .ok a t) :
    outcome m s = .ok a := by
  rw [outcome, h]

theorem outcome_of_error {m : Run σ α} {s t : σ} {f : Failure} (h : m s = .error f t) :
    outcome m s = .error f := by
  rw [outcome, h]

theorem outcome_congr {m m' : Run σ α} {s s' : σ} (h : m s = m' s') :
    outcome m s = outcome m' s' := by
  unfold outcome
  rw [h]

theorem after_congr {m m' : Run σ α} {s s' : σ} (h : m s = m' s') : after m s = after m' s' := by
  unfold after
  rw [h]

theorem after_of_ok {m : Run σ α} {s t : σ} {a : α} (h : m s = .ok a t) : after m s = t := by
  rw [after, h]

theorem after_of_error {m : Run σ α} {s t : σ} {f : Failure} (h : m s = .error f t) :
    after m s = t := by
  rw [after, h]

theorem eq_ok_of_outcome {m : Run σ α} {s : σ} {a : α} (h : outcome m s = .ok a) :
    m s = .ok a (after m s) := by
  unfold outcome at h
  unfold after
  cases hm : m s with
  | ok b t =>
    rw [hm] at h
    obtain rfl := Except.ok.inj h
    rfl
  | error f t =>
    rw [hm] at h
    cases h

theorem eq_error_of_outcome {m : Run σ α} {s : σ} {f : Failure} (h : outcome m s = .error f) :
    m s = .error f (after m s) := by
  unfold outcome at h
  unfold after
  cases hm : m s with
  | ok b t =>
    rw [hm] at h
    cases h
  | error g t =>
    rw [hm] at h
    obtain rfl := Except.error.inj h
    rfl

theorem after_of_ended {m : Run σ Unit} {s t : σ} {fault : Option Failure}
    (h : m s = ended fault t) : after m s = t := by
  cases fault with
  | none => exact after_of_ok h
  | some f => exact after_of_error h

theorem after_attempt (m : Run σ α) (s : σ) : after (attempt m) s = after m s := by
  unfold after attempt
  cases m s <;> rfl

/-- What both parts of a sequence establish holds after it. -/
theorem after_bind {β : Type} {p : σ → Prop} {m : Run σ α} {k : α → Run σ β} {s : σ}
    (hm : p (after m s)) (hk : ∀ a t, m s = .ok a t → p t → p (after (k a) t)) :
    p (after (m >>= k) s) := by
  cases h : m s with
  | ok a t =>
    rw [after_of_ok h] at hm
    rw [after_congr (bind_of_ok h k)]
    exact hk a t h hm
  | error f t =>
    rw [after_of_error h] at hm
    rw [after_of_error (bind_of_error h k)]
    exact hm

end Run

namespace Exchange

/-- The events of a computation on an exchange. -/
def events {α : Type} (m : Run Exchange α) (x : Exchange) : List Event :=
  (Run.after m x).history.since x.history.size

theorem events_eq {α : Type} {m : Run Exchange α} {x : Exchange} {es : List Event}
    (h : (Run.after m x).history.toList = x.history.toList ++ es) : events m x = es := by
  rw [events, History.since, h, ← History.length_toList, List.drop_left]

@[simp] theorem toList_record (x : Exchange) (call : ConnectionCall) :
    (x.record call).history.toList =
      x.history.toList ++ [.connection x.connection.number call] :=
  History.toList_push _ _

@[simp] theorem toList_log (x : Exchange) (source : Text) (level : Int) (message : Text) :
    (x.log source level message).history.toList =
      x.history.toList ++ [.log ⟨source, level, message⟩] :=
  History.toList_log _ _ _ _

end Exchange

end StaticHttp
