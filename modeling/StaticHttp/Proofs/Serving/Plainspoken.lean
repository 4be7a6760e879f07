import StaticHttp.Proofs.Files.Refusals
import StaticHttp.Proofs.Serving.Agreement
import StaticHttp.Proofs.Text.OneLine

/-!
# Computations that speak in lines

A connection is plainspoken when whatever fails on it says so in one line, and a loader when it does
for every path that is one line.  On a plainspoken connection a receive fails in one line whatever
was received: bytes stand between quotes in what is said about them.  `Says p m x` says of a
computation that every event that it adds to the history satisfies `p`, and that it fails in one
line.

    (Loader.ofTree t).Plainspoken                                          (plainspoken_ofTree)
    Says p m x and Says p (k a) y behind it → Says p (m >>= k) x           (Says.bind)
-/

namespace StaticHttp

/-! ## Failures of one line -/

/-- Whatever fails on a connection by itself says so in one line. -/
structure Connection.Plainspoken (c : Connection) : Prop where
  incoming : ∀ f, .failure f ∈ c.incoming → f.message.OneLine
  calls : ∀ call f, c.failureOf call = some f → f.message.OneLine

/-- Whatever a loader fails with, it says so in one line, when the path is one. -/
def Loader.Plainspoken (load : Loader) : Prop :=
  ∀ past file f, file.OneLine → load past file = .error f → f.message.OneLine

theorem Value.legible_sort (v : Value) : v.sort.Legible := by
  unfold sort
  split <;> decide

theorem Failure.legible_notComparable {sign : Text} (hsign : sign.Legible) (v : Value) :
    (notComparable sign v).message.Legible := by
  have hsort := v.legible_sort
  simp only [notComparable, message, Text.legible_append_iff]
  exact ⟨⟨⟨⟨by decide, hsign⟩, by decide⟩, hsort⟩, by decide⟩

theorem Failure.legible_notJoinable (v : Value) : (notJoinable v).message.Legible := by
  have hsort := v.legible_sort
  unfold notJoinable
  split
  · decide
  · simp only [message, Text.legible_append_iff]
    exact ⟨⟨by decide, hsort⟩, by decide⟩

theorem Failure.legible_incomplete (received : Nat) : (incomplete received).message.Legible := by
  simp only [incomplete, message, Text.legible_append_iff]
  exact ⟨⟨by decide, Text.legible_ofNat received⟩, by decide⟩

theorem Failure.legible_malformed (head : Bytes) : (malformed head).message.Legible :=
  Text.legible_append_iff.2 ⟨by decide, Text.legible_quotedBytes _⟩

/-- What a document failed to load for is said as the reason that was given for it. -/
theorem Loader.message_failureFor (file : Text) (f : Failure) (hf : f.message.OneLine)
    (hfile : file.OneLine) : (failureFor file f).message.OneLine := by
  have hreason : ∀ fault, (Failure.document (some fault) (some file) (some f.message)).message.OneLine := by
    intro fault
    cases hmessage : f.message with
    | nil => exact hfile
    | cons c text =>
      rw [hmessage] at hf
      exact hf
  unfold failureFor
  split
  · split
    · exact hreason _
    · exact hreason _
  · split
    · exact hreason _
    · exact hf

/-- The files of a tree are plainspoken: what the system says quotes the path. -/
theorem Loader.plainspoken_ofTree (t : Tree) : (Loader.ofTree t).Plainspoken := by
  intro past file f hfile h
  unfold ofTree document at h
  split at h
  · cases h
  · next g hread =>
    cases h
    exact message_failureFor file g (Tree.legible_read hread).oneLine hfile

namespace Connection.Plainspoken

variable {c c' : Connection} {size : Value}

/-- What is still to come of a plainspoken connection is plainspoken. -/
theorem of_incoming (hc : c.Plainspoken) {rest : List Delivery}
    (hrest : ∀ f, .failure f ∈ rest → .failure f ∈ c.incoming) :
    ({ c with incoming := rest } : Connection).Plainspoken := by
  refine ⟨fun f hf => hc.incoming f (hrest f hf), fun call f hf => hc.calls call f ?_⟩
  cases call <;> exact hf

theorem take_snd (hc : c.Plainspoken) (size : Value) : (c.take size).2.Plainspoken := by
  unfold take
  split
  · exact hc
  split
  · exact hc
  · exact hc
  split
  · exact hc
  · next f rest hin =>
    refine hc.of_incoming fun g hg => ?_
    rw [hin]
    exact List.mem_cons_of_mem _ hg
  · next bs rest hin =>
    split
    · exact hc
    · refine hc.of_incoming fun g hg => ?_
      rw [hin]
      unfold remaining at hg
      split at hg
      · exact List.mem_cons_of_mem _ hg
      · exact List.mem_cons_of_mem _ ((List.mem_cons.1 hg).resolve_left (by simp))

theorem take_fst (hc : c.Plainspoken) {f : Failure} (h : (c.take size).1 = .error f) :
    f.message.OneLine := by
  unfold take at h
  split at h
  · next g hg =>
    cases h
    exact hc.calls (.receive size) f hg
  split at h
  · cases h
    exact (Failure.legible_notComparable (by decide) size).oneLine
  · cases h
    exact Text.Legible.oneLine (by decide)
  split at h
  · cases h
  · next g rest hin =>
    cases h
    exact hc.incoming f (by rw [hin]; exact List.mem_cons_self)
  · split at h
    · next g hlimit =>
      cases h
      unfold limit at hlimit
      split at hlimit
      · cases hlimit
      · cases hlimit
      · cases hlimit
        exact Text.Legible.oneLine (by decide)
    · cases h

end Connection.Plainspoken

theorem Run.eq_ok_of_lift {σ α : Type} {r : Except Failure α} {a : α} {s t : σ}
    (h : Run.lift r s = .ok a t) : r = .ok a := by
  unfold Run.lift at h
  split at h
  · cases h
    rfl
  · cases h

namespace Exchange

theorem eq_ok_of_onHistory {α : Type} {m : Run History α} {a : α} {x y : Exchange}
    (h : onHistory m x = .ok a y) : m x.history = .ok a y.history := by
  unfold onHistory at h
  split at h
  · next heq =>
    cases h
    exact heq
  · cases h

/-! ## Computations that speak in lines -/

/-- What a computation on a plainspoken exchange adds to the history satisfies `p`, and what it
fails with is one line. -/
structure Says {α : Type} (p : Event → Prop) (m : Run Exchange α) (x : Exchange) : Prop where
  history : ∃ es, (Run.after m x).history.toList = x.history.toList ++ es ∧ ∀ e ∈ es, p e
  connection : (Run.after m x).connection.Plainspoken
  error : ∀ f, Run.outcome m x = .error f → f.message.OneLine

namespace Says

variable {α β : Type} {p : Event → Prop} {m : Run Exchange α} {x y : Exchange}

theorem of_ok {a : α} (h : m x = .ok a y) (hc : y.connection.Plainspoken) {es : List Event}
    (hh : y.history.toList = x.history.toList ++ es) (hp : ∀ e ∈ es, p e) : Says p m x := by
  refine ⟨⟨es, by rw [Run.after_of_ok h, hh], hp⟩, by rw [Run.after_of_ok h]; exact hc, ?_⟩
  intro f hf
  rw [Run.outcome_of_ok h] at hf
  cases hf

theorem of_error {f : Failure} (h : m x = .error f y) (hf : f.message.OneLine)
    (hc : y.connection.Plainspoken) {es : List Event}
    (hh : y.history.toList = x.history.toList ++ es) (hp : ∀ e ∈ es, p e) : Says p m x := by
  refine ⟨⟨es, by rw [Run.after_of_error h, hh], hp⟩, by rw [Run.after_of_error h]; exact hc, ?_⟩
  intro g hg
  rw [Run.outcome_of_error h] at hg
  obtain rfl := Except.error.inj hg
  exact hf

theorem lift {r : Except Failure α} (hx : x.connection.Plainspoken)
    (hr : ∀ f, r = .error f → f.message.OneLine) : Says p (Run.lift r) x := by
  cases r with
  | ok a => exact of_ok rfl hx (List.append_nil _).symm (by simp)
  | error f => exact of_error rfl (hr f rfl) hx (List.append_nil _).symm (by simp)

theorem note {source : Text} {level : Int} {message : Text} (hx : x.connection.Plainspoken)
    (h : p (.log ⟨source, level, message⟩)) : Says p (Exchange.note source level message) x :=
  of_ok rfl hx (toList_log x source level message) (List.forall_mem_singleton.2 h)

theorem call {c : ConnectionCall} {fails : Connection → Option Failure}
    (hx : x.connection.Plainspoken)
    (hfails : ∀ f, fails x.connection = some f → f.message.OneLine)
    (h : ∀ number, p (.connection number c)) : Says p (Exchange.call c fails) x := by
  have hp : ∀ e ∈ [Event.connection x.connection.number c], p e :=
    List.forall_mem_singleton.2 (h _)
  have hrecord : (x.record c).connection.Plainspoken := hx
  cases hf : fails x.connection with
  | none =>
    have hok : Exchange.call c fails x = .ok () (x.record c) := by
      rw [Exchange.call, hf]
    exact of_ok hok hrecord (toList_record x c) hp
  | some f =>
    have herror : Exchange.call c fails x = .error f (x.record c) := by
      rw [Exchange.call, hf]
    exact of_error herror (hfails f hf) hrecord (toList_record x c) hp

theorem mono {q : Event → Prop} (h : Says p m x) (hpq : ∀ e, p e → q e) : Says q m x := by
  obtain ⟨es, hes, hp⟩ := h.history
  exact ⟨⟨es, hes, fun e he => hpq e (hp e he)⟩, h.connection, h.error⟩

/-- What both parts of a sequence say is said by it. -/
theorem bind {k : α → Run Exchange β} (hm : Says p m x)
    (hk : ∀ a y, m x = .ok a y → y.connection.Plainspoken → Says p (k a) y) :
    Says p (m >>= k) x := by
  obtain ⟨es, hes, hp⟩ := hm.history
  have hc := hm.connection
  cases h : m x with
  | error f y =>
    rw [Run.after_of_error h] at hes hc
    exact of_error (Run.bind_of_error h k) (hm.error f (Run.outcome_of_error h)) hc hes hp
  | ok a y =>
    rw [Run.after_of_ok h] at hes hc
    have hy := hk a y h hc
    obtain ⟨fs, hfs, hq⟩ := hy.history
    have heq := Run.bind_of_ok h k
    refine ⟨⟨es ++ fs, ?_, List.forall_mem_append.2 ⟨hp, hq⟩⟩, ?_, ?_⟩
    · rw [Run.after_congr heq, hfs, hes, List.append_assoc]
    · rw [Run.after_congr heq]
      exact hy.connection
    · intro f hf
      rw [Run.outcome_congr heq] at hf
      exact hy.error f hf

end Says

end Exchange

open Exchange

/-! ## Receiving -/

/-- What a receive fails with on a plainspoken connection is one line, and so is the end of it. -/
theorem Request.error_readFrom {size : Value} {seen : Bytes} {x y : Exchange} {f : Failure}
    (hx : x.connection.Plainspoken) (h : readFrom size seen x = .error f y) :
    f.message.OneLine := by
  have hfst : ∀ g, (x.take size).1 = .error g → g.message.OneLine := fun g => hx.take_fst
  have hsnd : (x.take size).2.connection.Plainspoken := hx.take_snd size
  rcases htake : x.take size with ⟨result, x'⟩
  rw [htake] at hfst hsnd
  cases result with
  | error g =>
    rw [readFrom_of_error htake] at h
    cases h
    exact hfst f rfl
  | ok chunk =>
    by_cases hne : chunk = []
    · subst hne
      rw [readFrom_of_end htake] at h
      cases h
      exact (Failure.legible_incomplete _).oneLine
    cases hw : indexOf? blankLine (window seen chunk) with
    | some n =>
      rw [readFrom_of_found htake hne hw] at h
      cases h
    | none =>
      have hlt := weight_take htake hne
      rw [readFrom_of_more htake hne hw] at h
      exact Request.error_readFrom hsnd h
termination_by x.connection.weight

theorem Request.connection_readFrom (size : Value) (seen : Bytes) {x : Exchange}
    (hx : x.connection.Plainspoken) :
    (Run.after (readFrom size seen) x).connection.Plainspoken := by
  have hsnd : (x.take size).2.connection.Plainspoken := hx.take_snd size
  rcases htake : x.take size with ⟨result, x'⟩
  rw [htake] at hsnd
  cases result with
  | error g =>
    rw [Run.after_of_error (readFrom_of_error htake)]
    exact hsnd
  | ok chunk =>
    by_cases hne : chunk = []
    · subst hne
      rw [Run.after_of_error (readFrom_of_end htake)]
      exact hsnd
    cases hw : indexOf? blankLine (window seen chunk) with
    | some n =>
      rw [Run.after_of_ok (readFrom_of_found htake hne hw)]
      exact hsnd
    | none =>
      have hlt := weight_take htake hne
      rw [Run.after_congr (readFrom_of_more htake hne hw)]
      exact Request.connection_readFrom size (chunk.reverse ++ seen) hsnd
termination_by x.connection.weight

end StaticHttp
