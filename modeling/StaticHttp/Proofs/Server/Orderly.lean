import StaticHttp.Proofs.Server.Halting

/-!
# An orderly outside

Nothing but shutdowns comes in between, and nothing is refused but the start of a thread for a
connection and, by the operating system, the setting up of a listener.  Then every call that waits
for the outside is a passage, on which the server is shut down exactly when it runs and a shutdown
comes.

    call P e s = Run.ended (s.outside.fails s.history e) t ∧ Passage s _ (e :: es) t
                                                                                 (call_passage)
-/

namespace StaticHttp

/-! ## The outside -/

/-- What the operating system, or whoever starts threads, may refuse. -/
def Event.MayFail : Event → Failure → Prop
  | .startThread (.serving _) _, f => f.isFinal = false
  | .listener _ .close, _ => False
  | .listener _ _, f => f.isSystem = true
  | _, _ => False

/-- Whether a call is one of the loop's own that something can come in between of. -/
def Event.isAwaited : Event → Bool
  | .startThread _ _ => true
  | .sleep _ => true
  | _ => false

namespace Outside

/-- Nothing but shutdowns comes in between, and nothing fails but the start of a thread that serves
a connection, with a failure that is not final, and the setting up of a listener. -/
structure Orderly (o : Outside) : Prop where
  interrupts : ∀ past e i, o.interrupts past e = some i → i = .shutDown
  offers : ∀ offer ∈ o.offers, ∀ i, offer.interruption = some i → i = .shutDown
  fails : ∀ past e f, o.fails past e = some f → e.MayFail f

/-- Whether something comes in between during some calls of the loop. -/
def comesIn (o : Outside) : History → List Event → Bool
  | _, [] => false
  | past, e :: es => (e.isAwaited && (o.interrupts past e).isSome) || o.comesIn (past.push e) es

variable {o : Outside}

theorem Orderly.fails_eq_none (h : o.Orderly) {e : Event} (he : ∀ f, ¬ e.MayFail f)
    (past : History) : o.fails past e = none := by
  cases hf : o.fails past e with
  | none => rfl
  | some f => exact absurd (h.fails past e f hf) (he f)

theorem Orderly.letsStop (h : o.Orderly) : o.LetsStop where
  join past _ _ := h.fails_eq_none (fun _ => id) past
  close past _ := h.fails_eq_none (fun _ => id) past

theorem comesIn_append (past : History) (es fs : List Event) :
    o.comesIn past (es ++ fs) = (o.comesIn past es || o.comesIn (past.append es) fs) := by
  induction es generalizing past with
  | nil => rfl
  | cons e es ih =>
    rw [List.cons_append, comesIn, comesIn, ih, History.append_cons, Bool.or_assoc]

theorem comesIn_of_deeds {es : List Event} (h : deeds es = []) (past : History) :
    o.comesIn past es = false := by
  induction es generalizing past with
  | nil => rfl
  | cons e es ih =>
    rw [deeds_cons, List.append_eq_nil_iff] at h
    have he : e.isAwaited = false := by
      cases e with
      | startThread purpose name => cases h.1
      | sleep seconds => cases h.1
      | _ => rfl
    rw [comesIn, he, ih h.2]
    rfl

theorem comesIn_cons {e : Event} {es : List Event} (he : e.isAwaited = true) (hes : deeds es = [])
    (past : History) : o.comesIn past (e :: es) = (o.interrupts past e).isSome := by
  rw [comesIn, comesIn_of_deeds hes, he, Bool.true_and, Bool.or_false]

theorem comesIn_congr {o' : Outside} (h : o'.interrupts = o.interrupts) (past : History)
    (es : List Event) : o'.comesIn past es = o.comesIn past es := by
  induction es generalizing past with
  | nil => rfl
  | cons e es ih => rw [comesIn, comesIn, h, ih]

/-! ## Offers -/

/-- The outside after so many offers. -/
def later (o : Outside) (n : Nat) : Outside := { o with offers := o.offers.drop n }

theorem later_later (o : Outside) (m n : Nat) : (o.later m).later n = o.later (m + n) := by
  simp [later, List.drop_drop]

theorem Orderly.later (h : o.Orderly) (n : Nat) : (o.later n).Orderly where
  interrupts := h.interrupts
  offers offer hoffer := h.offers offer (List.mem_of_mem_drop hoffer)
  fails := h.fails

theorem takeOffer_snd (o : Outside) : o.takeOffer.2 = o.later 1 := by
  obtain ⟨offers, pauses, fails, interrupts, boundName⟩ := o
  cases offers <;> rfl

theorem takeOffer_of_nil (h : o.offers = []) : o.takeOffer.1 = lastOffer := by
  rw [takeOffer, h]

theorem takeOffer_of_cons {offer : Offer} {rest : List Offer} (h : o.offers = offer :: rest) :
    o.takeOffer.1 = offer := by
  rw [takeOffer, h]

theorem Orderly.offer (h : o.Orderly) {i : Interruption}
    (hi : o.takeOffer.1.interruption = some i) : i = .shutDown := by
  cases hoffers : o.offers with
  | nil =>
    rw [takeOffer_of_nil hoffers] at hi
    exact (Option.some.inj hi).symm
  | cons offer rest =>
    rw [takeOffer_of_cons hoffers] at hi
    exact h.offers offer (by rw [hoffers]; exact List.mem_cons_self) i hi

end Outside

/-! ## Calls that can be interrupted -/

namespace Site

/-- The site after so many offers. -/
def later (s : Site) (n : Nat) : Site := { s with outside := s.outside.later n }

/-- A server that runs has a listener. -/
def Bound (s : Site) : Prop := s.server.running = true → s.server.listener.isSome = true

namespace Passage

variable {s t : Site} {a : Bool} {es : List Event}

theorem running_eq (h : Passage s a es t) :
    t.server.running = (s.server.running && !a) := by
  rw [h.server]
  cases a <;> simp [Server.halted]

theorem handler_eq (h : Passage s a es t) : t.server.handler = s.server.handler := by
  rw [h.server]
  cases a <;> rfl

theorem later (h : Passage s a es t) (n : Nat) : Passage (s.later n) a es (t.later n) where
  history := h.history
  outside := by
    show t.outside.later n = s.outside.later n
    rw [h.outside]
  listeners := h.listeners
  made := h.made
  started := h.started
  begun := h.begun
  server := h.server
  running := h.running
  joined := h.joined
  closing := h.closing

theorem bound (h : Passage s a es t) (hs : s.Bound) : t.Bound := by
  intro hrun
  rw [h.server] at hrun ⊢
  cases a with
  | true => cases hrun
  | false => exact hs hrun

end Passage

variable {s : Site} {e : Event}

/-- When a shutdown comes, the server is shut down if it runs. -/
theorem interrupted_passage (depth : Nat) {i : Option Interruption} (ho : s.outside.LetsStop)
    (hs : s.Bound) (hi : ∀ j, i = some j → j = .shutDown) :
    ∃ es t, interrupted (perform (depth + 1)) i s = .ok () t ∧
      Passage s (s.server.running && i.isSome) es t ∧ deeds es = [] := by
  cases i with
  | none =>
    rw [Option.isSome_none, Bool.and_false]
    exact ⟨[], s, rfl, .refl s, rfl⟩
  | some j =>
    obtain rfl := hi j rfl
    cases hrun : s.server.running with
    | true => exact stop_passage depth hrun (hs hrun) ho
    | false => exact ⟨[], s, stop_of_not_running _ hrun, .refl s, rfl⟩

/-- A call that is not one on a listener. -/
theorem call_passage (depth : Nat) (ho : s.outside.Orderly) (hs : s.Bound)
    (he : e.ofListener = false) :
    ∃ es t, call (perform (depth + 1)) e s = Run.ended (s.outside.fails s.history e) t ∧
      Passage s (s.server.running && (s.outside.interrupts s.history e).isSome) (e :: es) t ∧
      deeds es = [] := by
  obtain ⟨es, t, hi, hp, hes⟩ := interrupted_passage depth (s := s.push e) ho.letsStop hs
    (ho.interrupts s.history e)
  exact ⟨es, t, call_eq hi hp.outside, (Passage.push s he).trans hp, hes⟩

end Site

end StaticHttp
