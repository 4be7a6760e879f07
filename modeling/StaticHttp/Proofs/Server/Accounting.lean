import StaticHttp.Proofs.Server.Accepting

/-!
# No connection is lost

When a connection for which there is no thread can be closed, and accepts fail only as the operating
system refuses, no failure leaves the loop: every connection that is accepted is either served by
one thread or reported and closed, every refusal is reported and followed by one pause, and the loop
goes on until a shutdown comes.  Without these two assumptions the loop goes on until a shutdown
comes or one of them is broken; then the failure leaves the loop and the server runs on with nobody
accepting.

    serveForever s = .ok () t                                          (serveForever_accounts)
    serveForever s = Run.ended (rs.findSome? Round.fault) t            (serveForever_carriesOn)
-/

namespace StaticHttp

open Site

/-! ## Offers that the loop puts up with -/

/-- An accept that brings a connection which can be closed, or that the operating system refuses. -/
def Offer.Regular (offer : Offer) : Prop :=
  match offer.outcome with
  | .ok (c, _) => c.closeFails = none
  | .error f => f.isSystem = true

namespace Round

variable {fails : History → Event → Option Failure} {h : Handler} {r : Round}

/-- No failure leaves a round whose accept met a regular offer. -/
theorem Fits.fault_eq_none (hfits : r.Fits fails h) (hoffer : r.offer.Regular) :
    r.fault = none := by
  unfold Offer.Regular at hoffer
  cases hfits with
  | served c address name before after accepted named started own first last work fault =>
    exact fault
  | unnamed c address f accepted named own work fault =>
    rw [accepted] at hoffer
    rw [fault, hoffer]
  | unstarted c address name f before after accepted named started own first last work fault =>
    rw [accepted] at hoffer
    rw [fault, hoffer]
  | timedOut f accepted timeout own work fault => exact fault
  | failed f accepted timeout system running own work fault => exact fault
  | stopped f accepted timeout system halted own work fault => exact fault
  | broken f accepted system own work fault =>
    rw [accepted] at hoffer
    cases system.symm.trans hoffer

end Round

namespace Site

variable {s : Site} {rs : List Round}

/-- No failure leaves the loop when all the offers are regular. -/
theorem Accepts.fault_eq_none (h : s.Accepts rs)
    (hoffers : ∀ offer ∈ s.outside.offers, offer.Regular) : ∀ r ∈ rs, r.fault = none := by
  intro r hr
  apply (h.fits r hr).fault_eq_none
  have hmem := h.offers.subset (List.mem_map_of_mem hr)
  rcases List.mem_append.1 hmem with hoffer | hlast
  · exact hoffers _ hoffer
  · rw [List.mem_singleton.1 hlast]
    rfl

/-- When no failure leaves the loop, a shutdown comes in the last round. -/
theorem Accepts.any_shut (h : s.Accepts rs) (hfault : ∀ r ∈ rs, r.fault = none) :
    rs.any (Round.shut s.outside) = true := by
  obtain ⟨init, r, rfl, hends, _⟩ := h.last
  have hr : r ∈ init ++ [r] := List.mem_append_right init List.mem_cons_self
  rw [Round.ends, hfault r hr] at hends
  exact List.any_eq_true.2 ⟨r, hr, hends⟩

end Site

/-! ## The loop -/

namespace Server

variable {s : Site}

/-- **The loop loses no connection and serves none twice.** -/
theorem serveForever_accounts (hrun : s.server.running = true)
    (hlistener : s.server.listener.isSome = true) (ho : s.outside.Orderly)
    (hoffers : ∀ offer ∈ s.outside.offers, offer.Regular) :
    ∃ rs : List Round, s.Accepts rs ∧ (∀ r ∈ rs, r.fault = none) ∧
      (∀ n, ∃ t, rounds (perform s.depth) n s = .ok () t ∧
        t.history = s.history.append ((rs.take n).flatMap Round.events)) ∧
      ∃ t, serveForever s = .ok () t ∧
        t.history = s.history.append (rs.flatMap Round.events ++ [loopEnd]) ∧
        t.server = s.server.halted := by
  obtain ⟨rs, t, haccepts, hturns, hserve, hp⟩ := serve_accepts _ hrun hlistener ho
  have hfault := haccepts.fault_eq_none hoffers
  have hnone : ∀ qs ⊆ rs, qs.findSome? Round.fault = none := by
    intro qs hqs
    exact List.findSome?_eq_none_iff.2 fun r hr => hfault r (hqs hr)
  refine ⟨rs, haccepts, hfault, ?_, t, ?_, ?_, ?_⟩
  · intro n
    obtain ⟨u, hrounds, hu⟩ := hturns n
    rw [hnone _ (List.take_subset n rs)] at hrounds
    exact ⟨u, hrounds, hu.history⟩
  · rw [hnone rs (List.Subset.refl rs)] at hserve
    exact hserve
  · rw [hp.history, loopEvents, hnone rs (List.Subset.refl rs)]
    rfl
  · rw [hp.server, haccepts.any_shut hfault]
    rfl

/-- Where a connection comes from. -/
def visitor : Address := some [.text "10.0.0.1", .int 5000]

/-- A server that runs and cannot start a thread for the second connection. -/
def crowded (offers : List Offer) : Site where
  server := ⟨.standard, Handler.greeter, true, some ⟨0, [.text "127.0.0.1", .int 8080]⟩, none⟩
  outside := { Outside.quiet with
    offers := offers
    fails := fun _ e => match e with
      | .startThread (.serving 2) _ => some (.other "RuntimeError" false "can't start new thread")
      | _ => none }
  history := .empty
  listeners := 1
  threads := ⟨0, none, []⟩

theorem crowded_orderly {offers : List Offer}
    (h : ∀ offer ∈ offers, ∀ i, offer.interruption = some i → i = .shutDown) :
    (crowded offers).outside.Orderly where
  interrupts := by
    intro past e i hi
    cases hi
  offers := h
  fails := by
    intro past e f hf
    simp only [crowded] at hf
    split at hf
    · cases hf
      rfl
    · cases hf

/-- A connection that is served, one for which there is no thread, an accept that times out, and a
connection that comes in as the server is shut down. -/
def busyDay : List Offer :=
  [⟨none, .ok (Handler.scriptRequest, visitor)⟩,
    ⟨none, .ok ({ Handler.scriptRequest with number := 2 }, visitor)⟩,
    ⟨none, .error (.system ⟨.timedOut, none, "timed out", none⟩)⟩,
    ⟨some .shutDown, .ok ({ Handler.scriptRequest with number := 3 }, none)⟩]

theorem busyDay_interruption :
    ∀ offer ∈ busyDay, ∀ i, offer.interruption = some i → i = .shutDown := by
  simp [busyDay]

theorem busyDay_regular : ∀ offer ∈ busyDay, offer.Regular := by
  simp [busyDay, Offer.Regular, Handler.scriptRequest, Failure.isSystem]

theorem serveForever_accounts_busyDay :
    (crowded busyDay).outside.Orderly ∧ (∀ offer ∈ busyDay, offer.Regular) ∧
      ∃ rs : List Round, (crowded busyDay).Accepts rs ∧ (∀ r ∈ rs, r.fault = none) ∧
        (∀ n, ∃ t, rounds (perform (crowded busyDay).depth) n (crowded busyDay) = .ok () t ∧
          t.history = History.empty.append ((rs.take n).flatMap Round.events)) ∧
        ∃ t, serveForever (crowded busyDay) = .ok () t ∧
          t.history = History.empty.append (rs.flatMap Round.events ++ [loopEnd]) ∧
          t.server = (crowded busyDay).server.halted :=
  ⟨crowded_orderly busyDay_interruption, busyDay_regular,
    serveForever_accounts rfl rfl (crowded_orderly busyDay_interruption) busyDay_regular⟩

/-- **The loop carries on** after every round that no failure leaves and in which no shutdown comes.
The failure that leaves it, if one does, is that of its last round: an accept in which the operating
system has no part, or the closing of a connection for which there is no thread. -/
theorem serveForever_carriesOn (hrun : s.server.running = true)
    (hlistener : s.server.listener.isSome = true) (ho : s.outside.Orderly) :
    ∃ (rs : List Round) (t : Site), s.Accepts rs ∧
      serveForever s = Run.ended (rs.findSome? Round.fault) t ∧
      t.history = s.history.append (loopEvents rs) ∧
      t.server = if rs.any (Round.shut s.outside) then s.server.halted else s.server := by
  obtain ⟨rs, t, haccepts, _, hserve, hp⟩ := serve_accepts _ hrun hlistener ho
  exact ⟨rs, t, haccepts, hserve, hp.history, hp.server⟩

/-- What the operating system says of a connection that it cannot close. -/
def unclosable : Failure := .system (.numbered 5 "Input/output error")

/-- An accept that fails in a way of its own, and then a connection. -/
def strangeDay : List Offer :=
  [⟨none, .error (.badValue "strange")⟩, ⟨none, .ok (Handler.scriptRequest, visitor)⟩]

/-- A connection for which there is no thread and that cannot be closed, and then another one. -/
def badDay : List Offer :=
  [⟨none, .ok ({ Handler.scriptRequest with number := 2, closeFails := some unclosable }, visitor)⟩,
    ⟨none, .ok (Handler.scriptRequest, visitor)⟩]

theorem serveForever_carriesOn_badDay : (crowded badDay).outside.Orderly ∧
    ∃ (rs : List Round) (t : Site), (crowded badDay).Accepts rs ∧
      serveForever (crowded badDay) = Run.ended (rs.findSome? Round.fault) t ∧
      t.history = History.empty.append (loopEvents rs) ∧
      t.server = if rs.any (Round.shut (crowded badDay).outside) then
        (crowded badDay).server.halted else (crowded badDay).server := by
  have ho : (crowded badDay).outside.Orderly := crowded_orderly (by simp [badDay])
  exact ⟨ho, serveForever_carriesOn rfl rfl ho⟩

/-- A failure leaves the loop, which accepts no more while the server runs on. -/
theorem serveForever_abandons :
    (∃ t, serveForever (crowded badDay) = .error unclosable t ∧ t.server.running = true ∧
      t.outside.offers = badDay.tail) ∧
    (∃ t, serveForever (crowded strangeDay) = .error (.badValue "strange") t ∧
      t.server.running = true ∧ t.outside.offers = strangeDay.tail) :=
  ⟨⟨_, rfl, rfl, rfl⟩, ⟨_, rfl, rfl, rfl⟩⟩

end Server

end StaticHttp
