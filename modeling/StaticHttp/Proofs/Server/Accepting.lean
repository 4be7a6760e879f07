import StaticHttp.Proofs.Server.Rounds

/-!
# The accept loop

The loop goes through rounds, each of which begins where the one before it has ended, and the
accepts meet the offers in their order.  It goes on as long as no shutdown comes and no failure
leaves a round.  Two failures do: that of an accept in which the operating system has no part, and
that of closing a connection for which there is no thread.

    ∃ rs, s.Accepts rs ∧ ∀ n, s.Turns P n (rs.take n)                            (rounds_accepts)
-/

namespace StaticHttp

namespace Round

/-- Each round begins where the one before it has ended. -/
def Follow : History → List Round → Prop
  | _, [] => True
  | past, r :: rs => r.past = past ∧ Follow (past.append r.events) rs

/-- Whether there is no round after this one. -/
def ends (o : Outside) (r : Round) : Bool := r.fault.isSome || r.shut o

theorem shut_congr {o o' : Outside} (h : o'.interrupts = o.interrupts) : shut o' = shut o := by
  funext r
  rw [shut, shut, Outside.comesIn_congr h]

theorem ends_congr {o o' : Outside} (h : o'.interrupts = o.interrupts) : ends o' = ends o := by
  funext r
  rw [ends, ends, shut_congr h]

end Round

namespace Site

/-- The rounds that the loop goes through. -/
structure Accepts (s : Site) (rs : List Round) : Prop where
  follow : Round.Follow s.history rs
  /-- The accepts meet the offers in their order. -/
  offers : rs.map Round.offer <+: s.outside.offers ++ [Outside.lastOffer]
  fits : ∀ r ∈ rs, r.Fits s.outside.fails s.server.handler
  /-- A round is the last one exactly when a failure leaves it or a shutdown comes. -/
  last : ∃ init r, rs = init ++ [r] ∧ r.ends s.outside = true ∧
    ∀ q ∈ init, q.ends s.outside = false

/-- The loop goes through the given rounds when it is allowed `n` of them. -/
def Turns (P : Interrupts) (s : Site) (n : Nat) (rs : List Round) : Prop :=
  ∃ t, rounds P n s = Run.ended (rs.findSome? Round.fault) t ∧
    Passage (s.later rs.length) (rs.any (Round.shut s.outside)) (rs.flatMap Round.events) t

section

variable {P : Interrupts} {s t : Site} {r : Round} {rs : List Round}

theorem rounds_succ (P : Interrupts) (n : Nat) (hrun : s.server.running = true) :
    rounds P (n + 1) s = (round P >>= fun _ => rounds P n) s := by
  rw [rounds, Run.get_bind, if_pos hrun]

theorem turns_zero (P : Interrupts) (s : Site) : s.Turns P 0 [] := ⟨s, rfl, .refl s⟩

/-- Nothing follows a round that is the last one. -/
theorem turns_last (hrun : s.server.running = true) (hround : round P s = Run.ended r.fault t)
    (hp : Passage (s.later 1) (r.shut s.outside) r.events t) (hends : r.ends s.outside = true)
    (n : Nat) : s.Turns P n ([r].take n) := by
  cases n with
  | zero => exact turns_zero P s
  | succ n =>
    rw [List.take_succ_cons, List.take_nil]
    have hfaults : [r].findSome? Round.fault = r.fault := by simp
    have hevents : [r].flatMap Round.events = r.events := by simp
    have hshut : [r].any (Round.shut s.outside) = r.shut s.outside := by simp
    refine ⟨t, ?_, by rw [hevents, hshut]; exact hp⟩
    rw [rounds_succ P n hrun, hfaults]
    cases hfault : r.fault with
    | some f =>
      rw [hfault] at hround
      exact Run.bind_of_error hround _
    | none =>
      rw [hfault] at hround
      rw [Round.ends, hfault, Option.isSome_none, Bool.false_or] at hends
      rw [hends] at hp
      rw [Run.bind_of_ok hround]
      exact rounds_of_not_running P hp.not_running n

/-- The loop goes on after any other round. -/
theorem turns_cons (hrun : s.server.running = true) (hround : round P s = Run.ended r.fault t)
    (hp : Passage (s.later 1) (r.shut s.outside) r.events t) (hends : r.ends s.outside = false)
    (h : ∀ n, t.Turns P n (rs.take n)) (n : Nat) : s.Turns P n ((r :: rs).take n) := by
  cases n with
  | zero => exact turns_zero P s
  | succ n =>
    obtain ⟨u, hrounds, hu⟩ := h n
    obtain ⟨hfault, hshut⟩ := Bool.or_eq_false_iff.1 hends
    have hnone : r.fault = none := Option.not_isSome_iff_eq_none.1 (by rw [hfault]; simp)
    rw [hnone] at hround
    rw [hshut] at hp
    have hinterrupts : t.outside.interrupts = s.outside.interrupts := by rw [hp.outside]; rfl
    have hlater : (s.later 1).later (rs.take n).length = s.later (r :: rs.take n).length := by
      rw [later, later, later, List.length_cons, Nat.add_comm, ← Outside.later_later]
    rw [List.take_succ_cons]
    refine ⟨u, ?_, ?_⟩
    · rw [rounds_succ P n hrun, Run.bind_of_ok hround, hrounds, List.findSome?_cons, hnone]
    · rw [List.any_cons, hshut, List.flatMap_cons, ← hlater, ← Round.shut_congr hinterrupts]
      exact (hp.later (rs.take n).length).trans hu

end

/-! ## All the rounds -/

section

variable {s t : Site} {r : Round} {rs : List Round}

theorem Accepts.single (hpast : r.past = s.history) (hoffer : r.offer = s.outside.takeOffer.1)
    (hfits : r.Fits s.outside.fails s.server.handler) (hends : r.ends s.outside = true) :
    s.Accepts [r] where
  follow := ⟨hpast, trivial⟩
  offers := by
    rw [List.map_singleton, hoffer]
    cases hoffers : s.outside.offers with
    | nil => rw [Outside.takeOffer_of_nil hoffers]; exact List.prefix_rfl
    | cons offer rest => rw [Outside.takeOffer_of_cons hoffers]; exact ⟨_, rfl⟩
  fits q hq := by
    rw [List.mem_singleton.1 hq]
    exact hfits
  last := ⟨[], r, rfl, hends, by simp⟩

theorem Accepts.cons {offer : Offer} {rest : List Offer}
    (hoffers : s.outside.offers = offer :: rest) (hpast : r.past = s.history)
    (hoffer : r.offer = offer)
    (hfits : r.Fits s.outside.fails s.server.handler) (hends : r.ends s.outside = false)
    (hp : Passage (s.later 1) false r.events t) (h : t.Accepts rs) : s.Accepts (r :: rs) where
  follow := by
    refine ⟨hpast, ?_⟩
    have hfollow := h.follow
    rw [hp.history] at hfollow
    exact hfollow
  offers := by
    have hbegins := h.offers
    rw [hp.outside] at hbegins
    rw [hoffers, List.map_cons, hoffer, List.cons_append, List.cons_prefix_cons]
    refine ⟨rfl, ?_⟩
    show rs.map Round.offer <+: (offer :: rest).tail ++ [Outside.lastOffer]
    rw [← hoffers, ← List.drop_one]
    exact hbegins
  fits q hq := by
    rcases List.mem_cons.1 hq with rfl | hq
    · exact hfits
    · have hq := h.fits q hq
      rw [hp.outside, hp.handler_eq] at hq
      exact hq
  last := by
    obtain ⟨init, q, rfl, hq, hinit⟩ := h.last
    have hinterrupts : t.outside.interrupts = s.outside.interrupts := by rw [hp.outside]; rfl
    rw [Round.ends_congr hinterrupts] at hq hinit
    refine ⟨r :: init, q, rfl, hq, ?_⟩
    exact List.forall_mem_cons.2 ⟨hends, hinit⟩

/-- **The loop goes through rounds**, and the first of them are what it goes through when it is
allowed no more of them. -/
theorem rounds_accepts (depth : Nat) (hrun : s.server.running = true) (hs : s.Bound)
    (ho : s.outside.Orderly) :
    ∃ rs, s.Accepts rs ∧ ∀ n, s.Turns (perform (depth + 1)) n (rs.take n) := by
  -- by induction on the offers that are left
  induction hoffers : s.outside.offers generalizing s with
  | nil =>
    obtain ⟨r, t, hround, hpast, hoffer, hfits, hp⟩ := round_fits depth hrun hs ho
    have hends : r.ends s.outside = true := by
      rw [Round.ends, Round.shut, hoffer, Outside.takeOffer_of_nil hoffers]
      exact Bool.or_true _
    exact ⟨[r], .single hpast hoffer hfits hends, turns_last hrun hround hp hends⟩
  | cons offer rest ih =>
    obtain ⟨r, t, hround, hpast, hoffer, hfits, hp⟩ := round_fits depth hrun hs ho
    cases hends : r.ends s.outside with
    | true => exact ⟨[r], .single hpast hoffer hfits hends, turns_last hrun hround hp hends⟩
    | false =>
      have hp' : Passage (s.later 1) false r.events t := by
        rw [← (Bool.or_eq_false_iff.1 hends).2]
        exact hp
      have hrest : t.outside.offers = rest := by
        rw [hp.outside]
        show s.outside.offers.drop 1 = rest
        rw [hoffers]
        rfl
      obtain ⟨rs, haccepts, hturns⟩ := ih (s := t) (by rw [hp'.server_eq]; exact hrun)
        (hp.bound hs) (by rw [hp.outside]; exact ho.later 1) hrest
      rw [Outside.takeOffer_of_cons hoffers] at hoffer
      exact ⟨r :: rs, haccepts.cons hoffers hpast hoffer hfits hends hp',
        turns_cons hrun hround hp hends hturns⟩

/-! ## The loop -/

/-- There are no more rounds than offers and the last one. -/
theorem Accepts.length_le (h : s.Accepts rs) : rs.length ≤ s.outside.offers.length + 1 := by
  have hlength := h.offers.length_le
  rw [List.length_map, List.length_append, List.length_singleton] at hlength
  exact hlength

/-- The events of the loop when it goes through the given rounds: when no failure leaves it, it
logs that it has come to its end. -/
def loopEvents (rs : List Round) : List Event :=
  rs.flatMap Round.events ++
    match rs.findSome? Round.fault with
    | none => [loopEnd]
    | some _ => []

/-- **The loop of a server that runs.** -/
theorem serve_accepts (depth : Nat) (hrun : s.server.running = true)
    (hlistener : s.server.listener.isSome = true) (ho : s.outside.Orderly) :
    ∃ (rs : List Round) (t : Site), s.Accepts rs ∧
      (∀ n, s.Turns (perform (depth + 1)) n (rs.take n)) ∧
      serve (perform (depth + 1)) s = Run.ended (rs.findSome? Round.fault) t ∧
      Passage (s.later rs.length) (rs.any (Round.shut s.outside)) (loopEvents rs) t := by
  obtain ⟨rs, haccepts, hturns⟩ := rounds_accepts depth hrun (fun _ => hlistener) ho
  obtain ⟨t, hrounds, hp⟩ := hturns (s.outside.offers.length + 1)
  rw [List.take_of_length_le haccepts.length_le] at hrounds hp
  unfold loopEvents
  cases hfault : rs.findSome? Round.fault with
  | none =>
    rw [hfault] at hrounds
    refine ⟨rs, t.push loopEnd, haccepts, hturns, ?_, ?_⟩
    · rw [serve_of_listener _ hlistener, Run.bind_of_ok hrounds, hfault]
      rfl
    · rw [hfault, ← Bool.or_false (rs.any _)]
      exact hp.trans (.push t rfl)
  | some f =>
    rw [hfault] at hrounds
    refine ⟨rs, t, haccepts, hturns, ?_, ?_⟩
    · rw [serve_of_listener _ hlistener, Run.bind_of_error hrounds, hfault]
      rfl
    · rw [hfault, List.append_nil]
      exact hp

end

end Site

end StaticHttp
