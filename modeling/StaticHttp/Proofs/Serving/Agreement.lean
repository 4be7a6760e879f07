import StaticHttp.Proofs.Serving.Effects

/-!
# What of a request can be seen in its response

How a request arrives does not show: by how many receives, cut up in what way, and with what behind
its head.  Two heads that are the same are answered with the same entries logged, the same bytes
sent, and the connection closed; and of two heads that have only their second word in common the
response is the same.

    Arrives h address x root documents head →
      outcome and effects of h.serve address are told by root, documents, address and head
                                                                                   (serve_shows)
    sent (events (h.serve address) x) = sent (events (h'.serve address) x')       (serve_agrees)
-/

namespace StaticHttp

/-- The failure of a call on a connection, if it fails. -/
def Connection.failureOf (c : Connection) : ConnectionCall → Option Failure
  | .setTimeout _ => c.setTimeoutFails
  | .receive _ => c.receiveFails
  | .send _ => c.sendFails
  | .close => c.closeFails

namespace Handler

/-! ## Connections on which nothing fails -/

/-- No call that is made on the connection when it is served fails. -/
def Unfailing (h : Handler) (address : Option (List Value)) (x : Exchange) : Prop :=
  ∀ number call, (number, call) ∈ calls (Exchange.events (h.serve address) x) →
    x.connection.failureOf call = none

/-- A request with the given head arrives on a connection on which nothing fails, at a handler that
answers from the given documents. -/
structure Arrives (h : Handler) (address : Option (List Value)) (x : Exchange) (root : Value)
    (documents : Text → Except Failure Bytes) (head : Bytes) : Prop where
  offers : h.Offers x root documents
  positive : Connection.Positive h.receiveSize
  unfailing : h.Unfailing address x
  stream_eq : ∃ n, Request.indexOf? Request.blankLine x.connection.stream = some n ∧
    x.connection.stream.take n = head

section

variable {h h' : Handler} {address : Option (List Value)} {peer : Text} {x x' : Exchange}

theorem Unfailing.eq_none (hu : h.Unfailing address x) (hpeer : peerName address = .ok peer) :
    x.connection.setTimeoutFails = none ∧ x.connection.receiveFails = none ∧
      x.connection.closeFails = none ∧
      ∀ payload, Prepared h peer x payload → x.connection.sendFails = none := by
  obtain ⟨count, sent, _, hsent, hcount, hcalls, _⟩ := serveAs_events h peer x
  rw [← serve_of_ok hpeer] at hcalls
  have hcall : ∀ call ∈ h.spoken count sent ++ [.close], x.connection.failureOf call = none := by
    intro call hmem
    apply hu x.connection.number call
    rw [hcalls, mem_callsOn]
    exact ⟨rfl, hmem⟩
  have hset : x.connection.setTimeoutFails = none :=
    hcall (.setTimeout h.requestTimeout) (by simp [spoken])
  have hpos := hcount hset
  refine ⟨hset, hcall (.receive h.receiveSize) ?_, hcall .close (by simp), ?_⟩
  · simp [spoken]
    omega
  · intro payload hp
    refine hcall (.send payload) ?_
    simp [spoken, (hsent payload).2 hp]

/-- The head that arrives is received, which does not show. -/
theorem Arrives.received {root : Value} {documents : Text → Except Failure Bytes} {head : Bytes}
    (ha : Arrives h address x root documents head) (hpeer : peerName address = .ok peer) :
    ∃ y, Received h x head y ∧ Quiet x y ∧ h.Offers y root documents := by
  obtain ⟨hset, hreceive, _, _⟩ := ha.unfailing.eq_none hpeer
  obtain ⟨n, hn, rfl⟩ := ha.stream_eq
  obtain ⟨count, y, hr, hconnection, hhistory⟩ := exists_received ha.positive hset hreceive hn
  rw [Exchange.toList_record, List.append_assoc] at hhistory
  refine ⟨y, hr, ⟨⟨_, hhistory, ?_⟩, hconnection⟩, ha.offers.of_loaded ?_⟩
  · rw [effects_append, effects, effects, List.filterMap_replicate_of_none rfl]
    rfl
  · rw [History.loaded, hhistory, List.filterMap_append, List.filterMap_append,
      List.filterMap_replicate_of_none rfl]
    exact List.append_nil _

/-! ## What shows -/

/-- What an exchange comes to, and the effects it has, are told by the root, the documents, the peer
and the head. -/
theorem converse_shows (root : Value) (documents : Text → Except Failure Bytes)
    {address : Option (List Value)} {peer : Text} (hpeer : peerName address = .ok peer)
    (head : Bytes) :
    ∃ result done, ∀ (h : Handler) (x : Exchange), Arrives h address x root documents head →
      Shows (h.converse peer) x result done := by
  obtain ⟨result, done, hreply⟩ := reply_shows root documents peer head
  cases result with
  | error f =>
    refine ⟨.error f, done, fun h x ha => ?_⟩
    obtain ⟨y, hr, hquiet, ho⟩ := ha.received hpeer
    have hshows : Shows (h.reply peer head >>= Exchange.send) y (.error f) done :=
      (hreply h y ho).bind_of_error
    exact hshows.of_quiet hr.converse_eq hquiet
  | ok payload =>
    refine ⟨.ok (), done ++ [.send payload], fun h x ha => ?_⟩
    obtain ⟨y, hr, hquiet, ho⟩ := ha.received hpeer
    have hy := hreply h y ho
    -- the call that sends is made, and so it does not fail
    have hp : Prepared h peer x payload := hr.prepared (Run.eq_ok_of_outcome hy.outcome_eq)
    have hsend : (Run.after (h.reply peer head) y).connection.sendFails = none := by
      obtain ⟨rest, hrest⟩ := hy.connection
      obtain ⟨rest', hrest'⟩ := hquiet.connection
      rw [hrest, hrest']
      exact (ha.unfailing.eq_none hpeer).2.2.2 payload hp
    exact (hy.bind (send_shows hsend payload)).of_quiet hr.converse_eq hquiet

/-- What serving a connection comes to, and the effects it has, are told by the root, the documents,
the address and the head. -/
theorem serve_shows (root : Value) (documents : Text → Except Failure Bytes)
    (address : Option (List Value)) (head : Bytes) :
    ∃ result done, ∀ (h : Handler) (x : Exchange), Arrives h address x root documents head →
      Run.outcome (h.serve address) x = result ∧
        effects (Exchange.events (h.serve address) x) = done := by
  cases hpeer : peerName address with
  | error f =>
    refine ⟨.error f, [], fun h x _ => ⟨?_, ?_⟩⟩
    · exact Run.outcome_of_error (s := x) (t := x) (by rw [serve, hpeer])
    · rw [events_serve_of_error hpeer]
      rfl
  | ok peer =>
    obtain ⟨result, done, hconverse⟩ := converse_shows root documents hpeer head
    refine ⟨settled result, done ++ farewell peer result, fun h x ha => ?_⟩
    have hshows := serveAs_shows (hconverse h x ha) (ha.unfailing.eq_none hpeer).2.2.1
    rw [serve_of_ok hpeer]
    exact ⟨hshows.outcome_eq, hshows.effects_events⟩

/-! ## What is sent -/

/-- The bytes that a call sends. -/
def sent? (c : Nat × ConnectionCall) : Option Bytes :=
  match c.2 with
  | .send bytes => some bytes
  | _ => none

/-- What is sent among some events. -/
def sent (es : List Event) : List Bytes := (calls es).filterMap sent?

theorem sent_serve (h : Handler) (hpeer : peerName address = .ok peer) (x : Exchange) :
    (sent (Exchange.events (h.serve address) x)).length ≤ 1 ∧
      ∀ payload, payload ∈ sent (Exchange.events (h.serve address) x) ↔
        Prepared h peer x payload := by
  obtain ⟨count, payloads, hlen, hsent, _, hcalls, _⟩ := serveAs_events h peer x
  have heq : sent (Exchange.events (h.serve address) x) = payloads := by
    rw [serve_of_ok hpeer, sent, hcalls, callsOn, List.filterMap_map]
    simp [spoken, sent?, List.filterMap_map, Function.comp_def]
  rw [heq]
  exact ⟨hlen, hsent⟩

/-- Two lists of at most one member are equal when they have the same one. -/
theorem eq_of_mem_iff {α : Type} {xs ys : List α} (hx : xs.length ≤ 1) (hy : ys.length ≤ 1)
    (h : ∀ a, a ∈ xs ↔ a ∈ ys) : xs = ys := by
  cases xs with
  | nil =>
    cases ys with
    | nil => rfl
    | cons b ys => exact absurd ((h b).2 List.mem_cons_self) List.not_mem_nil
  | cons a xs =>
    obtain rfl : xs = [] := List.eq_nil_of_length_eq_zero (by simpa using hx)
    obtain ⟨b, hb⟩ : ∃ b, ys = [b] := by
      apply List.length_eq_one_iff.1
      have := List.length_pos_of_mem ((h a).1 List.mem_cons_self)
      omega
    rw [hb] at h ⊢
    rw [List.mem_singleton.1 ((h a).1 List.mem_cons_self)]

/-- The response to a path is prepared from any head with the path in it. -/
theorem Arrives.prepared {root : Value} {documents : Text → Except Failure Bytes}
    {head head' payload : Bytes} (ha : Arrives h address x root documents head)
    (ha' : Arrives h' address x' root documents head')
    (hword : (Request.words head)[1]? = (Request.words head')[1]?)
    (hpeer : peerName address = .ok peer) (hp : Prepared h peer x payload) :
    Prepared h' peer x' payload := by
  obtain ⟨response, _, hrouted, hbytes⟩ := hp
  obtain ⟨y, hy, _, ho⟩ := ha.received hpeer
  obtain ⟨y', hy', _, ho'⟩ := ha'.received hpeer
  cases hrouted with
  | @intro first z path past hr hpath hroute =>
    obtain ⟨rfl, rfl⟩ := hr.unique hy
    -- in both runs the path is routed to the same outcome, here that of the first run
    obtain ⟨result, es, hresult⟩ := Router.route_eq root documents path
    have hfirst := (hresult h.router _ ho.root_eq (ho.load_announced peer first)).1
    have hsecond := (hresult h'.router _ ho'.root_eq (ho'.load_announced peer head')).1
    rw [Run.outcome_of_ok hroute] at hfirst
    rw [← hfirst] at hsecond
    exact ⟨response, _, .intro hy' (Request.path_congr hword hpath)
      (Run.eq_ok_of_outcome hsecond), hbytes⟩

/-- **Nothing of a request shows but its head, and nothing of a head in the response but the second
word.** -/
theorem serve_agrees {root : Value} {documents : Text → Except Failure Bytes} {head head' : Bytes}
    (ha : Arrives h address x root documents head)
    (ha' : Arrives h' address x' root documents head') :
    (head = head' →
      Run.outcome (h.serve address) x = Run.outcome (h'.serve address) x' ∧
        effects (Exchange.events (h.serve address) x) =
          effects (Exchange.events (h'.serve address) x')) ∧
      ((Request.words head)[1]? = (Request.words head')[1]? →
        sent (Exchange.events (h.serve address) x) =
          sent (Exchange.events (h'.serve address) x')) := by
  constructor
  · rintro rfl
    obtain ⟨result, done, hshows⟩ := serve_shows root documents address head
    obtain ⟨houtcome, heffects⟩ := hshows h x ha
    obtain ⟨houtcome', heffects'⟩ := hshows h' x' ha'
    exact ⟨houtcome.trans houtcome'.symm, heffects.trans heffects'.symm⟩
  · intro hword
    cases hpeer : peerName address with
    | error f => rw [events_serve_of_error hpeer, events_serve_of_error hpeer]
    | ok peer =>
      obtain ⟨hlen, hmem⟩ := sent_serve h hpeer x
      obtain ⟨hlen', hmem'⟩ := sent_serve h' hpeer x'
      refine eq_of_mem_iff hlen hlen' fun payload => ?_
      rw [hmem, hmem']
      exact ⟨ha.prepared ha' hword hpeer, ha'.prepared ha hword.symm hpeer⟩

end

/-- A request for the same script in other words, with more bytes behind its head. -/
def otherRequest : Connection :=
  { scriptRequest with
    number := 2
    incoming := [.bytes (Bytes.ofAscii "PUT\t /a.js\r\nHost: b\r\n\r\nmore")] }

theorem serve_agrees_otherRequest :
    sent (Exchange.events (greeter.serve none) ⟨.empty, scriptRequest⟩) =
      sent (Exchange.events (Handler.serve { greeter with receiveSize := .int 3 } none)
        ⟨.empty, otherRequest⟩) := by
  have ha : Arrives greeter none ⟨.empty, scriptRequest⟩ (.text "/srv")
      (fun _ => .ok (Bytes.ofAscii "Hi")) (scriptRequest.stream.take 18) :=
    ⟨⟨rfl, fun _ _ _ => rfl⟩, ⟨16, rfl, by decide⟩, fun _ call _ => by cases call <;> rfl,
      ⟨18, by decide, rfl⟩⟩
  have ha' : Arrives { greeter with receiveSize := .int 3 } none ⟨.empty, otherRequest⟩
      (.text "/srv") (fun _ => .ok (Bytes.ofAscii "Hi")) (otherRequest.stream.take 19) :=
    ⟨⟨rfl, fun _ _ _ => rfl⟩, ⟨3, rfl, by decide⟩, fun _ call _ => by cases call <;> rfl,
      ⟨19, by decide, rfl⟩⟩
  exact (serve_agrees ha ha').2 (by decide)

end Handler

end StaticHttp
