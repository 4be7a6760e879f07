import StaticHttp.Proofs.Serving.Protocol
import StaticHttp.Proofs.Serving.Routing

/-!
# What is sent can be read

The media type in the head of a response is told by bytes of the request.  They are those of a
word, in which no line ends, and so whoever reads what is sent finds the three lines of its head,
the number of bytes behind them, and the body, whatever was requested and whatever the body is.

    sent payload → Frames payload status mediaType response.body k             (payload_framed)
-/

namespace StaticHttp.Handler

open Response

/-- What is routed bears one of the statuses, and a media type that breaks no line. -/
theorem Routed.bears {h : Handler} {peer : Text} {x y : Exchange} {response : Response}
    (hr : Routed h peer x response y) :
    ∃ status mediaType, response.Bears status mediaType := by
  obtain ⟨_, hpath, hroute⟩ := hr
  obtain ⟨word, hmem, _, rfl⟩ := Request.path_eq_ok hpath
  exact Router.route_bears (Request.isSpace_of_mem_words hmem) hroute

/-- A payload is read back from a connection that delivers it, however it is cut up. -/
theorem readHead_of_frames {payload status mediaType body : Bytes} {k : Nat}
    (h : Frames payload status mediaType body k) {size : Value}
    (hsize : Connection.Positive size) {chunks : List Bytes} (hne : [] ∉ chunks)
    (hchunks : chunks.flatten = payload) {z : Exchange} (hfails : z.connection.receiveFails = none)
    (hin : z.connection.incoming = chunks.map .bytes) :
    Run.outcome (Request.readHead size) z = .ok (payload.take k) := by
  have hstream : z.connection.stream = payload := by
    rw [Connection.stream, hin, Connection.stream_map_bytes hne, hchunks]
  have hk := h.indexOf_eq
  rw [← hstream] at hk ⊢
  obtain ⟨_, _, hread, _⟩ := Request.readHead_of_stream hsize hfails hk
  exact Run.outcome_of_ok hread

/-- **No request breaks the framing of a response.**  In front of the first blank line of what is
sent there are three lines, of a status, of a media type without the end of a line in it, and of
the number of bytes behind; these are the body of the response that was routed.  A reader of heads
finds the three lines, however what is sent reaches it. -/
theorem payload_framed (h : Handler) (address : Option (List Value)) (x : Exchange) {number : Nat}
    {payload : Bytes}
    (hsent : (number, .send payload) ∈ calls (Exchange.events (h.serve address) x)) :
    ∃ peer response y status mediaType k, peerName address = .ok peer ∧
      Routed h peer x response y ∧ Unbroken mediaType ∧
      Frames payload (Status.bytes status) mediaType response.body k ∧
      ∀ (size : Value) (chunks : List Bytes) (z : Exchange), Connection.Positive size →
        [] ∉ chunks → chunks.flatten = payload → z.connection.receiveFails = none →
        z.connection.incoming = chunks.map .bytes →
        Run.outcome (Request.readHead size) z = .ok (payload.take k) := by
  obtain ⟨peer, hpeer⟩ : ∃ peer, peerName address = .ok peer := by
    cases hpeer : peerName address with
    | error f =>
      rw [events_serve_of_error hpeer] at hsent
      cases hsent
    | ok peer => exact ⟨peer, rfl⟩
  obtain ⟨_, response, y, hrouted, hbytes⟩ := (sent_iff hpeer).1 hsent
  obtain ⟨status, mediaType, hbears⟩ := hrouted.bears
  obtain ⟨payload', k, hbytes', hframes⟩ := hbears.exists_frames
  obtain rfl := Except.ok.inj (hbytes.symm.trans hbytes')
  refine ⟨peer, response, y, status, mediaType, k, hpeer, hrouted, hbears.unbroken, hframes, ?_⟩
  intro size chunks z hsize hne hchunks hfails hin
  exact readHead_of_frames hframes hsize hne hchunks hfails hin

/-- The response that the request for a script is answered with. -/
def scriptReply : Bytes :=
  framed (Status.bytes .ok) (Bytes.ofAscii "text/javascript") (Bytes.ofAscii "Hi")

theorem sent_scriptReply :
    (1, .send scriptReply) ∈
      calls (Exchange.events (greeter.serve none) ⟨.empty, scriptRequest⟩) := by
  obtain ⟨_, x', hr, _⟩ := exists_received (h := greeter) (x := ⟨.empty, scriptRequest⟩) (n := 18)
    ⟨16, rfl, by decide⟩ rfl rfl (by decide)
  have hpath : Request.path (scriptRequest.stream.take 18) = .ok "/a.js" := by rfl
  have htype : MediaType.ofPath "/a.js" = "text/javascript" := by decide
  have hbytes : (document (MediaType.ofPath "/a.js") (Bytes.ofAscii "Hi")).toBytes =
      .ok scriptReply := by
    rw [htype]
    exact toBytes_eq (written_line .ok) (Utf8.written_ofAscii (by decide))
  exact (sent_iff rfl).2 ⟨rfl, _, _, .intro hr hpath rfl, hbytes⟩

theorem payload_framed_scriptReply :
    ∃ response status mediaType k, Unbroken mediaType ∧
      Frames scriptReply (Status.bytes status) mediaType (Response.body response) k := by
  obtain ⟨_, response, _, status, mediaType, k, _, _, hunbroken, hframes, _⟩ :=
    payload_framed greeter none ⟨.empty, scriptRequest⟩ sent_scriptReply
  exact ⟨response, status, mediaType, k, hunbroken, hframes⟩

end StaticHttp.Handler
