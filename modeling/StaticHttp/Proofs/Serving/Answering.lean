import StaticHttp.Proofs.Serving.Agreement

/-!
# Which requests are answered

A request with a path in its head is answered, once, when its document is loaded, is not there or
cannot be read.  A loader may also fail with a failure that says no more than that it is about a
document; then nothing is sent, and the failure is reported.

    h.Consults peer x past file →
      Answered (h.router.load past file) status body → one response, of this status
                                                                                  (sent_of_answered)
      h.router.load past file = .error (.document none p reason) → no response
                                                                              (sent_of_unclassified)
-/

namespace StaticHttp

/-- The status and the body that answer what comes of loading a document. -/
inductive Router.Answered : Except Failure Bytes → Status → Bytes → Prop
  | found {body : Bytes} : Answered (.ok body) .ok body
  | notFound {path reason : Option Text} :
      Answered (.error (.document (some .notFound) path reason)) .notFound
        (Bytes.ofAscii "Not Found")
  | unreadable {path reason : Option Text} :
      Answered (.error (.document (some .unreadable) path reason)) .internalError []

/-- A loader gives the bytes of a document, or fails with a failure about a document. -/
def Loader.LoadsDocuments (load : Loader) : Prop :=
  ∀ past file, (∃ body, load past file = .ok body) ∨
    ∃ fault path reason, load past file = .error (.document fault path reason)

/-- What comes of loading a document is answered, unless it is a failure that does not say whether
the document is there. -/
theorem Loader.LoadsDocuments.answered {load : Loader} (h : load.LoadsDocuments) (past : History)
    (file : Text) :
    (∃ status body, Router.Answered (load past file) status body) ∨
      ∃ path reason, load past file = .error (.document none path reason) := by
  rcases h past file with ⟨body, hbody⟩ | ⟨fault, path, reason, hfailure⟩
  · rw [hbody]
    exact .inl ⟨_, _, .found⟩
  · rw [hfailure]
    match fault with
    | some .notFound => exact .inl ⟨_, _, .notFound⟩
    | some .unreadable => exact .inl ⟨_, _, .unreadable⟩
    | none => exact .inr ⟨path, reason, rfl⟩

namespace Router

open Utf8

/-- What comes of loading a document is responded to with the status and the body that answer
it. -/
theorem respond_of_answered {path file : Text} {bs : Bytes} (hpath : Written path bs)
    (hbs : Unbroken bs) {outcome : Except Failure Bytes} {status : Status} {body : Bytes}
    (h : Answered outcome status body) (past : History) :
    ∃ response past' mediaType, respond path file outcome past = .ok response past' ∧
      response.Bears status mediaType ∧ response.body = body := by
  have hplain : Written ("text/plain" : Text) (Bytes.ofAscii "text/plain") :=
    written_ofAscii (by decide)
  cases h with
  | found =>
    exact ⟨_, _, _, rfl, ⟨rfl, MediaType.written_ofPath hpath, unbroken_ofPathBytes hbs⟩, rfl⟩
  | notFound => exact ⟨_, _, _, rfl, ⟨rfl, hplain, by decide, by decide⟩, rfl⟩
  | unreadable => exact ⟨_, _, _, rfl, ⟨rfl, hplain, by decide, by decide⟩, rfl⟩

end Router

namespace Handler

open Response

/-- In the course of serving a connection, with `past` before it, the document of a file is asked
for. -/
inductive Consults (h : Handler) (peer : Text) (x : Exchange) : History → Text → Prop
  | intro {head word : Bytes} {y : Exchange} {file : Text} :
      Received h x head y → (Request.words head)[1]? = some word →
      h.router.filePath (Router.target (Utf8.decodeEscaping word)) = .ok file →
      Consults h peer x (announced peer head y).history file

section

variable {h : Handler} {address : Option (List Value)} {peer : Text} {x : Exchange}
  {past : History} {file : Text}

/-- What was prepared is all that is sent. -/
theorem Prepared.sent_eq {payload : Bytes} (hp : Prepared h peer x payload)
    (hpeer : peerName address = .ok peer) :
    sent (Exchange.events (h.serve address) x) = [payload] := by
  obtain ⟨hlength, hmem⟩ := sent_serve h hpeer x
  refine eq_of_mem_iff hlength (by simp) fun payload' => ?_
  rw [hmem, hp.mem_singleton_iff]

/-- A document that is answered makes one response of what is sent. -/
theorem sent_of_answered (hpeer : peerName address = .ok peer) (hc : Consults h peer x past file)
    {status : Status} {body : Bytes} (ha : Router.Answered (h.router.load past file) status body) :
    ∃ payload mediaType k, sent (Exchange.events (h.serve address) x) = [payload] ∧
      Frames payload status.bytes mediaType body k := by
  cases hc with
  | @intro head word y _ hr hword hfile =>
    have hspace := Request.isSpace_of_mem_words (List.mem_of_getElem? hword)
    have hwritten := Router.written_target (Utf8.written_decodeEscaping word)
    have hunbroken := Router.unbroken_targetBytes (Unbroken.of_isSpace hspace)
    obtain ⟨response, past', mediaType, hrespond, hbears, rfl⟩ :=
      Router.respond_of_answered hwritten hunbroken ha
        ((announced peer head y).history.push (.load file))
    obtain ⟨payload, k, hbytes, hframes⟩ := hbears.exists_frames
    have hroute : h.router.route (Utf8.decodeEscaping word) (announced peer head y).history =
        .ok response past' := (Router.route_of_ok hfile).trans hrespond
    have hp : Prepared h peer x payload :=
      ⟨response, _, .intro hr (Request.path_of_getElem? hword) hroute, hbytes⟩
    exact ⟨payload, mediaType, k, hp.sent_eq hpeer, hframes⟩

/-- A failure that does not say whether the document is there is reported, and nothing is sent. -/
theorem sent_of_unclassified (hpeer : peerName address = .ok peer)
    (hc : Consults h peer x past file) {path reason : Option Text}
    (hload : h.router.load past file = .error (.document none path reason)) :
    sent (Exchange.events (h.serve address) x) = [] ∧
      (alarms (Exchange.events (h.serve address) x)).length = 1 := by
  cases hc with
  | @intro head word y _ hr hword hfile =>
    have hroute : h.router.route (Utf8.decodeEscaping word) (announced peer head y).history =
        .error (.document none path reason)
          ((announced peer head y).history.push (.load file)) := by
      rw [Router.route_of_ok hfile, hload]
      rfl
    have hreply := reply_of_route_error (Request.path_of_getElem? hword) hroute
    constructor
    · rw [List.eq_nil_iff_forall_not_mem]
      intro payload hmem
      -- what is sent was prepared, but the reply to this head fails
      obtain ⟨_, _, _, hr', hz⟩ := (((sent_serve h hpeer x).2 payload).1 hmem).reply_eq
      obtain ⟨rfl, rfl⟩ := hr.unique hr'
      cases hreply.symm.trans hz
    · obtain ⟨_, _, _, _, _, _, halarms⟩ := serveAs_events h peer x
      rw [serve_of_ok hpeer, halarms, Run.outcome_of_error (hr.converse_of_error hreply)]
      rfl

/-- A request with a path in its head has a document asked for. -/
theorem exists_consults {root : Text} (hroot : h.router.root = .text root)
    (hsize : Connection.Positive h.receiveSize) (hset : x.connection.setTimeoutFails = none)
    (hreceive : x.connection.receiveFails = none) {n : Nat}
    (hn : Request.indexOf? Request.blankLine x.connection.stream = some n) {ws : List Bytes}
    (hws : Request.Runs (x.connection.stream.take n) ws) (hlength : 2 ≤ ws.length) (peer : Text) :
    ∃ past file, Consults h peer x past file := by
  obtain ⟨_, y, hr, _⟩ := exists_received hsize hset hreceive hn
  have hword : (Request.words (x.connection.stream.take n))[1]? = some ws[1] := by
    rw [hws.words_eq]
    exact List.getElem?_eq_getElem (by omega)
  have hfile : h.router.filePath (Router.target (Utf8.decodeEscaping ws[1])) =
      .ok (root ++ Router.target (Utf8.decodeEscaping ws[1])) := by
    rw [Router.filePath, hroot]
  exact ⟨_, _, .intro hr hword hfile⟩

/-- **Every request with a path in its head is answered with one response**, of the status that what
comes of loading its document asks for, whenever the loader keeps to documents and no call on the
connection fails; but a failure that does not say whether the document is there is only
reported. -/
theorem serve_answers {root : Text} (hroot : h.router.root = .text root)
    (hload : h.router.load.LoadsDocuments) (hsize : Connection.Positive h.receiveSize)
    (haddress : ∀ v, address ≠ some [v]) (hu : h.Unfailing address x) {n : Nat}
    (hn : Request.indexOf? Request.blankLine x.connection.stream = some n) {ws : List Bytes}
    (hws : Request.Runs (x.connection.stream.take n) ws) (hlength : 2 ≤ ws.length) :
    ∃ peer past file, peerName address = .ok peer ∧ Consults h peer x past file ∧
      ((∃ status body payload mediaType k, Router.Answered (h.router.load past file) status body ∧
          sent (Exchange.events (h.serve address) x) = [payload] ∧
          Frames payload (Status.bytes status) mediaType body k) ∨
        ∃ path reason, h.router.load past file = .error (.document none path reason) ∧
          sent (Exchange.events (h.serve address) x) = [] ∧
          (alarms (Exchange.events (h.serve address) x)).length = 1) := by
  obtain ⟨peer, hpeer⟩ := exists_peerName haddress
  obtain ⟨hset, hreceive, _, _⟩ := hu.eq_none hpeer
  obtain ⟨past, file, hc⟩ := exists_consults hroot hsize hset hreceive hn hws hlength peer
  refine ⟨peer, past, file, hpeer, hc, ?_⟩
  rcases hload.answered past file with ⟨status, body, ha⟩ | ⟨path, reason, hfailure⟩
  · obtain ⟨payload, mediaType, k, hsent, hframes⟩ := sent_of_answered hpeer hc ha
    exact .inl ⟨status, body, payload, mediaType, k, ha, hsent, hframes⟩
  · exact .inr ⟨path, reason, hfailure, sent_of_unclassified hpeer hc hfailure⟩

end

/-- A handler for which no document can be read. -/
def locked : Handler where
  router := ⟨.text "/srv", fun _ file => .error (.document (some .unreadable) (some file) none)⟩
  receiveSize := .int 3
  requestTimeout := .null

theorem serve_answers_locked :
    locked.router.load.LoadsDocuments ∧ Connection.Positive locked.receiveSize ∧
      locked.Unfailing none ⟨.empty, scriptRequest⟩ ∧
      ∃ payload mediaType k,
        sent (Exchange.events (locked.serve none) ⟨.empty, scriptRequest⟩) = [payload] ∧
        Frames payload (Status.bytes .internalError) mediaType [] k := by
  have hload : locked.router.load.LoadsDocuments := fun _ _ => .inr ⟨_, _, _, rfl⟩
  have hsize : Connection.Positive locked.receiveSize := ⟨3, rfl, by decide⟩
  have hu : locked.Unfailing none ⟨.empty, scriptRequest⟩ := fun _ call _ => by cases call <;> rfl
  have hwords : Request.words (scriptRequest.stream.take 18) =
      [Bytes.ofAscii "GET", Bytes.ofAscii "/a.js", Bytes.ofAscii "HTTP/1.1"] := by decide
  refine ⟨hload, hsize, hu, ?_⟩
  obtain ⟨_, _, _, _, _, hanswer⟩ := serve_answers rfl hload hsize (by simp) hu (by decide)
    ((Request.words_eq_iff _ _).1 hwords) (by decide)
  rcases hanswer with ⟨_, _, payload, mediaType, k, ha, hsent, hframes⟩ | ⟨_, _, hnone, _⟩
  · cases ha with
    | unreadable => exact ⟨payload, mediaType, k, hsent, hframes⟩
  · cases hnone

/-- A handler for which no document can be loaded, no one says why. -/
def vague : Handler where
  router := ⟨.text "docs", fun _ file => .error (.document none (some file) none)⟩
  receiveSize := .int 1024
  requestTimeout := .null

/-- A request with a path in its head goes unanswered though the loader keeps to documents and no
call on the connection fails. -/
theorem serve_leavesUnanswered :
    vague.router.load.LoadsDocuments ∧ vague.Unfailing none ⟨.empty, scriptRequest⟩ ∧
      Request.indexOf? Request.blankLine scriptRequest.stream = some 18 ∧
      Request.words (scriptRequest.stream.take 18) =
        [Bytes.ofAscii "GET", Bytes.ofAscii "/a.js", Bytes.ofAscii "HTTP/1.1"] ∧
      sent (Exchange.events (vague.serve none) ⟨.empty, scriptRequest⟩) = [] := by
  have hwords : Request.words (scriptRequest.stream.take 18) =
      [Bytes.ofAscii "GET", Bytes.ofAscii "/a.js", Bytes.ofAscii "HTTP/1.1"] := by decide
  have hn : Request.indexOf? Request.blankLine scriptRequest.stream = some 18 := by decide
  refine ⟨fun _ _ => .inr ⟨_, _, _, rfl⟩, fun _ call _ => by cases call <;> rfl, hn, hwords, ?_⟩
  obtain ⟨past, file, hc⟩ := exists_consults (h := vague) (x := ⟨.empty, scriptRequest⟩) rfl
    ⟨1024, rfl, by decide⟩ rfl rfl hn ((Request.words_eq_iff _ _).1 hwords) (by decide)
    "unknown peer"
  exact (sent_of_unclassified rfl hc rfl).1

end Handler

end StaticHttp
