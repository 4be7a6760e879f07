import StaticHttp.Proofs.Log.Reconfiguring
import StaticHttp.Proofs.Serving.Plainspoken
import StaticHttp.Proofs.Serving.RequestLine

/-!
# What a request can write into the log

The bytes of a request reach the log by four ways.  The head, and what is said about a head without
a path, stand between quotes; the path of a file is one word of the head behind the root; and the
first line of the head stands as it is.  The first three are one line whatever was received.  The
last is one exactly when no lone carriage return and no lone line feed is in it, for it is cut only
where both stand together.

    h.serve logs nothing but entries of one line
      ↔ the first line of the head is unbroken                                   (serve_logsLines)
-/

namespace StaticHttp

theorem Log.Record.oneLine_iff {r : Log.Record} {line : Text} (h : r.line = .ok line) :
    line.OneLine ↔ r.source.OneLine ∧ r.message.OneLine := by
  unfold Log.Record.line at h
  cases htime : Log.timeText r.second with
  | error f =>
    rw [htime] at h
    cases h
  | ok time =>
    rw [htime] at h
    cases h
    have hdash : (" - " : Text).OneLine := Text.Legible.oneLine (by decide)
    have htext := (Log.legible_timeText htime).oneLine
    have hlevel := (Log.legible_levelName r.level).oneLine
    simp only [Text.oneLine_append_iff, hdash, htext, hlevel, true_and, and_true]

/-- What an event logs, if it logs anything, is one line. -/
def Event.OneLine : Event → Prop
  | .log entry => entry.message.OneLine
  | _ => True

namespace Handler

open Exchange

section

variable {h : Handler} {address : Option (List Value)} {peer path : Text} {head : Bytes}
  {x y : Exchange} {p : Event → Prop}

/-! ## The steps of serving -/

theorem says_readHead (size : Value) (hx : x.connection.Plainspoken) :
    Says Event.OneLine (Request.readHead size) x := by
  refine ⟨?_, Request.connection_readFrom size [] hx, ?_⟩
  · obtain ⟨n, _, hn⟩ := Request.readHead_receives size x
    refine ⟨_, hn, ?_⟩
    intro e he
    rw [List.eq_of_mem_replicate he]
    trivial
  · intro f hf
    exact Request.error_readFrom hx (Run.eq_error_of_outcome hf)

/-- The path of a file is one line, when the root is: what stands behind the root is one word. -/
theorem oneLine_filePath {word : Bytes} {root : Text} (hroot : root.OneLine)
    (hword : ∀ b ∈ word, Request.isSpace b = false) :
    (root ++ Router.target (Utf8.decodeEscaping word)).OneLine := by
  have hwritten := Router.written_target (Utf8.written_decodeEscaping word)
  have hunbroken := Router.unbroken_targetBytes (Unbroken.of_isSpace hword)
  exact hroot.append (hwritten.oneLine_iff.2 hunbroken)

/-- What is responded is logged in one line, whatever comes of loading the document. -/
theorem respond_logs {file : Text} (hfile : file.OneLine) {outcome : Except Failure Bytes}
    (houtcome : ∀ f, outcome = .error f → f.message.OneLine) {past past' : History}
    {response : Response} (hr : Router.respond path file outcome past = .ok response past') :
    ∃ es, past'.toList = past.toList ++ es ∧ ∀ e ∈ es, e.OneLine := by
  have hmissing : ("Not found: " : Text).OneLine := Text.Legible.oneLine (by decide)
  have hfailed : ("Error reading file " : Text).OneLine := Text.Legible.oneLine (by decide)
  have hcolon : (": " : Text).OneLine := Text.Legible.oneLine (by decide)
  unfold Router.respond at hr
  split at hr
  · cases hr
    exact ⟨[], (List.append_nil _).symm, by simp⟩
  · cases hr
    refine ⟨_, History.toList_log _ _ _ _, ?_⟩
    exact List.forall_mem_singleton.2 (hmissing.append hfile)
  · cases hr
    refine ⟨_, History.toList_log _ _ _ _, ?_⟩
    exact List.forall_mem_singleton.2
      (((hfailed.append hfile).append hcolon).append (houtcome _ rfl))
  · cases hr

/-- A response fails as the loading of the document did. -/
theorem respond_error {file : Text} {outcome : Except Failure Bytes} {past past' : History}
    {f : Failure} (hr : Router.respond path file outcome past = .error f past') :
    outcome = .error f ∧ past' = past := by
  unfold Router.respond at hr
  split at hr
  · cases hr
  · cases hr
  · cases hr
  · cases hr
    exact ⟨rfl, rfl⟩

theorem says_route {word : Bytes} (hword : ∀ b ∈ word, Request.isSpace b = false)
    (hroot : ∀ root, h.router.root = .text root → root.OneLine)
    (hload : h.router.load.Plainspoken) (hx : x.connection.Plainspoken) :
    Says Event.OneLine (onHistory (h.router.route (Utf8.decodeEscaping word))) x := by
  cases hfile : h.router.filePath (Router.target (Utf8.decodeEscaping word)) with
  | error f =>
    have hmessage : f.message.OneLine := by
      unfold Router.filePath at hfile
      split at hfile
      · cases hfile
      · cases hfile
        exact (Failure.legible_notJoinable _).oneLine
    exact Says.of_error (onHistory_of_error (Router.route_of_error hfile)) hmessage hx
      (List.append_nil _).symm (by simp)
  | ok file =>
    have hline : file.OneLine := by
      unfold Router.filePath at hfile
      split at hfile
      · next root hr =>
        cases hfile
        exact oneLine_filePath (hroot root hr) hword
      · cases hfile
    have houtcome : ∀ f, h.router.load x.history file = .error f → f.message.OneLine :=
      fun f => hload x.history file f hline
    have hpush : (x.history.push (.load file)).toList = x.history.toList ++ [.load file] :=
      History.toList_push _ _
    have hroute : h.router.route (Utf8.decodeEscaping word) x.history =
        Router.respond (Router.target (Utf8.decodeEscaping word)) file
          (h.router.load x.history file) (x.history.push (.load file)) := Router.route_of_ok hfile
    cases hz : Router.respond (Router.target (Utf8.decodeEscaping word)) file
        (h.router.load x.history file) (x.history.push (.load file)) with
    | ok response past =>
      obtain ⟨es, hes, hone⟩ := respond_logs hline houtcome hz
      rw [hpush, List.append_assoc] at hes
      exact Says.of_ok (onHistory_of_ok (hroute.trans hz)) hx hes
        (List.forall_mem_cons.2 ⟨trivial, hone⟩)
    | error f past =>
      obtain ⟨hfailed, rfl⟩ := respond_error hz
      exact Says.of_error (onHistory_of_error (hroute.trans hz)) (houtcome f hfailed) hx hpush
        (List.forall_mem_singleton.2 trivial)

/-- A reply is logged in lines, if the first line of the head is one. -/
theorem says_reply (hroot : ∀ root, h.router.root = .text root → root.OneLine)
    (hload : h.router.load.Plainspoken) (hpeer : peer.OneLine) (hp : ∀ e, e.OneLine → p e)
    (hline : ∀ path, Request.path head = .ok path →
      p (.log ⟨source, Log.info, peer ++ " - " ++ Request.line head⟩))
    (hx : x.connection.Plainspoken) : Says p (h.reply peer head) x := by
  have hfrom : ("Request from " : Text).OneLine := Text.Legible.oneLine (by decide)
  have hcolon : (": " : Text).OneLine := Text.Legible.oneLine (by decide)
  have hdash : (" - " : Text).OneLine := Text.Legible.oneLine (by decide)
  have hopen : (" (" : Text).OneLine := Text.Legible.oneLine (by decide)
  have hclose : (" bytes)" : Text).OneLine := Text.Legible.oneLine (by decide)
  have hquoted := (Text.legible_quotedBytes head).oneLine
  unfold reply
  refine (Says.note hx (hp _ (((hfrom.append hpeer).append hcolon).append hquoted))).bind ?_
  intro _ y₁ _ hy₁
  refine (Says.lift hy₁ ?_).bind ?_
  · intro f hf
    unfold Request.path at hf
    split at hf
    · cases hf
    · cases hf
      exact (Failure.legible_malformed head).oneLine
  intro path y₂ hpath hy₂
  have hpath := Run.eq_ok_of_lift hpath
  refine (Says.note hy₂ (hline path hpath)).bind ?_
  intro _ y₃ _ hy₃
  obtain ⟨word, hword, _, rfl⟩ := Request.path_eq_ok hpath
  have hspace := Request.isSpace_of_mem_words hword
  refine ((says_route hspace hroot hload hy₃).mono hp).bind ?_
  intro response y₄ hroute hy₄
  refine (Says.lift hy₄ ?_).bind ?_
  · intro f hf
    unfold Response.toBytes at hf
    split at hf
    · cases hf
    · cases hf
      exact (Failure.legible_encodeFaultText _).oneLine
  intro payload y₅ _ hy₅
  have hstatus : response.status.OneLine := by
    obtain ⟨status, _, hbears⟩ := Router.route_bears hspace (eq_ok_of_onHistory hroute)
    rw [hbears.status_eq]
    exact (Response.written_line status).oneLine_iff.2 (Response.unbroken_bytes status)
  have hlength := (Text.legible_ofNat payload.length).oneLine
  refine (Says.note hy₅ (hp _ ?_)).bind ?_
  · exact ((((hpeer.append hdash).append hstatus).append hopen).append hlength).append hclose
  · intro _ y₆ _ hy₆
    exact Says.of_ok rfl hy₆ (List.append_nil _).symm (by simp)

/-! ## Serving -/

/-- An event logs no more than one line, or the first line of the head that is received. -/
def Recites (h : Handler) (peer : Text) (x : Exchange) (e : Event) : Prop :=
  e.OneLine ∨ ∃ head y path, Received h x head y ∧ Request.path head = .ok path ∧
    e = .log ⟨source, Log.info, peer ++ " - " ++ Request.line head⟩

theorem says_converse (hroot : ∀ root, h.router.root = .text root → root.OneLine)
    (hload : h.router.load.Plainspoken) (hpeer : peer.OneLine) (hx : x.connection.Plainspoken) :
    Says (Recites h peer x) (h.converse peer) x := by
  unfold converse
  refine (Says.call hx (hx.calls (.setTimeout h.requestTimeout)) fun _ => .inl trivial).bind ?_
  intro _ y₁ hset hy₁
  refine ((says_readHead _ hy₁).mono fun _ => .inl).bind ?_
  intro head y₂ hread hy₂
  have hr : Received h x head y₂ := by
    cases hfails : x.connection.setTimeoutFails with
    | some f => cases hset.symm.trans (setTimeout_of_some hfails _)
    | none =>
      cases hset.symm.trans (setTimeout_of_none hfails _)
      exact ⟨hfails, hread⟩
  refine (says_reply hroot hload hpeer (fun _ => .inl) ?_ hy₂).bind ?_
  · intro path hpath
    exact .inr ⟨head, y₂, path, hr, hpath, rfl⟩
  · intro payload y₃ _ hy₃
    exact Says.call hy₃ (hy₃.calls (.send payload)) fun _ => .inl trivial

/-- A failure of one line is reported in one line. -/
theorem oneLine_report (hpeer : peer.OneLine) {f : Failure} (hf : f.message.OneLine) :
    ∀ e ∈ report peer f, e.message.OneLine := by
  have hcolon : (": " : Text).OneLine := Text.Legible.oneLine (by decide)
  have hbehind : (peer ++ (": " : Text) ++ f.message).OneLine := (hpeer.append hcolon).append hf
  have hline {front : Text} (hfront : front.OneLine) :
      (front ++ peer ++ ": " ++ f.message).OneLine := by
    rw [List.append_assoc, List.append_assoc, ← List.append_assoc peer]
    exact hfront.append hbehind
  unfold report
  split
  · exact List.forall_mem_singleton.2 (hline (Text.Legible.oneLine (by decide)))
  split
  · exact List.forall_mem_singleton.2
      (((Text.Legible.oneLine (by decide)).append hpeer).append (Text.Legible.oneLine (by decide)))
  split
  · exact List.forall_mem_singleton.2 (hline (Text.Legible.oneLine (by decide)))
  · refine List.forall_mem_cons.2 ⟨hline (Text.Legible.oneLine (by decide)), ?_⟩
    exact List.forall_mem_singleton.2 (Text.Legible.oneLine (by decide))

theorem says_finish (hpeer : peer.OneLine) (hx : x.connection.Plainspoken) :
    Says Event.OneLine (finish peer) x := by
  have hclosing : ("Error closing connection with " : Text).OneLine :=
    Text.Legible.oneLine (by decide)
  have hcolon : (": " : Text).OneLine := Text.Legible.oneLine (by decide)
  have hrecord : (x.record .close).connection.Plainspoken := hx
  have hlogged : ∀ e ∈ [Event.connection x.connection.number .close], e.OneLine :=
    List.forall_mem_singleton.2 trivial
  cases hc : x.connection.closeFails with
  | none =>
    have hfinish : finish peer x = .ok () (x.record .close) := by
      simp only [finish, Exchange.close, Exchange.call, hc]
    exact Says.of_ok hfinish hrecord (toList_record x _) hlogged
  | some f =>
    have hf : f.message.OneLine := hx.calls .close f hc
    by_cases hsystem : f.isSystem = true
    · have hfinish : finish peer x = .ok () ((x.record .close).log source Log.debug
          ("Error closing connection with " ++ peer ++ ": " ++ f.message)) := by
        simp only [finish, Exchange.close, Exchange.call, hc, if_pos hsystem]
      refine Says.of_ok hfinish hrecord (by rw [toList_log, toList_record, List.append_assoc]) ?_
      refine List.forall_mem_append.2 ⟨hlogged, List.forall_mem_singleton.2 ?_⟩
      exact ((hclosing.append hpeer).append hcolon).append hf
    · have hfinish : finish peer x = .error f (x.record .close) := by
        simp only [finish, Exchange.close, Exchange.call, hc, if_neg hsystem]
      exact Says.of_error hfinish hf hrecord (toList_record x _) hlogged

theorem serveAs_recites (hroot : ∀ root, h.router.root = .text root → root.OneLine)
    (hload : h.router.load.Plainspoken) (hpeer : peer.OneLine) (hx : x.connection.Plainspoken) :
    ∃ es, (Run.after (h.serveAs peer) x).history.toList = x.history.toList ++ es ∧
      ∀ e ∈ es, Recites h peer x e := by
  have hspoken := says_converse hroot hload hpeer hx
  obtain ⟨es, hes, hrecites⟩ := hspoken.history
  have hconnection := hspoken.connection
  -- what is done at the end is said in lines, whatever was done before
  have hfinish (z : Exchange) (hz : z.connection.Plainspoken) (ds : List Event)
      (hds : z.history.toList = x.history.toList ++ ds) (hone : ∀ e ∈ ds, Recites h peer x e) :
      ∃ es, (Run.after (finish peer) z).history.toList = x.history.toList ++ es ∧
        ∀ e ∈ es, Recites h peer x e := by
    obtain ⟨fs, hfs, hclosing⟩ := (says_finish hpeer hz).history
    refine ⟨ds ++ fs, by rw [hfs, hds, List.append_assoc], ?_⟩
    exact List.forall_mem_append.2 ⟨hone, fun e he => .inl (hclosing e he)⟩
  cases hc : h.converse peer x with
  | ok u y =>
    rw [Run.after_of_ok hc] at hes hconnection
    rw [Run.after_congr (serveAs_of_ok hc)]
    exact hfinish y hconnection es hes hrecites
  | error f y =>
    rw [Run.after_of_error hc] at hes hconnection
    by_cases hf : f.isFinal = true
    · rw [after_serveAs_of_final hc hf]
      exact hfinish y hconnection es hes hrecites
    · rw [Run.after_congr (serveAs_of_error hc (Bool.eq_false_iff.2 hf))]
      have hreport := oneLine_report hpeer (hspoken.error f (Run.outcome_of_error hc))
      refine hfinish (reported peer f y) hconnection (es ++ (report peer f).map .log) ?_ ?_
      · rw [reported, History.toList_logAll, hes, List.append_assoc]
      · refine List.forall_mem_append.2 ⟨hrecites, ?_⟩
        intro e he
        obtain ⟨entry, hentry, rfl⟩ := List.mem_map.1 he
        exact .inl (hreport entry hentry)

/-- **Nothing that a request holds breaks a line of the log but its first line**, and that only by a
lone carriage return or a lone line feed.  With a root and a peer of one line, all that is logged
while a connection is served is one line, unless it is the first line of the head; when a head with
a path in it is received, all entries are one line exactly when the first line of the head is
unbroken; and the record of an entry is one line exactly when its message is. -/
theorem serve_logsLines (hpeer : peerName address = .ok peer) (hone : peer.OneLine)
    (hroot : ∀ root, h.router.root = .text root → root.OneLine)
    (hload : h.router.load.Plainspoken) (hx : x.connection.Plainspoken) :
    (∀ entry, .log entry ∈ Exchange.events (h.serve address) x → entry.message.OneLine ∨
      ∃ head y path line following, Received h x head y ∧ Request.path head = .ok path ∧
        Request.Cut head line following ∧ ¬ Unbroken line ∧
        entry = ⟨source, Log.info, peer ++ " - " ++ Utf8.decodeReplacing line⟩) ∧
      (∀ head y path line following, Received h x head y → Request.path head = .ok path →
        Request.Cut head line following →
        ((∀ entry, .log entry ∈ Exchange.events (h.serve address) x → entry.message.OneLine) ↔
          Unbroken line)) ∧
      ∀ entry second line, .log entry ∈ Exchange.events (h.serve address) x →
        Log.Record.line ⟨entry, second⟩ = .ok line → (line.OneLine ↔ entry.message.OneLine) := by
  have hdash : (" - " : Text).OneLine := Text.Legible.oneLine (by decide)
  -- the entry with the first line is one line exactly when the first line is unbroken
  have hfirst : ∀ line : Bytes,
      (peer ++ (" - " : Text) ++ Utf8.decodeReplacing line).OneLine ↔ Unbroken line := by
    intro line
    simp only [Text.oneLine_append_iff, hone, hdash, true_and, Utf8.oneLine_decodeReplacing_iff]
  obtain ⟨es, hes, hrecites⟩ := serveAs_recites hroot hload hone hx
  rw [← serve_of_ok hpeer] at hes
  have hevents := Exchange.events_eq hes
  have hlogs : ∀ entry, .log entry ∈ Exchange.events (h.serve address) x →
      entry.message.OneLine ∨ ∃ head y path line following, Received h x head y ∧
        Request.path head = .ok path ∧ Request.Cut head line following ∧ ¬ Unbroken line ∧
        entry = ⟨source, Log.info, peer ++ " - " ++ Utf8.decodeReplacing line⟩ := by
    intro entry hentry
    rw [hevents] at hentry
    rcases hrecites _ hentry with hentry | ⟨head, y, path, hr, hpath, heq⟩
    · exact .inl hentry
    · obtain ⟨line, following, hcut⟩ := Request.exists_cut head
      rw [hcut.line_eq] at heq
      cases heq
      by_cases hline : Unbroken line
      · exact .inl ((hfirst line).2 hline)
      · exact .inr ⟨head, y, path, line, following, hr, hpath, hcut, hline, rfl⟩
  refine ⟨hlogs, ?_, ?_⟩
  · intro head y path line following hr hpath hcut
    constructor
    · intro hall
      have hmem := hr.mem_events hpeer hpath
      rw [hcut.line_eq] at hmem
      exact (hfirst line).1 (hall _ hmem)
    · intro hline entry hentry
      rcases hlogs entry hentry with hentry | ⟨head', y', _, line', _, hr', _, hcut', hbroken, _⟩
      · exact hentry
      · obtain ⟨rfl, _⟩ := hr.unique hr'
        have heq := hcut.line_eq.symm.trans hcut'.line_eq
        rw [← Utf8.oneLine_decodeReplacing_iff, ← heq, Utf8.oneLine_decodeReplacing_iff] at hbroken
        exact absurd hline hbroken
  · intro entry second line hentry hline
    have hsource : entry.source.OneLine := by
      rcases ofService_serve h address x _ hentry with hs | hs
      · rw [hs]
        exact Text.Legible.oneLine (by decide)
      · rw [hs]
        exact Text.Legible.oneLine (by decide)
    rw [Log.Record.oneLine_iff hline]
    exact and_iff_right hsource

end

/-- A handler of the documents of a machine without files. -/
def librarian : Handler := ⟨⟨.text "docs", .ofTree ⟨[], []⟩⟩, .int 1024, .int 30⟩

theorem plainspoken_librarian : librarian.router.load.Plainspoken := Loader.plainspoken_ofTree _

theorem oneLine_root_librarian (root : Text) (h : librarian.router.root = .text root) :
    root.OneLine := by
  cases h
  exact Text.Legible.oneLine (by decide)

/-- A connection that delivers some bytes, and on which nothing fails. -/
def delivering (bs : Bytes) : Connection := { scriptRequest with incoming := [.bytes bs] }

theorem plainspoken_delivering (bs : Bytes) : (delivering bs).Plainspoken := by
  constructor
  · intro f hf
    cases List.mem_singleton.1 hf
  · intro call f hf
    cases call <;> cases hf

/-- A head of several lines is logged in lines. -/
theorem serve_logsLines_ofFields :
    peerName (some [.text "10.0.0.1", .int 5000]) = .ok "10.0.0.1:5000" ∧
      librarian.router.load.Plainspoken ∧
      (delivering (Bytes.ofAscii "GET /a\r\nHost: x\r\n\r\n")).Plainspoken ∧
      ∀ entry, .log entry ∈ Exchange.events
          (librarian.serve (some [.text "10.0.0.1", .int 5000]))
          ⟨.empty, delivering (Bytes.ofAscii "GET /a\r\nHost: x\r\n\r\n")⟩ →
        entry.message.OneLine := by
  have hsplit : Bytes.ofAscii "GET /a\r\nHost: x" =
      Bytes.ofAscii "GET /a" ++ Response.crlf ++ Bytes.ofAscii "Host: x" := by decide
  have hcut : Request.Cut (Bytes.ofAscii "GET /a\r\nHost: x") (Bytes.ofAscii "GET /a")
      (Bytes.ofAscii "Host: x") := by
    rw [hsplit]
    exact .first (by decide)
  have hn : Request.indexOf? Request.blankLine
      (delivering (Bytes.ofAscii "GET /a\r\nHost: x\r\n\r\n")).stream = some 15 := by decide
  have hhead : (delivering (Bytes.ofAscii "GET /a\r\nHost: x\r\n\r\n")).stream.take 15 =
      Bytes.ofAscii "GET /a\r\nHost: x" := by decide
  obtain ⟨_, y, hr, _⟩ := exists_received (h := librarian)
    (x := ⟨.empty, delivering (Bytes.ofAscii "GET /a\r\nHost: x\r\n\r\n")⟩)
    ⟨1024, rfl, by decide⟩ rfl rfl hn
  rw [hhead] at hr
  have hpath : Request.path (Bytes.ofAscii "GET /a\r\nHost: x") = .ok "/a" := rfl
  have hpeer : peerName (some [.text "10.0.0.1", .int 5000]) = .ok "10.0.0.1:5000" := rfl
  obtain ⟨_, hlines, _⟩ := serve_logsLines (h := librarian)
    (x := ⟨.empty, delivering (Bytes.ofAscii "GET /a\r\nHost: x\r\n\r\n")⟩) hpeer
    (Text.Legible.oneLine (by decide)) oneLine_root_librarian plainspoken_librarian
    (plainspoken_delivering _)
  have hunbroken : Unbroken (Bytes.ofAscii "GET /a") := ⟨by decide, by decide⟩
  exact ⟨hpeer, plainspoken_librarian, plainspoken_delivering _,
    (hlines _ y _ _ _ hr hpath hcut).2 hunbroken⟩

/-- A lone line feed in the first line of a request breaks the entry that it is logged in. -/
theorem serve_forgesLine :
    peerName (some [.text "10.0.0.1", .int 5000]) = .ok "10.0.0.1:5000" ∧
      librarian.router.load.Plainspoken ∧
      (delivering (Bytes.ofAscii "GET /a\nFORGED\r\n\r\n")).Plainspoken ∧
      .log ⟨source, Log.info, "10.0.0.1:5000 - GET /a\nFORGED"⟩ ∈ Exchange.events
        (librarian.serve (some [.text "10.0.0.1", .int 5000]))
        ⟨.empty, delivering (Bytes.ofAscii "GET /a\nFORGED\r\n\r\n")⟩ ∧
      ¬ Text.OneLine "10.0.0.1:5000 - GET /a\nFORGED" := by
  have hn : Request.indexOf? Request.blankLine
      (delivering (Bytes.ofAscii "GET /a\nFORGED\r\n\r\n")).stream = some 13 := by decide
  have hhead : (delivering (Bytes.ofAscii "GET /a\nFORGED\r\n\r\n")).stream.take 13 =
      Bytes.ofAscii "GET /a\nFORGED" := by decide
  obtain ⟨_, y, hr, _⟩ := exists_received (h := librarian)
    (x := ⟨.empty, delivering (Bytes.ofAscii "GET /a\nFORGED\r\n\r\n")⟩)
    ⟨1024, rfl, by decide⟩ rfl rfl hn
  rw [hhead] at hr
  have hpath : Request.path (Bytes.ofAscii "GET /a\nFORGED") = .ok "/a" := rfl
  have hpeer : peerName (some [.text "10.0.0.1", .int 5000]) = .ok "10.0.0.1:5000" := rfl
  refine ⟨hpeer, plainspoken_librarian, plainspoken_delivering _, hr.mem_events hpeer hpath, ?_⟩
  intro hone
  exact absurd hone.noFeed (by decide)

end Handler

end StaticHttp
