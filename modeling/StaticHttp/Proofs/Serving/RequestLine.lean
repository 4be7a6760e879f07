import StaticHttp.Proofs.Serving.Conduct
import StaticHttp.Proofs.Serving.Effects

/-!
# The line that a path comes from

The path is looked for in the whole head, and the line that is logged is the first one.  When the
first line has two words, the path is the second of them, whatever follows; when it has fewer, the
missing words are made up from the lines that follow, and the path is not one of the line that is
logged.

    Cut head line following → words head = words line ++ words following      (Cut.words_eq)
    Cut head line following → Request.line head = decodeReplacing line        (Cut.line_eq)
    2 ≤ (words line).length → the path is the second word of the line         (path_ofLine)
-/

namespace StaticHttp

namespace Request

open Response Utf8

/-! ## The first line of a head -/

/-- A head is cut at the first end of a line in it: into its first line and what follows. -/
inductive Cut : Bytes → Bytes → Bytes → Prop
  | whole {line : Bytes} : ¬ crlf <:+: line → Cut line line []
  | first {line following : Bytes} : ¬ crlf <:+: line →
      Cut (line ++ crlf ++ following) line following

/-- The end of a line that follows a line without one is the first. -/
theorem indexOf?_crlf {line : Bytes} (h : ¬ crlf <:+: line) (following : Bytes) :
    indexOf? crlf (line ++ (crlf ++ following)) = some line.length := by
  induction line with
  | nil => rfl
  | cons b line ih =>
    have hrest : ¬ crlf <:+: line := fun hin => h (hin.trans (List.suffix_cons b line).isInfix)
    have hnot : ¬ crlf.isPrefixOf (b :: (line ++ (crlf ++ following))) = true := by
      rw [List.isPrefixOf_iff_prefix]
      intro hat
      cases line with
      | nil =>
        -- a carriage return follows here, not the line feed that belongs to one
        simp only [crlf, List.nil_append, List.cons_append, List.cons_prefix_cons] at hat
        exact absurd hat.2.1 (by decide)
      | cons c line =>
        have hin : crlf <+: b :: c :: line :=
          List.prefix_of_prefix_length_le hat (List.prefix_append (b :: c :: line) _)
            (by simp [crlf])
        exact h hin.isInfix
    rw [List.cons_append, indexOf?, if_neg hnot, ih hrest]
    rfl

theorem indexOf?_crlf_eq_none {line : Bytes} (h : ¬ crlf <:+: line) : indexOf? crlf line = none := by
  rw [indexOf?_eq_none_iff]
  intro n hat
  exact h (hat.isInfix.trans (List.drop_suffix n line).isInfix)

/-- Every head can be cut. -/
theorem exists_cut (head : Bytes) : ∃ line following, Cut head line following := by
  cases hn : indexOf? crlf head with
  | none =>
    refine ⟨head, [], .whole ?_⟩
    rintro ⟨before, behind, rfl⟩
    refine (indexOf?_eq_none_iff _ _).1 hn before.length ?_
    rw [List.append_assoc, List.drop_left]
    exact List.prefix_append _ _
  | some n =>
    obtain ⟨⟨following, hat⟩, hbefore⟩ := (indexOf?_eq_some_iff _ _ _).1 hn
    have hhead : head.take n ++ crlf ++ following = head := by
      rw [List.append_assoc, hat, List.take_append_drop]
    refine ⟨head.take n, following, ?_⟩
    have hline : ¬ crlf <:+: head.take n := by
      rintro ⟨before, behind, htake⟩
      have hlength := congrArg List.length htake
      simp only [List.length_append, List.length_take, crlf, List.length_cons] at hlength
      refine hbefore before.length (by omega) ?_
      rw [← List.take_append_drop n head, ← htake, List.append_assoc, List.append_assoc,
        List.drop_left]
      exact List.prefix_append _ _
    have hcut : Cut (head.take n ++ crlf ++ following) (head.take n) following := .first hline
    rwa [hhead] at hcut

section

variable {head line following : Bytes}

/-- The line that is logged is the first. -/
theorem Cut.line_eq (h : Cut head line following) : Request.line head = decodeReplacing line := by
  have hcrlf : ([0x0D, 0x0A] : Bytes) = crlf := rfl
  unfold Request.line
  rw [hcrlf]
  cases h with
  | whole hline => rw [indexOf?_crlf_eq_none hline]
  | first hline =>
    rw [List.append_assoc, indexOf?_crlf hline]
    simp only [List.take_left]

/-- The words of a head are those of its first line, and then those of what follows. -/
theorem Cut.words_eq (h : Cut head line following) :
    words head = words line ++ words following := by
  cases h with
  | whole _ =>
    have hnil : words [] = [] := rfl
    rw [hnil, List.append_nil]
  | first _ =>
    -- the two bytes that end the line are white space: one separates, the other is skipped
    have hreturn : isSpace 0x0D = true := by decide
    have hfeed : ∀ b ∈ ([0x0A] : Bytes), isSpace b = true := by
      rw [List.forall_mem_singleton]
      decide
    have hsplit : line ++ crlf ++ following = line ++ 0x0D :: ([0x0A] ++ following) := by
      rw [List.append_assoc]
      rfl
    have hbehind := words_space hfeed following
    unfold words at hbehind ⊢
    rw [hsplit, pieces_append_cons hreturn, List.filter_append, hbehind]

/-! ## The path of a head -/

theorem path_eq_malformed_iff : path head = .error (.malformed head) ↔ (words head).length < 2 := by
  constructor
  · intro h
    apply Nat.lt_of_not_le
    intro hle
    rw [path_of_getElem? (List.getElem?_eq_getElem (i := 1) hle)] at h
    cases h
  · exact path_of_length_lt

end

end Request

namespace Handler

open Exchange

/-! ## The line that is logged -/

section

variable {h : Handler} {address : Option (List Value)} {peer path : Text} {head : Bytes}
  {x y : Exchange}

/-- What is replied comes after the line has been logged. -/
theorem toList_reply (hpath : Request.path head = .ok path) :
    ∃ es, (Run.after (h.reply peer head) y).history.toList =
      (announced peer head y).history.toList ++ es := by
  obtain ⟨es, hes, _, _⟩ := h.router.route_history path (announced peer head y).history
  cases hroute : h.router.route path (announced peer head y).history with
  | error f past =>
    rw [Run.after_of_error hroute] at hes
    exact ⟨es, by rw [Run.after_of_error (reply_of_route_error hpath hroute), hes]⟩
  | ok response past =>
    rw [Run.after_of_ok hroute] at hes
    cases hbytes : response.toBytes with
    | error f =>
      exact ⟨es, by rw [Run.after_of_error (reply_of_toBytes_error hpath hroute hbytes), hes]⟩
    | ok payload =>
      obtain ⟨entries, hentries⟩ := answered_history peer response payload
      refine ⟨es ++ entries.map .log, ?_⟩
      rw [Run.after_of_ok (reply_of_toBytes hpath hroute hbytes), hentries, History.toList_logAll,
        hes, List.append_assoc]

/-- What is done with a head that is received and has a path in it comes after its line has been
logged. -/
theorem Received.toList_serve (hr : Received h x head y) (hpeer : peerName address = .ok peer)
    (hpath : Request.path head = .ok path) :
    ∃ es, (Run.after (h.serve address) x).history.toList =
      (announced peer head y).history.toList ++ es := by
  obtain ⟨es, hes⟩ : ∃ es, (Run.after (h.reply peer head) y).history.toList =
      (announced peer head y).history.toList ++ es := toList_reply hpath
  have hsend : ∃ fs, (Run.after (h.converse peer) x).history.toList =
      (Run.after (h.reply peer head) y).history.toList ++ fs := by
    cases hz : h.reply peer head y with
    | error f z =>
      refine ⟨[], ?_⟩
      rw [Run.after_of_error (hr.converse_of_error hz), Run.after_of_error hz, List.append_nil]
    | ok payload z =>
      obtain ⟨fs, hfs, _⟩ := Adds.call (p := fun _ => True) (fun _ => trivial)
        Connection.sendFails (c := .send payload) z
      refine ⟨fs, ?_⟩
      rw [Run.after_congr (hr.converse_of_ok hz), Run.after_of_ok hz, Exchange.send, hfs]
  obtain ⟨fs, hfs⟩ := hsend
  obtain ⟨gs, hgs, _, _⟩ := serveAs_history h peer x
  refine ⟨es ++ fs ++ gs, ?_⟩
  rw [serve_of_ok hpeer, hgs, hfs, hes]
  simp only [List.append_assoc]

/-- The first line of a head that is received and has a path in it is logged. -/
theorem Received.mem_events (hr : Received h x head y) (hpeer : peerName address = .ok peer)
    (hpath : Request.path head = .ok path) :
    .log ⟨source, Log.info, peer ++ " - " ++ Request.line head⟩ ∈
      Exchange.events (h.serve address) x := by
  obtain ⟨es, hes⟩ := hr.toList_serve hpeer hpath
  obtain ⟨_, fs, hfs, _⟩ := hr.reaches.history
  rw [announced, toList_log, logged, toList_log, hfs] at hes
  simp only [List.append_assoc] at hes
  rw [Exchange.events_eq hes]
  simp

end

/-- **The path is the second word of the line that is logged, when that line has two words.**  When
it has fewer, the words of the lines that follow come next, and it is only when there are not two
words in the whole head that there is no path. -/
theorem path_ofLine (head : Bytes) :
    (∃ line following, Request.Cut head line following) ∧
      ∀ line following ws vs, Request.Cut head line following → Request.Runs line ws →
        Request.Runs following vs →
        (∀ word, ws[1]? = some word → Request.path head = .ok (Utf8.decodeEscaping word)) ∧
          (∀ word, ws.length < 2 → (ws ++ vs)[1]? = some word →
            Request.path head = .ok (Utf8.decodeEscaping word)) ∧
          (Request.path head = .error (.malformed head) ↔ ws.length + vs.length < 2) ∧
          ∀ (h : Handler) (address : Option (List Value)) (peer : Text) (x y : Exchange),
            peerName address = .ok peer → Received h x head y → 2 ≤ ws.length + vs.length →
            .log ⟨source, Log.info, peer ++ " - " ++ Utf8.decodeReplacing line⟩ ∈
              Exchange.events (h.serve address) x := by
  refine ⟨Request.exists_cut head, ?_⟩
  intro line following ws vs hcut hws hvs
  have hwords : Request.words head = ws ++ vs := by
    rw [hcut.words_eq, hws.words_eq, hvs.words_eq]
  have hpath : ∀ word, (ws ++ vs)[1]? = some word →
      Request.path head = .ok (Utf8.decodeEscaping word) := by
    intro word hword
    rw [← hwords] at hword
    exact Request.path_of_getElem? hword
  refine ⟨?_, fun word _ => hpath word, ?_, ?_⟩
  · intro word hword
    obtain ⟨hlength, _⟩ := List.getElem?_eq_some_iff.1 hword
    exact hpath word (by rw [List.getElem?_append_left hlength, hword])
  · rw [Request.path_eq_malformed_iff, hwords, List.length_append]
  · intro h address peer x y hpeer hr hlength
    rw [← List.length_append] at hlength
    have hmem := hr.mem_events hpeer (hpath _ (List.getElem?_eq_getElem (i := 1) hlength))
    rwa [hcut.line_eq] at hmem

/-- A connection on which a request arrives whose first line is a method and nothing else. -/
def bareRequest : Connection :=
  { scriptRequest with incoming := [.bytes (Bytes.ofAscii "GET\r\nHost: x\r\n\r\n")] }

theorem path_ofLine_bareRequest :
    Request.path (Bytes.ofAscii "GET\r\nHost: x") = .ok "Host:" ∧
      .log ⟨source, Log.info, "unknown peer - GET"⟩ ∈
        Exchange.events (greeter.serve none) ⟨.empty, bareRequest⟩ := by
  have hsplit : Bytes.ofAscii "GET\r\nHost: x" =
      Bytes.ofAscii "GET" ++ Response.crlf ++ Bytes.ofAscii "Host: x" := by decide
  have hcut : Request.Cut (Bytes.ofAscii "GET\r\nHost: x") (Bytes.ofAscii "GET")
      (Bytes.ofAscii "Host: x") := by
    rw [hsplit]
    exact .first (by decide)
  have hline : Request.words (Bytes.ofAscii "GET") = [Bytes.ofAscii "GET"] := by decide
  have hfollowing : Request.words (Bytes.ofAscii "Host: x") =
      [Bytes.ofAscii "Host:", Bytes.ofAscii "x"] := by decide
  have hn : Request.indexOf? Request.blankLine bareRequest.stream = some 12 := by decide
  obtain ⟨_, y, hr, _⟩ := exists_received (h := greeter) (x := ⟨.empty, bareRequest⟩)
    ⟨16, rfl, by decide⟩ rfl rfl hn
  have hhead : bareRequest.stream.take 12 = Bytes.ofAscii "GET\r\nHost: x" := by decide
  rw [hhead] at hr
  obtain ⟨_, hpath⟩ := path_ofLine (Bytes.ofAscii "GET\r\nHost: x")
  obtain ⟨_, hborrowed, _, hlogged⟩ := hpath _ _ _ _ hcut ((Request.words_eq_iff _ _).1 hline)
    ((Request.words_eq_iff _ _).1 hfollowing)
  refine ⟨hborrowed (Bytes.ofAscii "Host:") (by decide) rfl, ?_⟩
  exact hlogged greeter none "unknown peer" _ y rfl hr (by decide)

/-- The name of a field is taken for the path of a request without one. -/
theorem path_borrowsWord :
    Request.Cut (Bytes.ofAscii "GET\r\nHost: x") (Bytes.ofAscii "GET") (Bytes.ofAscii "Host: x") ∧
      Request.Runs (Bytes.ofAscii "GET") [Bytes.ofAscii "GET"] ∧
      Request.line (Bytes.ofAscii "GET\r\nHost: x") = "GET" ∧
      Request.path (Bytes.ofAscii "GET\r\nHost: x") = .ok "Host:" ∧
      (Run.after (greeter.serve none) ⟨.empty, bareRequest⟩).history.loaded =
        [("/srvHost:" : Text)] := by
  have hcut : Request.Cut (Bytes.ofAscii "GET" ++ Response.crlf ++ Bytes.ofAscii "Host: x")
      (Bytes.ofAscii "GET") (Bytes.ofAscii "Host: x") := .first (by decide)
  have hwords : Request.words (Bytes.ofAscii "GET") = [Bytes.ofAscii "GET"] := by decide
  refine ⟨hcut, (Request.words_eq_iff _ _).1 hwords, ?_, ?_, ?_⟩
  · rfl
  · rfl
  · decide +kernel

end Handler

end StaticHttp
