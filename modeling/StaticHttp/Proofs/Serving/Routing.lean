import StaticHttp.Proofs.Http.Framing
import StaticHttp.Proofs.Http.MediaType
import StaticHttp.Proofs.Http.Words
import StaticHttp.Proofs.Outcome
import StaticHttp.Proofs.Text.Escaping
import StaticHttp.Router

/-!
# From the wire to the files and back

The second word of a head may be any bytes.  The path that is asked of the files is written with
the same bytes behind those of the root, and a document that is found goes out under the media type
that these bytes tell.  No response that is routed breaks a line of its head.

    r.Asks path file,  file written as  root ++ targetBytes word           (route_transparent)
-/

namespace StaticHttp

/-! ## Documents loaded -/

/-- The path that an event loads a document from. -/
def Event.loaded? : Event → Option Text
  | .load path => some path
  | _ => none

/-- The paths from which documents have been loaded. -/
def History.loaded (past : History) : List Text := past.toList.filterMap Event.loaded?

theorem History.loaded_push (past : History) (e : Event) :
    (past.push e).loaded = past.loaded ++ e.loaded?.toList := by
  rw [loaded, toList_push, List.filterMap_append, List.filterMap_cons, List.filterMap_nil]
  cases e.loaded? <;> rfl

theorem History.loaded_logAll (past : History) (entries : List Log.Entry) :
    (past.logAll entries).loaded = past.loaded := by
  have hnone : (entries.map Event.log).filterMap Event.loaded? = [] := by
    rw [List.filterMap_map, List.filterMap_eq_nil_iff]
    exact fun _ _ => rfl
  rw [loaded, toList_logAll, List.filterMap_append, hnone, List.append_nil]
  rfl

/-! ## Words -/

theorem Unbroken.of_isSpace {bs : Bytes} (h : ∀ b ∈ bs, Request.isSpace b = false) :
    Unbroken bs := by
  constructor
  · intro hmem
    exact absurd (h _ hmem) (by decide)
  · intro hmem
    exact absurd (h _ hmem) (by decide)

theorem unbroken_ofPathBytes {path : Bytes} (h : Unbroken path) :
    Unbroken (MediaType.ofPathBytes path) := by
  have hextension : Unbroken (MediaType.extensionBytes path) :=
    ⟨fun hmem => h.noReturn (MediaType.mem_of_mem_extensionBytes hmem),
      fun hmem => h.noFeed (MediaType.mem_of_mem_extensionBytes hmem)⟩
  unfold MediaType.ofPathBytes MediaType.ofExtensionBytes
  split
  · exact ⟨by decide, by decide⟩
  split
  · exact ⟨by decide, by decide⟩
  split
  · exact ⟨by decide, by decide⟩
  · exact Unbroken.append ⟨by decide, by decide⟩ hextension

/-! ## Responses -/

/-- A response with one of the statuses that can be written, with the given bytes for its media
type. -/
structure Response.Bears (r : Response) (status : Status) (mediaType : Bytes) : Prop where
  status_eq : r.status = status.line
  written : Utf8.Written r.mediaType mediaType
  unbroken : Unbroken mediaType

theorem Response.Bears.exists_frames {r : Response} {status : Status} {mediaType : Bytes}
    (h : r.Bears status mediaType) :
    ∃ payload k, r.toBytes = .ok payload ∧ Frames payload status.bytes mediaType r.body k := by
  have hstatus : Utf8.Written r.status status.bytes := by
    rw [h.status_eq]
    exact written_line status
  exact ⟨_, _, toBytes_eq hstatus h.written,
    frames_framed (unbroken_bytes status) h.unbroken r.body⟩

namespace Router

open Response Utf8

/-- The bytes of the path that is answered for a requested one. -/
def targetBytes (word : Bytes) : Bytes :=
  if word = Bytes.ofAscii "/" then Bytes.ofAscii "/index.html" else word

theorem written_target {path : Text} {word : Bytes} (h : Written path word) :
    Written (target path) (targetBytes word) := by
  unfold target targetBytes
  simp only [h.eq_ofString_iff (s := "/") (by decide)]
  split
  · exact written_ofAscii (by decide)
  · exact h

theorem unbroken_targetBytes {word : Bytes} (h : Unbroken word) : Unbroken (targetBytes word) := by
  unfold targetBytes
  split
  · exact ⟨by decide, by decide⟩
  · exact h

/-- A router asks for the document of one path, and nothing else about the documents matters to
it. -/
structure Asks (r : Router) (path file : Text) : Prop where
  loaded_eq : ∀ past, (Run.after (r.route path) past).loaded = past.loaded ++ [file]
  congr : ∀ past (load : Loader), load past file = r.load past file →
    { r with load := load }.route path past = r.route path past

section

variable {r : Router} {path file : Text} {past : History}

theorem route_of_error {f : Failure} (h : r.filePath (target path) = .error f) :
    r.route path past = .error f past := by
  simp only [route, h]

theorem route_of_ok (h : r.filePath (target path) = .ok file) :
    r.route path past =
      respond (target path) file (r.load past file) (past.push (.load file)) := by
  simp only [route, h]

/-- What is responded is told by the path and by what comes of loading its document; all that
happens is that the router logs. -/
theorem respond_eq (path file : Text) (outcome : Except Failure Bytes) :
    ∃ result entries, (∀ e ∈ entries, e.source = source) ∧ ∀ past,
      Run.outcome (respond path file outcome) past = result ∧
        Run.after (respond path file outcome) past = past.logAll entries := by
  have hone (level : Int) (message : Text) :
      ∀ e ∈ [(⟨source, level, message⟩ : Log.Entry)], e.source = source := by
    intro e he
    rw [List.mem_singleton.1 he]
  unfold Run.outcome Run.after respond
  split
  · exact ⟨_, [], by simp, fun _ => ⟨rfl, rfl⟩⟩
  · exact ⟨_, [_], hone _ _, fun _ => ⟨rfl, rfl⟩⟩
  · exact ⟨_, [_], hone _ _, fun _ => ⟨rfl, rfl⟩⟩
  · exact ⟨_, [], by simp, fun _ => ⟨rfl, rfl⟩⟩

theorem asks_of_filePath (h : r.filePath (target path) = .ok file) : r.Asks path file := by
  constructor
  · intro past
    obtain ⟨_, entries, _, heq⟩ := respond_eq (target path) file (r.load past file)
    rw [Run.after_congr (route_of_ok h), (heq _).2, History.loaded_logAll, History.loaded_push]
    rfl
  · intro past load hload
    have h' : { r with load := load }.filePath (target path) = .ok file := h
    rw [route_of_ok h, route_of_ok h']
    simp only [hload]

/-- What is responded bears one of the statuses, and a media type that breaks no line. -/
theorem respond_bears {bs : Bytes} (hpath : Written path bs) (hbs : Unbroken bs)
    {outcome : Except Failure Bytes} {response : Response} {past' : History}
    (h : respond path file outcome past = .ok response past') :
    ∃ status mediaType, response.Bears status mediaType := by
  have hplain : Written ("text/plain" : Text) (Bytes.ofAscii "text/plain") :=
    written_ofAscii (by decide)
  unfold respond at h
  split at h
  · cases h
    exact ⟨.ok, _, rfl, MediaType.written_ofPath hpath, unbroken_ofPathBytes hbs⟩
  · cases h
    exact ⟨.notFound, _, rfl, hplain, by decide, by decide⟩
  · cases h
    exact ⟨.internalError, _, rfl, hplain, by decide, by decide⟩
  · cases h

/-- What is routed for a word bears one of the statuses, and a media type that breaks no line. -/
theorem route_bears {word : Bytes} (hword : ∀ b ∈ word, Request.isSpace b = false)
    {response : Response} {past' : History}
    (h : r.route (decodeEscaping word) past = .ok response past') :
    ∃ status mediaType, response.Bears status mediaType := by
  have hwritten := written_target (written_decodeEscaping word)
  have hunbroken := unbroken_targetBytes (Unbroken.of_isSpace hword)
  cases hfile : r.filePath (target (decodeEscaping word)) with
  | error f =>
    rw [route_of_error hfile] at h
    cases h
  | ok file =>
    rw [route_of_ok hfile] at h
    exact respond_bears hwritten hunbroken h

end

/-- What is routed, and what happens then, is told by the root, the documents and the path. -/
theorem route_eq (root : Value) (documents : Text → Except Failure Bytes) (path : Text) :
    ∃ result es, ∀ (r : Router) (past : History), r.root = root →
      (∀ file, r.load past file = documents file) →
      Run.outcome (r.route path) past = result ∧
        (Run.after (r.route path) past).toList = past.toList ++ es := by
  have hsame : ∀ r : Router, r.root = root →
      r.filePath (target path) = filePath ⟨root, fun _ => documents⟩ (target path) := by
    rintro r rfl
    rfl
  cases hfile : filePath ⟨root, fun _ => documents⟩ (target path) with
  | error f =>
    refine ⟨.error f, [], fun r past hroot _ => ?_⟩
    have heq : r.route path past = .error f past :=
      route_of_error ((hsame r hroot).trans hfile)
    exact ⟨Run.outcome_of_error heq, by rw [Run.after_of_error heq, List.append_nil]⟩
  | ok file =>
    obtain ⟨result, entries, _, hrespond⟩ := respond_eq (target path) file (documents file)
    refine ⟨result, .load file :: entries.map .log, fun r past hroot hload => ?_⟩
    have heq : r.route path past =
        respond (target path) file (documents file) (past.push (.load file)) := by
      rw [route_of_ok ((hsame r hroot).trans hfile), hload file]
    obtain ⟨houtcome, hafter⟩ := hrespond (past.push (.load file))
    refine ⟨(Run.outcome_congr heq).trans houtcome, ?_⟩
    rw [Run.after_congr heq, hafter, History.toList_logAll, History.toList_push,
      List.append_assoc]
    rfl

/-- **A requested path reaches the files byte by byte**, and so does its extension the client: with
the second word of a head for a path, whatever bytes it is made of, the router asks for the file
written as these bytes behind those of its root, and sends a document that is found under the media
type that they tell.  A head of fewer words is malformed. -/
theorem route_transparent (r : Router) {root : Text} {rootBytes : Bytes}
    (hroot : r.root = .text root) (hbytes : encodeEscaping root = .ok rootBytes)
    {head : Bytes} {ws : List Bytes} (hws : Request.Runs head ws) :
    (∀ word, ws[1]? = some word →
      ∃ path file, Request.path head = .ok path ∧ r.Asks path file ∧
        encodeEscaping file = .ok (rootBytes ++ targetBytes word) ∧
        ∀ past body, r.load past file = .ok body →
          ∃ response payload k, r.route path past = .ok response (past.push (.load file)) ∧
            response.toBytes = .ok payload ∧
            Frames payload Status.ok.bytes (MediaType.ofPathBytes (targetBytes word)) body k) ∧
      (ws.length < 2 → Request.path head = .error (.malformed head)) := by
  have hwords : Request.words head = ws := hws.words_eq
  constructor
  · intro word hword
    have hspace := hws.isSpace_of_mem (List.mem_of_getElem? hword)
    have hpath : Request.path head = .ok (decodeEscaping word) :=
      Request.path_of_getElem? (by rw [hwords, hword])
    have hwritten := written_target (written_decodeEscaping word)
    have hfile : r.filePath (target (decodeEscaping word)) =
        .ok (root ++ target (decodeEscaping word)) := by
      rw [filePath, hroot]
    rw [encodeEscaping_eq_ok_iff] at hbytes
    refine ⟨_, _, hpath, asks_of_filePath hfile, ?_, ?_⟩
    · exact (encodeEscaping_eq_ok_iff _ _).2 (hbytes.append hwritten)
    · intro past body hload
      have hbears : (Response.document (MediaType.ofPath (target (decodeEscaping word))) body).Bears
          .ok (MediaType.ofPathBytes (targetBytes word)) :=
        ⟨rfl, MediaType.written_ofPath hwritten,
          unbroken_ofPathBytes (unbroken_targetBytes (Unbroken.of_isSpace hspace))⟩
      obtain ⟨payload, k, hpayload, hframes⟩ := hbears.exists_frames
      refine ⟨_, payload, k, ?_, hpayload, hframes⟩
      rw [route_of_ok hfile, hload]
      rfl
  · intro hlength
    rw [← hwords] at hlength
    exact Request.path_of_length_lt hlength

/-- A request for a script whose name is no text. -/
def strangeHead : Bytes := Bytes.ofAscii "GET /" ++ [0xFF] ++ Bytes.ofAscii ".js HTTP/1.1"

theorem route_transparent_strangeHead :
    ∃ path file, Request.path strangeHead = .ok path ∧
      encodeEscaping file = .ok (Bytes.ofAscii "/srv/" ++ [0xFF] ++ Bytes.ofAscii ".js") ∧
      Asks ⟨.text "/srv", fun _ _ => .ok []⟩ path file := by
  have hbytes : encodeEscaping "/srv" = .ok (Bytes.ofAscii "/srv") := by decide
  have hruns : Request.Runs strangeHead [Bytes.ofAscii "GET",
      Bytes.ofAscii "/" ++ [0xFF] ++ Bytes.ofAscii ".js", Bytes.ofAscii "HTTP/1.1"] :=
    (Request.words_eq_iff _ _).1 (by decide)
  obtain ⟨path, file, hpath, hasks, hfile, _⟩ :=
    (route_transparent ⟨.text "/srv", fun _ _ => .ok []⟩ rfl hbytes hruns).1 _ rfl
  exact ⟨path, file, hpath, hfile, hasks⟩

end Router

end StaticHttp
