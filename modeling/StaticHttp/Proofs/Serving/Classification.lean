import StaticHttp.Proofs.Serving.Routing

/-!
# Every path is answered

Whatever comes of opening and reading a file, the path that it was asked for is answered, and the
answer can be written.  A file that is read is sent; where the system says that nothing is there,
the answer is 404; and any other failure is answered with 500.  The media type of a file is the one
thing that could not be written: but it is told by the end of a path that the system has taken, and
what the system takes can be written.

    Opened file outcome → Loader.document file outcome is answered            (route_classifies)
    Opened file (t.read file)                                                 (opened_read)
-/

namespace StaticHttp

/-! ## What comes of opening a file -/

/-- What can come of opening and reading the file at a path: its content, for a path that can be
written; an error of the system; or that the path is none that a file could have. -/
inductive Opened (file : Text) : Except Failure Bytes → Prop
  | read {bs body : Bytes} : Utf8.encodeEscaping file = .ok bs → Opened file (.ok body)
  | refused (e : SystemError) : Opened file (.error (.system e))
  | unfit {f : Failure} : f.isBadValue = true → Opened file (.error f)

/-- The system says that nothing is at a path: by the sort of its error, or by its number, which is
2 where an entry is missing and 20 where the path leads through a file. -/
def Failure.SaysMissing (f : Failure) : Prop :=
  ∃ e, f = .system e ∧ (e.sort = .notFound ∨ e.number = some 2 ∨ e.number = some 20)

/-- The files of a tree are opened so. -/
theorem Tree.opened_read (t : Tree) (file : Text) : Opened file (t.read file) := by
  unfold read find pathBytes
  cases henc : Utf8.encodeEscaping file with
  | error fault => exact .unfit rfl
  | ok bs =>
    simp only
    by_cases hnul : bs.contains 0 = true
    · rw [if_pos hnul]
      exact .unfit rfl
    · rw [if_neg hnul]
      simp only
      cases t.locate true bs with
      | error e => exact .refused _
      | ok spot =>
        match spot with
        | .free _ => exact .refused _
        | .taken _ .folder => exact .refused _
        | .taken _ (.file _) => exact .read henc
        | .taken _ .sink => exact .read henc
        | .taken _ (.link _) => exact .refused _

namespace Loader

/-- Documents are files, as they can be opened and read. -/
def ofFiles (opens : History → Text → Except Failure Bytes) : Loader := fun past file =>
  document file (opens past file)

theorem ofTree_eq (t : Tree) : ofTree t = ofFiles fun _ => t.read := rfl

theorem document_of_missing {f : Failure} (h : f.SaysMissing) (file : Text) :
    document file (.error f) =
      .error (.document (some .notFound) (some file) (some f.message)) := by
  obtain ⟨e, rfl, he⟩ := h
  show Except.error (failureFor file (.system e)) = _
  rw [failureFor, if_pos he]

theorem document_of_opened {f : Failure} {file : Text} (h : Opened file (.error f))
    (hmissing : ¬ f.SaysMissing) :
    document file (.error f) =
      .error (.document (some .unreadable) (some file) (some f.message)) := by
  show Except.error (failureFor file f) = _
  cases h with
  | refused e => rw [failureFor, if_neg (fun he => hmissing ⟨e, rfl, he⟩)]
  | unfit hf =>
    cases f with
    | unencodable fault => rfl
    | undecodable fault => rfl
    | notJson fault => rfl
    | badValue message => rfl
    | _ => cases hf

end Loader

namespace Router

open Response Utf8

/-! ## What is answered -/

/-- The status that what came of opening and reading a file is to be answered with. -/
inductive Merits : Except Failure Bytes → Status → Prop
  | read {body : Bytes} : Merits (.ok body) .ok
  | missing {f : Failure} : f.SaysMissing → Merits (.error f) .notFound
  | failed {f : Failure} : ¬ f.SaysMissing → Merits (.error f) .internalError

theorem Merits.unique {outcome : Except Failure Bytes} {s t : Status} (hs : Merits outcome s)
    (ht : Merits outcome t) : s = t := by
  cases hs with
  | read =>
    cases ht
    rfl
  | missing hf =>
    cases ht with
    | missing _ => rfl
    | failed hnot => exact absurd hf hnot
  | failed hnot =>
    cases ht with
    | missing hf => exact absurd hf hnot
    | failed _ => rfl

theorem line_injective {s t : Status} (h : s.line = t.line) : s = t := by
  cases s with
  | ok =>
    cases t with
    | ok => rfl
    | notFound => exact absurd h (by decide)
    | internalError => exact absurd h (by decide)
  | notFound =>
    cases t with
    | ok => exact absurd h (by decide)
    | notFound => rfl
    | internalError => exact absurd h (by decide)
  | internalError =>
    cases t with
    | ok => exact absurd h (by decide)
    | notFound => exact absurd h (by decide)
    | internalError => rfl

/-- A response answers what came of opening and reading a file: it has the status for that, sends a
file that was read as it is, and is one of the fixed responses otherwise. -/
structure Classifies (outcome : Except Failure Bytes) (response : Response) : Prop where
  status_iff : ∀ status : Status, response.status = status.line ↔ Merits outcome status
  body_eq : ∀ body, outcome = .ok body → response.body = body
  notFound_eq : Merits outcome .notFound → response = .notFound
  internalError_eq : Merits outcome .internalError → response = .internalError

theorem status_eq_line_iff {outcome : Except Failure Bytes} {response : Response} {status : Status}
    (hstatus : response.status = status.line) (hmerits : Merits outcome status) (s : Status) :
    response.status = s.line ↔ Merits outcome s := by
  constructor
  · intro h
    obtain rfl := line_injective (hstatus.symm.trans h)
    exact hmerits
  · intro h
    obtain rfl := hmerits.unique h
    exact hstatus

/-- What came of opening a file is responded to as it merits. -/
theorem respond_document (path : Text) {file : Text} {outcome : Except Failure Bytes}
    (h : Opened file outcome) (past : History) :
    ∃ response past', respond path file (Loader.document file outcome) past = .ok response past' ∧
      Classifies outcome response ∧
      ((∃ body, outcome = .ok body ∧ response = .document (MediaType.ofPath path) body) ∨
        response = .notFound ∨ response = .internalError) := by
  cases houtcome : outcome with
  | ok body =>
    refine ⟨.document (MediaType.ofPath path) body, past, rfl, ?_, .inl ⟨body, rfl, rfl⟩⟩
    refine ⟨status_eq_line_iff rfl .read, ?_, ?_, ?_⟩
    · intro body' hbody
      exact Except.ok.inj hbody
    · intro hmerits
      cases hmerits
    · intro hmerits
      cases hmerits
  | error f =>
    rw [houtcome] at h
    by_cases hf : f.SaysMissing
    · rw [Loader.document_of_missing hf]
      refine ⟨.notFound, _, rfl, ?_, .inr (.inl rfl)⟩
      refine ⟨status_eq_line_iff rfl (.missing hf), ?_, fun _ => rfl, ?_⟩
      · intro body hbody
        cases hbody
      · intro hmerits
        cases hmerits with
        | failed hnot => exact absurd hf hnot
    · rw [Loader.document_of_opened h hf]
      refine ⟨.internalError, _, rfl, ?_, .inr (.inr rfl)⟩
      refine ⟨status_eq_line_iff rfl (.failed hf), ?_, ?_, fun _ => rfl⟩
      · intro body hbody
        cases hbody
      · intro hmerits
        cases hmerits with
        | missing hmissing => exact absurd hmissing hf

/-! ## What can be written -/

/-- The media type of a path can be written when the path can be, behind any root. -/
theorem exists_toBytes_document {root path : Text} {bs : Bytes}
    (h : encodeEscaping (root ++ path) = .ok bs) (body : Bytes) :
    ∃ payload, (Response.document (MediaType.ofPath path) body).toBytes = .ok payload := by
  obtain ⟨_, ys, _, _, hpath⟩ := ((encodeEscaping_eq_ok_iff _ _).1 h).of_append
  exact ⟨_, toBytes_eq (written_line .ok) (MediaType.written_ofPath hpath)⟩

theorem exists_toBytes_fixed :
    (∃ payload, Response.notFound.toBytes = .ok payload) ∧
      ∃ payload, Response.internalError.toBytes = .ok payload := by
  have hplain : Written ("text/plain" : Text) (Bytes.ofAscii "text/plain") :=
    written_ofAscii (by decide)
  exact ⟨⟨_, toBytes_eq (written_line .notFound) hplain⟩,
    ⟨_, toBytes_eq (written_line .internalError) hplain⟩⟩

/-- **Every path is answered as what comes of opening its file merits**, with a response that can be
written, whatever the root and the path are: 200 and the content of a file that was read, 404 where
the system says that nothing is there, and 500 for every other failure. -/
theorem route_classifies (root path : Text) (opens : History → Text → Except Failure Bytes)
    (past : History)
    (hopened : Opened (root ++ target path) (opens past (root ++ target path))) :
    ∃ response past' payload,
      route ⟨.text root, Loader.ofFiles opens⟩ path past = .ok response past' ∧
      response.toBytes = .ok payload ∧
      Classifies (opens past (root ++ target path)) response := by
  have hfile : filePath ⟨.text root, Loader.ofFiles opens⟩ (target path) =
      .ok (root ++ target path) := rfl
  obtain ⟨response, past', hrespond, hclassifies, hform⟩ := respond_document (target path)
    hopened (past.push (.load (root ++ target path)))
  have hroute := (route_of_ok hfile).trans hrespond
  have hpayload : ∃ payload, response.toBytes = .ok payload := by
    rcases hform with ⟨body, houtcome, rfl⟩ | rfl | rfl
    · rw [houtcome] at hopened
      cases hopened with
      | read henc => exact exists_toBytes_document henc body
    · exact exists_toBytes_fixed.1
    · exact exists_toBytes_fixed.2
  obtain ⟨payload, hpayload⟩ := hpayload
  exact ⟨response, past', payload, hroute, hpayload, hclassifies⟩

/-- A path whose extension is a surrogate that stands for no byte. -/
def strayPath : Text := "/a." ++ [CodePoint.ofNat 0xD800]

theorem route_classifies_strayPath :
    ∃ past' payload,
      route ⟨.text "docs", .ofTree (Tree.fresh "w")⟩ strayPath .empty =
        .ok .internalError past' ∧ Response.internalError.toBytes = .ok payload := by
  have hopened := Tree.opened_read (Tree.fresh "w") ("docs" ++ target strayPath)
  obtain ⟨response, past', payload, hroute, hpayload, hclassifies⟩ :=
    route_classifies "docs" strayPath (fun _ => (Tree.fresh "w").read) .empty hopened
  have hread : (Tree.fresh "w").read ("docs" ++ target strayPath) =
      .error (.unencodable ⟨CodePoint.ofNat 0xD800, 7, 8⟩) := by rfl
  have hmerits : Merits ((Tree.fresh "w").read ("docs" ++ target strayPath)) .internalError := by
    rw [hread]
    refine .failed ?_
    rintro ⟨_, h, _⟩
    cases h
  obtain rfl := hclassifies.internalError_eq hmerits
  rw [Loader.ofTree_eq]
  exact ⟨past', payload, hroute, hpayload⟩

end Router

end StaticHttp
