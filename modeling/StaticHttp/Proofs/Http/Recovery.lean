import StaticHttp.Proofs.Text.OneLine
import StaticHttp.Proofs.Text.Stray

/-!
# Responses recovered from their bytes

A response can be written when its status and its media type can, and its body has no part in that.
What is written is cut at the first blank line, and what is in front of it at the ends of its lines:
as long as the status and the media type are one line each, this gives back the bytes of both and
the body.  So two responses are only written as the same bytes when all three are the same; the
texts of the first two need not be, since an escaped byte is written like a character that it is a
part of.

    r.toBytes = .ok payload → recover? payload = some ⟨status, mediaType, r.body⟩    (recover?_toBytes)
    r.toBytes = .error f → { r with body := b }.toBytes = .error f                      (toBytes_error)
-/

namespace StaticHttp

namespace Response

open Request Utf8

/-! ## Cutting -/

/-- What lies between the ends of lines. -/
def linesOf : Bytes → List Bytes
  | [] => [[]]
  | [b] => [[b]]
  | b :: c :: rest =>
    if b = 0x0D ∧ c = 0x0A then [] :: linesOf rest
    else
      match linesOf (c :: rest) with
      | [] => [[b]]
      | line :: more => (b :: line) :: more

/-- What stands behind a name, if it is the name that a line begins with. -/
def behind? (name line : Bytes) : Option Bytes :=
  if name.isPrefixOf line then some (line.drop name.length) else none

/-- The three parts of a response that are written, in bytes. -/
structure Parts where
  status : Bytes
  mediaType : Bytes
  body : Bytes
deriving DecidableEq

/-- The parts of the response that some bytes were written for: the bytes are cut at the first blank
line, and what is in front of it into its lines. -/
def recover? (payload : Bytes) : Option Parts :=
  match indexOf? blankLine payload with
  | none => none
  | some k =>
    let body := payload.drop (k + blankLine.length)
    match linesOf (payload.take k) with
    | [first, second, third] => do
      let status ← behind? (Bytes.ofAscii "HTTP/1.1 ") first
      let mediaType ← behind? (Bytes.ofAscii "Content-Type: ") second
      let length ← behind? (Bytes.ofAscii "Content-Length: ") third
      if length = numeral body.length then some ⟨status, mediaType, body⟩ else none
    | _ => none

theorem behind?_append (name value : Bytes) : behind? name (name ++ value) = some value := by
  rw [behind?, if_pos (List.isPrefixOf_iff_prefix.2 (List.prefix_append name value)),
    List.drop_left]

/-- A byte that ends no line goes on with the line behind it. -/
theorem linesOf_cons {b : UInt8} (hb : b ≠ 0x0D) {bs line : Bytes} {more : List Bytes}
    (h : linesOf bs = line :: more) : linesOf (b :: bs) = (b :: line) :: more := by
  cases bs with
  | nil =>
    cases h
    rfl
  | cons c rest => rw [linesOf, if_neg (fun hbc => hb hbc.1), h]

theorem linesOf_crlf (rest : Bytes) : linesOf (crlf ++ rest) = [] :: linesOf rest := by
  show linesOf (0x0D :: 0x0A :: rest) = _
  rw [linesOf, if_pos ⟨rfl, rfl⟩]

theorem linesOf_append {l : Bytes} (hl : 0x0D ∉ l) {rest line : Bytes} {more : List Bytes}
    (h : linesOf rest = line :: more) : linesOf (l ++ rest) = (l ++ line) :: more := by
  induction l with
  | nil => exact h
  | cons b l ih =>
    rw [List.mem_cons, not_or] at hl
    exact linesOf_cons (Ne.symm hl.1) (ih hl.2)

/-- Lines that are joined are cut where they were joined. -/
theorem linesOf_intercalate {ls : List Bytes} (hne : ls ≠ []) (h : ∀ l ∈ ls, 0x0D ∉ l) :
    linesOf (crlf.intercalate ls) = ls := by
  induction ls with
  | nil => exact absurd rfl hne
  | cons l ls ih =>
    rw [List.forall_mem_cons] at h
    cases ls with
    | nil =>
      have hend : linesOf [] = [[]] := rfl
      have hlast := linesOf_append h.1 hend
      rw [List.append_nil] at hlast
      rw [List.intercalate_singleton, hlast]
    | cons l' ls =>
      have hrest := linesOf_crlf (crlf.intercalate (l' :: ls))
      rw [ih (List.cons_ne_nil _ _) h.2] at hrest
      rw [List.intercalate_cons_cons, List.append_assoc, linesOf_append h.1 hrest,
        List.append_nil]

/-- What is framed is recovered, when neither the status nor the media type breaks a line. -/
theorem Frames.recover?_eq {payload s m body : Bytes} {k : Nat} (h : Frames payload s m body k)
    (hs : Unbroken s) (hm : Unbroken m) : recover? payload = some ⟨s, m, body⟩ := by
  have hdrop : payload.drop (k + blankLine.length) = body := h.drop_eq
  have hlength : payload.length - k - 4 = body.length := by
    rw [← h.drop_eq, List.length_drop]
    omega
  have hlines : linesOf (payload.take k) = lines s m body.length := by
    rw [h.take_eq, hlength]
    exact linesOf_intercalate (List.cons_ne_nil _ _) fun l hl => (lines_unbroken hs hm _ l hl).2
  simp only [recover?, h.indexOf_eq, hlines, hdrop, lines, behind?_append, Option.bind_eq_bind,
    Option.bind_some, if_true]

/-! ## Writing -/

/-- The lines of a head up to its media type. -/
def opening (status mediaType : Text) : Text :=
  "HTTP/1.1 " ++ status ++ lineEnd ++ "Content-Type: " ++ mediaType

theorem head_eq (status mediaType : Text) (length : Nat) :
    head status mediaType length = opening status mediaType ++ ('\r' : CodePoint) ::
      ('\n' : CodePoint) :: ("Content-Length: " ++ Text.ofNat length ++ lineEnd ++ lineEnd) := by
  have hend : lineEnd = [('\r' : CodePoint), '\n'] := rfl
  unfold head opening
  rw [hend]
  simp only [List.append_assoc, List.cons_append, List.nil_append]

/-- A head can be written when its status and its media type can. -/
theorem exists_written_head_iff (status mediaType : Text) (length : Nat) :
    (∃ bs, Written (head status mediaType length) bs) ↔
      ∀ c ∈ status ++ mediaType, ¬ c.IsStray := by
  constructor
  · intro h c hc
    apply exists_written_iff.1 h
    simp only [head, List.mem_append] at hc ⊢
    rcases hc with hc | hc
    · simp [hc]
    · simp [hc]
  · intro h
    rw [List.forall_mem_append, ← exists_written_iff, ← exists_written_iff] at h
    obtain ⟨⟨s, hs⟩, ⟨m, hm⟩⟩ := h
    exact ⟨_, written_head hs hm length⟩

theorem toBytes_eq_ok_iff {r : Response} {payload : Bytes} :
    r.toBytes = .ok payload ↔
      ∃ bs, Written (head r.status r.mediaType r.body.length) bs ∧ payload = bs ++ r.body := by
  unfold toBytes
  simp only [← encodeEscaping_eq_ok_iff]
  cases encodeEscaping (head r.status r.mediaType r.body.length) with
  | ok bs =>
    constructor
    · intro h
      exact ⟨bs, rfl, (Except.ok.inj h).symm⟩
    · rintro ⟨_, h, rfl⟩
      rw [Except.ok.inj h]
  | error fault =>
    constructor
    · intro h
      cases h
    · rintro ⟨_, h, _⟩
      cases h

theorem toBytes_eq_error_iff {r : Response} {f : Failure} :
    r.toBytes = .error f ↔
      ∃ fault, encodeEscaping (head r.status r.mediaType r.body.length) = .error fault ∧
        f = .unencodable fault := by
  unfold toBytes
  cases encodeEscaping (head r.status r.mediaType r.body.length) with
  | ok bs =>
    constructor
    · intro h
      cases h
    · rintro ⟨_, h, _⟩
      cases h
  | error fault =>
    constructor
    · intro h
      exact ⟨fault, rfl, (Except.error.inj h).symm⟩
    · rintro ⟨_, h, rfl⟩
      rw [Except.error.inj h]

/-- A response can be written when no surrogate in its status or its media type is stray. -/
theorem exists_toBytes_iff (r : Response) :
    (∃ payload, r.toBytes = .ok payload) ↔ ∀ c ∈ r.status ++ r.mediaType, ¬ c.IsStray := by
  rw [← exists_written_head_iff _ _ r.body.length]
  simp only [toBytes_eq_ok_iff]
  constructor
  · rintro ⟨_, bs, h, _⟩
    exact ⟨bs, h⟩
  · rintro ⟨bs, h⟩
    exact ⟨_, bs, h, rfl⟩

/-- What a response cannot be written for is found in front of its length. -/
theorem encodeEscaping_opening {status mediaType : Text} {length : Nat} {fault : EncodeFault}
    (h : encodeEscaping (head status mediaType length) = .error fault) :
    encodeEscaping (opening status mediaType) = .error fault := by
  cases hopening : encodeEscaping (opening status mediaType) with
  | ok bs =>
    have hnone : ∀ c ∈ status ++ mediaType, ¬ c.IsStray := by
      intro c hc
      apply exists_written_iff.1 ⟨bs, (encodeEscaping_eq_ok_iff _ _).1 hopening⟩
      simp only [opening, List.mem_append] at hc ⊢
      rcases hc with hc | hc
      · simp [hc]
      · simp [hc]
    obtain ⟨bs', hbs'⟩ := (exists_written_head_iff status mediaType length).2 hnone
    rw [(encodeEscaping_eq_ok_iff _ _).2 hbs'] at h
    cases h
  | error fault' =>
    rw [head_eq, encodeEscaping_append_of_error hopening (by decide)] at h
    exact h

/-- The body of a response does not matter to what it cannot be written for. -/
theorem toBytes_error {r : Response} {f : Failure} (h : r.toBytes = .error f) (body : Bytes) :
    { r with body := body }.toBytes = .error f := by
  obtain ⟨fault, hfault, rfl⟩ := toBytes_eq_error_iff.1 h
  apply toBytes_eq_error_iff.2
  refine ⟨fault, ?_, rfl⟩
  rw [head_eq]
  exact encodeEscaping_append_of_error (encodeEscaping_opening hfault) (by decide) _

/-! ## Writing and recovering -/

/-- What is written for a response of one-line parts gives back the bytes of each of them. -/
theorem recover?_toBytes {r : Response} {payload : Bytes} (h : r.toBytes = .ok payload)
    (hstatus : r.status.OneLine) (htype : r.mediaType.OneLine) :
    ∃ s m, encodeEscaping r.status = .ok s ∧ encodeEscaping r.mediaType = .ok m ∧
      recover? payload = some ⟨s, m, r.body⟩ := by
  have hnone := (exists_toBytes_iff r).1 ⟨payload, h⟩
  rw [List.forall_mem_append, ← exists_written_iff, ← exists_written_iff] at hnone
  obtain ⟨⟨s, hs⟩, ⟨m, hm⟩⟩ := hnone
  rw [toBytes_eq hs hm] at h
  obtain rfl := Except.ok.inj h
  have hframes := frames_framed (hs.oneLine_iff.1 hstatus) (hm.oneLine_iff.1 htype) r.body
  exact ⟨s, m, (encodeEscaping_eq_ok_iff _ _).2 hs, (encodeEscaping_eq_ok_iff _ _).2 hm,
    hframes.recover?_eq (hs.oneLine_iff.1 hstatus) (hm.oneLine_iff.1 htype)⟩

/-- What a response cannot be written for is a stray surrogate. -/
theorem exists_unencodable_iff (r : Response) :
    (∃ fault, r.toBytes = .error (.unencodable fault)) ↔
      ∃ c ∈ r.status ++ r.mediaType, c.IsStray := by
  have herror : (∃ fault, r.toBytes = .error (.unencodable fault)) ↔
      ¬ ∃ payload, r.toBytes = .ok payload := by
    cases hr : r.toBytes with
    | ok payload => simp
    | error f =>
      obtain ⟨fault, _, rfl⟩ := toBytes_eq_error_iff.1 hr
      simp
  rw [herror, exists_toBytes_iff]
  simp

/-- **What is written for a response can be read in one way only.**  A response cannot be written
when a surrogate in its status or its media type is stray, whatever its body is.  Otherwise, if both
are one line, their bytes and the body are what the written bytes are cut into, and so they are the
same for all responses that are written as these bytes. -/
theorem toBytes_recoverable (r : Response) :
    ((∃ fault, r.toBytes = .error (.unencodable fault)) ↔
      ∃ c ∈ r.status ++ r.mediaType, c.IsStray) ∧
    ((∃ payload, r.toBytes = .ok payload) ↔ ∀ c ∈ r.status ++ r.mediaType, ¬ c.IsStray) ∧
    (∀ f body, { r with body := body }.toBytes = .error f ↔ r.toBytes = .error f) ∧
    ∀ payload, r.toBytes = .ok payload → r.status.OneLine → r.mediaType.OneLine →
      (∃ s m, encodeEscaping r.status = .ok s ∧ encodeEscaping r.mediaType = .ok m ∧
        recover? payload = some ⟨s, m, r.body⟩) ∧
      ∀ r' : Response, r'.toBytes = .ok payload → r'.status.OneLine → r'.mediaType.OneLine →
        r'.body = r.body ∧ encodeEscaping r'.status = encodeEscaping r.status ∧
          encodeEscaping r'.mediaType = encodeEscaping r.mediaType := by
  refine ⟨exists_unencodable_iff r, exists_toBytes_iff r, ?_, ?_⟩
  · intro f body
    constructor
    · intro h
      exact toBytes_error h r.body
    · intro h
      exact toBytes_error h body
  · intro payload h hstatus htype
    obtain ⟨s, m, hs, hm, hparts⟩ := recover?_toBytes h hstatus htype
    refine ⟨⟨s, m, hs, hm, hparts⟩, ?_⟩
    intro r' h' hstatus' htype'
    obtain ⟨s', m', hs', hm', hparts'⟩ := recover?_toBytes h' hstatus' htype'
    rw [hparts, Option.some.injEq, Parts.mk.injEq] at hparts'
    obtain ⟨rfl, rfl, hbody⟩ := hparts'
    exact ⟨hbody.symm, by rw [hs, hs'], by rw [hm, hm']⟩

/-- A response with a byte in its media type that is no character, and with what looks like another
response in its body. -/
def nested : Response where
  status := "200 OK"
  mediaType := "text/" ++ [CodePoint.escape 0xFF]
  body := Bytes.ofAscii "\r\n\r\nHTTP/1.1 404 Not Found\r\n"

theorem toBytes_recoverable_nested :
    nested.status.OneLine ∧ nested.mediaType.OneLine ∧
      ∃ payload, nested.toBytes = .ok payload ∧ recover? payload =
        some ⟨Bytes.ofAscii "200 OK", Bytes.ofAscii "text/" ++ [0xFF], nested.body⟩ := by
  have hstatus : nested.status.OneLine := ⟨by decide, by decide⟩
  have htype : nested.mediaType.OneLine := ⟨by decide, by decide⟩
  obtain ⟨_, hwritten, _, hrecovered⟩ := toBytes_recoverable nested
  obtain ⟨payload, hpayload⟩ := hwritten.2 (by decide)
  obtain ⟨⟨s, m, hs, hm, hparts⟩, _⟩ := hrecovered payload hpayload hstatus htype
  have hs' : encodeEscaping nested.status = .ok (Bytes.ofAscii "200 OK") := by decide
  have hm' : encodeEscaping nested.mediaType = .ok (Bytes.ofAscii "text/" ++ [0xFF]) := by decide
  cases hs.symm.trans hs'
  cases hm.symm.trans hm'
  exact ⟨hstatus, htype, payload, hpayload, hparts⟩

/-- The same bytes are written for a character and for the surrogates of its octets. -/
example :
    encodeEscaping ([CodePoint.escape 0xC3, CodePoint.escape 0xA9]) = encodeEscaping "é" := by
  decide

end Response

end StaticHttp
