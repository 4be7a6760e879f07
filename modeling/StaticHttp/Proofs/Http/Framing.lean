import StaticHttp.Http.Response
import StaticHttp.Proofs.Http.Search
import StaticHttp.Proofs.Text.Legible
import StaticHttp.Proofs.Text.Written

/-!
# The framing of a response

On the wire a response is three lines, a blank line, and the body.  As long as no line is empty or
has a carriage return in it, the blank line that a reader finds first is the one in front of the
body, whatever the body is.

    r.toBytes = .ok (framed status mediaType r.body)                       (toBytes_eq)
    indexOf? blankLine (crlf.intercalate ls ++ blankLine ++ body)
      = some (crlf.intercalate ls).length                                  (indexOf?_lines)
-/

namespace StaticHttp

/-- Bytes with no end of a line in them. -/
structure Unbroken (bs : Bytes) : Prop where
  noReturn : 0x0D ∉ bs
  noFeed : 0x0A ∉ bs

theorem Unbroken.append {as bs : Bytes} (ha : Unbroken as) (hb : Unbroken bs) :
    Unbroken (as ++ bs) :=
  ⟨List.not_mem_append ha.noReturn hb.noReturn, List.not_mem_append ha.noFeed hb.noFeed⟩

/-- A number in base ten, in bytes. -/
def numeral (n : Nat) : Bytes := (Nat.toDigits 10 n).map fun c => UInt8.ofNat c.toNat

/-- The bytes of a status. -/
def Status.bytes : Status → Bytes
  | ok => Bytes.ofAscii "200 OK"
  | notFound => Bytes.ofAscii "404 Not Found"
  | internalError => Bytes.ofAscii "500 Internal Server Error"

namespace Response

open Request Utf8

/-- The end of a line, in bytes. -/
def crlf : Bytes := [0x0D, 0x0A]

/-- The lines of the head of a response. -/
def lines (status mediaType : Bytes) (length : Nat) : List Bytes :=
  [Bytes.ofAscii "HTTP/1.1 " ++ status, Bytes.ofAscii "Content-Type: " ++ mediaType,
    Bytes.ofAscii "Content-Length: " ++ numeral length]

/-- The bytes of a response: its lines, a blank line and the body. -/
def framed (status mediaType body : Bytes) : Bytes :=
  crlf.intercalate (lines status mediaType body.length) ++ blankLine ++ body

/-! ## What a response is written as -/

theorem written_ofNat (n : Nat) : Written (Text.ofNat n) (numeral n) := by
  apply written_map_ofChar
  intro c hc
  have := Text.range_of_mem_toDigits hc
  omega

theorem unbroken_numeral (n : Nat) : Unbroken (numeral n) := by
  have hrange : ∀ b ∈ numeral n, 0x30 ≤ b.toNat := by
    intro b hb
    obtain ⟨c, hc, rfl⟩ := List.mem_map.1 hb
    have := Text.range_of_mem_toDigits hc
    rw [UInt8.toNat_ofNat']
    omega
  constructor
  · intro h
    exact absurd (hrange _ h) (by decide)
  · intro h
    exact absurd (hrange _ h) (by decide)

theorem written_line (s : Status) : Written s.line s.bytes := by
  cases s with
  | ok => exact written_ofAscii (s := "200 OK") (by decide)
  | notFound => exact written_ofAscii (s := "404 Not Found") (by decide)
  | internalError => exact written_ofAscii (s := "500 Internal Server Error") (by decide)

theorem unbroken_bytes (s : Status) : Unbroken s.bytes := by
  cases s with
  | ok => exact ⟨by decide, by decide⟩
  | notFound => exact ⟨by decide, by decide⟩
  | internalError => exact ⟨by decide, by decide⟩

theorem written_lineEnd : Written lineEnd crlf := written_ofAscii (s := "\r\n") (by decide)

theorem written_head {status mediaType : Text} {s m : Bytes} (hs : Written status s)
    (hm : Written mediaType m) (length : Nat) :
    Written (head status mediaType length) (crlf.intercalate (lines s m length) ++ blankLine) := by
  have hstatus : Written ("HTTP/1.1 " ++ status) (Bytes.ofAscii "HTTP/1.1 " ++ s) :=
    (written_ofAscii (by decide)).append hs
  have htype : Written ("Content-Type: " ++ mediaType) (Bytes.ofAscii "Content-Type: " ++ m) :=
    (written_ofAscii (by decide)).append hm
  have hlength : Written ("Content-Length: " ++ Text.ofNat length)
      (Bytes.ofAscii "Content-Length: " ++ numeral length) :=
    (written_ofAscii (by decide)).append (written_ofNat length)
  have hall := hstatus.append (written_lineEnd.append (htype.append (written_lineEnd.append
    (hlength.append (written_lineEnd.append written_lineEnd)))))
  have hblank : crlf ++ crlf = blankLine := rfl
  rw [hblank] at hall
  unfold lines head
  simp only [List.intercalate_cons_cons, List.intercalate_singleton]
  simpa only [List.append_assoc] using hall

/-- What is written for a response whose status and media type can be written. -/
theorem toBytes_eq {r : Response} {s m : Bytes} (hs : Written r.status s)
    (hm : Written r.mediaType m) : r.toBytes = .ok (framed s m r.body) := by
  have hhead := (encodeEscaping_eq_ok_iff _ _).2 (written_head hs hm r.body.length)
  rw [toBytes, hhead]
  rfl

/-! ## Where the head ends -/

/-- No blank line begins with the end of a line that another line follows. -/
theorem indexOf?_crlf_cons {b : UInt8} (hb : b ≠ 0x0D) (rest : Bytes) :
    indexOf? blankLine (crlf ++ b :: rest) = (indexOf? blankLine (b :: rest)).map (· + 2) := by
  have hreturn : ¬ blankLine.isPrefixOf (0x0D :: 0x0A :: b :: rest) = true := by
    rw [List.isPrefixOf_iff_prefix]
    simp only [blankLine, List.cons_prefix_cons]
    exact fun h => hb h.2.2.1.symm
  have hfeed : ¬ blankLine.isPrefixOf (0x0A :: b :: rest) = true := by
    rw [List.isPrefixOf_iff_prefix]
    simp only [blankLine, List.cons_prefix_cons]
    exact fun h => absurd h.1 (by decide)
  show indexOf? blankLine (0x0D :: 0x0A :: b :: rest) = _
  rw [indexOf?, if_neg hreturn, indexOf?, if_neg hfeed, Option.map_map]
  rfl

/-- A blank line does not begin where there is no carriage return. -/
theorem indexOf?_blankLine_of_notMem {l : Bytes} (hl : 0x0D ∉ l) (rest : Bytes) :
    indexOf? blankLine (l ++ rest) = (indexOf? blankLine rest).map (· + l.length) :=
  indexOf?_append_of_notMem hl rest

theorem indexOf?_blankLine_append (body : Bytes) :
    indexOf? blankLine (blankLine ++ body) = some 0 := by
  rw [indexOf?_eq_some_iff]
  exact ⟨List.prefix_append _ _, fun m hm => absurd hm (Nat.not_lt_zero m)⟩

/-- Lines that are joined begin as the first of them does. -/
theorem intercalate_cons_eq (sep : Bytes) (b : UInt8) (l : Bytes) (ls : List Bytes) :
    ∃ rest, sep.intercalate ((b :: l) :: ls) = b :: rest := by
  cases ls with
  | nil => exact ⟨l, List.intercalate_singleton⟩
  | cons l' ls => exact ⟨_, List.intercalate_cons_cons⟩

/-- **The first blank line is the one behind the lines**, when none of them is empty or has a
carriage return in it. -/
theorem indexOf?_lines {ls : List Bytes} (h : ∀ l ∈ ls, l ≠ [] ∧ 0x0D ∉ l) (body : Bytes) :
    indexOf? blankLine (crlf.intercalate ls ++ blankLine ++ body) =
      some (crlf.intercalate ls).length := by
  induction ls with
  | nil => exact indexOf?_blankLine_append body
  | cons l ls ih =>
    rw [List.forall_mem_cons] at h
    obtain ⟨⟨_, hl⟩, hls⟩ := h
    cases ls with
    | nil =>
      rw [List.intercalate_singleton, List.append_assoc, indexOf?_blankLine_of_notMem hl,
        indexOf?_blankLine_append, Option.map_some, Nat.zero_add]
    | cons l' ls =>
      have hlines := ih hls
      obtain ⟨hne, hl'⟩ := hls l' List.mem_cons_self
      obtain ⟨b, tail, rfl⟩ := List.exists_cons_of_ne_nil hne
      obtain ⟨rest, hrest⟩ := intercalate_cons_eq crlf b tail ls
      have hb : b ≠ 0x0D := fun hb => hl' (hb ▸ List.mem_cons_self)
      rw [List.intercalate_cons_cons]
      rw [hrest] at hlines ⊢
      simp only [List.append_assoc, List.cons_append] at hlines ⊢
      rw [indexOf?_blankLine_of_notMem hl, indexOf?_crlf_cons hb, hlines, Option.map_some,
        Option.map_some]
      simp only [List.length_append, List.length_cons, crlf, List.length_nil]
      congr 1
      omega

theorem lines_unbroken {s m : Bytes} (hs : Unbroken s) (hm : Unbroken m) (length : Nat) :
    ∀ l ∈ lines s m length, l ≠ [] ∧ 0x0D ∉ l := by
  have hascii : ∀ name : String, name.toList ≠ [] → 0x0D ∉ Bytes.ofAscii name → ∀ value : Bytes,
      Unbroken value →
      Bytes.ofAscii name ++ value ≠ [] ∧ 0x0D ∉ Bytes.ofAscii name ++ value := by
    intro name hne hname value hvalue
    refine ⟨?_, List.not_mem_append hname hvalue.noReturn⟩
    rw [Ne, List.append_eq_nil_iff, Bytes.ofAscii, List.map_eq_nil_iff]
    exact fun h => hne h.1
  simp only [lines, List.forall_mem_cons, List.not_mem_nil, false_implies, implies_true, and_true]
  exact ⟨hascii _ (by decide) (by decide) _ hs, hascii _ (by decide) (by decide) _ hm,
    hascii _ (by decide) (by decide) _ (unbroken_numeral length)⟩

/-- In front of the first blank line of a payload, which is at `k`, three lines give its status, its
media type and the number of bytes behind the blank line; these are the body. -/
structure Frames (payload status mediaType body : Bytes) (k : Nat) : Prop where
  indexOf_eq : indexOf? blankLine payload = some k
  take_eq : payload.take k = crlf.intercalate (lines status mediaType (payload.length - k - 4))
  drop_eq : payload.drop (k + 4) = body

/-- **What is framed can be read back**, when neither the status nor the media type breaks a
line. -/
theorem frames_framed {s m : Bytes} (hs : Unbroken s) (hm : Unbroken m) (body : Bytes) :
    Frames (framed s m body) s m body (crlf.intercalate (lines s m body.length)).length := by
  constructor
  · exact indexOf?_lines (lines_unbroken hs hm body.length) body
  · have hlength : (framed s m body).length -
        (crlf.intercalate (lines s m body.length)).length - 4 = body.length := by
      simp only [framed, List.length_append, blankLine, List.length_cons, List.length_nil]
      omega
    rw [hlength, framed, List.append_assoc, List.take_left]
  · rw [framed, ← List.drop_drop, List.append_assoc, List.drop_left]
    rfl

end Response

end StaticHttp
