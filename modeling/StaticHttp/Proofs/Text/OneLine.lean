import StaticHttp.Proofs.Http.Framing
import StaticHttp.Proofs.Text.Escaping
import StaticHttp.Proofs.Text.Legible

/-!
# Texts of one line

A text without carriage return and line feed stays one line wherever it is written.  What is decoded
from bytes is one line exactly when the bytes are: an end of a line is decoded from the byte of its
number, and from nothing else.

    Written t bs → (t.OneLine ↔ Unbroken bs)                    (Written.oneLine_iff)
    (decodeReplacing bs).OneLine ↔ Unbroken bs                  (oneLine_decodeReplacing_iff)
-/

namespace StaticHttp

/-- A text with no end of a line in it. -/
structure Text.OneLine (t : Text) : Prop where
  noReturn : ('\r' : CodePoint) ∉ t
  noFeed : ('\n' : CodePoint) ∉ t

namespace Text

theorem Legible.oneLine {t : Text} (h : t.Legible) : t.OneLine :=
  ⟨h.notMem (by decide), h.notMem (by decide)⟩

theorem oneLine_append_iff {t u : Text} : (t ++ u).OneLine ↔ t.OneLine ∧ u.OneLine := by
  constructor
  · rintro ⟨hreturn, hfeed⟩
    rw [List.mem_append, not_or] at hreturn hfeed
    exact ⟨⟨hreturn.1, hfeed.1⟩, hreturn.2, hfeed.2⟩
  · rintro ⟨ht, hu⟩
    exact ⟨List.not_mem_append ht.noReturn hu.noReturn, List.not_mem_append ht.noFeed hu.noFeed⟩

theorem OneLine.append {t u : Text} (ht : t.OneLine) (hu : u.OneLine) : (t ++ u).OneLine :=
  oneLine_append_iff.2 ⟨ht, hu⟩

end Text

namespace Utf8

/-! ## Decoded bytes -/

theorem Written.oneLine_iff {t : Text} {bs : Bytes} (h : Written t bs) :
    t.OneLine ↔ Unbroken bs := by
  have hreturn := h.mem_iff (b := 0x0D) (by decide)
  have hfeed := h.mem_iff (b := 0x0A) (by decide)
  constructor
  · intro ht
    exact ⟨fun hmem => ht.noReturn (hreturn.1 hmem), fun hmem => ht.noFeed (hfeed.1 hmem)⟩
  · intro hbs
    exact ⟨fun hmem => hbs.noReturn (hreturn.2 hmem), fun hmem => hbs.noFeed (hfeed.2 hmem)⟩

/-- A code point below 128 is decoded from the byte of its number, and only from it. -/
theorem mem_decodeReplacing_iff {bs : Bytes} {b : UInt8} (hb : b.toNat < 0x80) :
    CodePoint.ofNat b.toNat ∈ decodeReplacing bs ↔ b ∈ bs := by
  have hval : (CodePoint.ofNat b.toNat).val = b.toNat := CodePoint.val_ofNat (by omega)
  have hbytes : b ∈ bs ↔ ∃ chunk ∈ chunks bs, b ∈ chunk.bytes := by
    rw [← List.mem_flatMap, flatMap_bytes_chunks]
  rw [hbytes, decodeReplacing, List.mem_map]
  constructor
  · rintro ⟨chunk, hchunk, hc⟩
    refine ⟨chunk, hchunk, ?_⟩
    cases chunk with
    | scalar c =>
      obtain rfl : c = CodePoint.ofNat b.toNat := hc
      rw [Chunk.bytes, octets_of_lt (by omega), hval, UInt8.ofNat_toNat]
      exact List.mem_singleton_self b
    | broken run flaw =>
      have hreplaced : (CodePoint.ofNat 0xFFFD).val = b.toNat :=
        (congrArg CodePoint.val hc).trans hval
      rw [CodePoint.val_ofNat (by decide)] at hreplaced
      omega
  · rintro ⟨chunk, hchunk, hmem⟩
    refine ⟨chunk, hchunk, ?_⟩
    have hsound := sound_of_mem_chunks hchunk
    cases chunk with
    | scalar c =>
      have hwritten : written? c = some (octets c) := by
        have hscalar : c.isSurrogate = false := hsound
        simp [written?, hscalar]
      exact (eq_of_mem_written? hwritten hmem hb).1
    | broken run flaw =>
      -- a run that is no code point has no byte below 128
      have := hsound b hmem
      omega

theorem oneLine_decodeReplacing_iff {bs : Bytes} :
    (decodeReplacing bs).OneLine ↔ Unbroken bs := by
  have hreturn := @mem_decodeReplacing_iff bs 0x0D (by decide)
  have hfeed := @mem_decodeReplacing_iff bs 0x0A (by decide)
  constructor
  · intro ht
    exact ⟨fun hmem => ht.noReturn (hreturn.2 hmem), fun hmem => ht.noFeed (hfeed.2 hmem)⟩
  · intro hbs
    exact ⟨fun hmem => hbs.noReturn (hreturn.1 hmem), fun hmem => hbs.noFeed (hfeed.1 hmem)⟩

end Utf8

end StaticHttp
