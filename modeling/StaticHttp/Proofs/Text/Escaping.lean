import StaticHttp.Proofs.Text.Written

/-!
# No byte is lost in a text

However malformed some bytes are, the text that they are read into is written as the same bytes:
the chunks cover the bytes, a code point that was read from several octets is written with the
same octets, and the bytes of a run that is no code point are all above 127, so that each of them
has a surrogate that stands for it.

    (chunks bs).flatMap Chunk.bytes = bs                          (flatMap_bytes_chunks)
    encodeEscaping (decodeEscaping bs) = .ok bs                   (encodeEscaping_decodeEscaping)
-/

namespace StaticHttp.Utf8

/-! ## Code points read in part -/

/-- What one counts for in front of a number of octets, each of which holds six bits. -/
def weight : Nat → Nat
  | 0 => 1
  | k + 1 => 0x40 * weight k

theorem weight_one : weight 1 = 0x40 := rfl

theorem weight_two : weight 2 = 0x1000 := rfl

theorem weight_three : weight 3 = 0x40000 := rfl

/-- The last octets of a number, as many as are asked for. -/
def continuation : Nat → Nat → Bytes
  | 0, _ => []
  | k + 1, n => UInt8.ofNat (0x80 + n / weight k % 0x40) :: continuation k n

/-- What has been read in part can only become a code point whose octets begin with those that
have been read: `octets_eq` is about every number that the missing octets can still make of the
bits. -/
structure Partial.Sound (p : Partial) : Prop where
  high : ∀ b ∈ p.seen, 0x80 ≤ b.toNat
  missing_pos : 0 < p.missing
  missing_le : p.missing ≤ 3
  le_lo : 0x80 ≤ p.lo
  hi_le : p.hi ≤ 0xBF
  octets_eq : ∀ n, n / weight p.missing = p.bits →
    p.lo ≤ 0x80 + n / weight (p.missing - 1) % 0x40 →
    0x80 + n / weight (p.missing - 1) % 0x40 ≤ p.hi →
    n < 0x110000 ∧ (n < 0xD800 ∨ 0xE000 ≤ n) ∧
      octets (CodePoint.ofNat n) = p.seen.reverse ++ continuation p.missing n

/-- A chunk that can be written again: a code point that is no surrogate, or bytes above 127. -/
def Chunk.Sound : Chunk → Prop
  | .scalar c => c.isSurrogate = false
  | .broken run _ => ∀ b ∈ run, 0x80 ≤ b.toNat

theorem ofNat_eq {b : UInt8} {n : Nat} (h : n = b.toNat) : UInt8.ofNat n = b := by
  rw [h, UInt8.ofNat_toNat]

theorem isSurrogate_ofNat {n : Nat} (h : n < 0xD800) : (CodePoint.ofNat n).isSurrogate = false := by
  rw [Bool.eq_false_iff, Ne, CodePoint.isSurrogate_iff, CodePoint.val_ofNat (by omega)]
  omega

/-- The octets of a code point of two octets. -/
theorem octets_two {n : Nat} (hlo : 0x80 ≤ n) (hhi : n < 0x800) :
    octets (CodePoint.ofNat n) = UInt8.ofNat (0xC0 + n / 0x40) :: continuation 1 n := by
  have hval : (CodePoint.ofNat n).val = n := CodePoint.val_ofNat (by omega)
  simp only [octets, hval, continuation, weight, Nat.div_one]
  rw [if_neg (by omega), if_pos hhi]

/-- The octets of a code point of three octets. -/
theorem octets_three {n : Nat} (hlo : 0x800 ≤ n) (hhi : n < 0x10000) :
    octets (CodePoint.ofNat n) = UInt8.ofNat (0xE0 + n / 0x1000) :: continuation 2 n := by
  have hval : (CodePoint.ofNat n).val = n := CodePoint.val_ofNat (by omega)
  simp only [octets, hval, continuation, weight, Nat.div_one, Nat.reduceMul]
  rw [if_neg (by omega), if_neg (by omega), if_pos hhi]

/-- The octets of a code point of four octets. -/
theorem octets_four {n : Nat} (hlo : 0x10000 ≤ n) (hhi : n < 0x110000) :
    octets (CodePoint.ofNat n) = UInt8.ofNat (0xF0 + n / 0x40000) :: continuation 3 n := by
  have hval : (CodePoint.ofNat n).val = n := CodePoint.val_ofNat hhi
  simp only [octets, hval, continuation, weight, Nat.div_one, Nat.reduceMul]
  rw [if_neg (by omega), if_neg (by omega), if_neg (by omega)]

/-- What the first octet says is sound. -/
theorem start_sound (b : UInt8) :
    match start b with
    | .inl chunk => chunk.Sound ∧ chunk.bytes = [b]
    | .inr p => p.Sound ∧ p.seen = [b] := by
  have hb := b.toNat_lt
  have hseen (h : 0x80 ≤ b.toNat) : ∀ a ∈ [b], 0x80 ≤ a.toNat := by
    intro a ha
    rw [List.mem_singleton] at ha
    rwa [ha]
  unfold start
  by_cases h₁ : b.toNat < 0x80
  · rw [if_pos h₁]
    have hval : (CodePoint.ofNat b.toNat).val = b.toNat := CodePoint.val_ofNat (by omega)
    refine ⟨isSurrogate_ofNat (by omega), ?_⟩
    rw [Chunk.bytes, octets_of_lt (by omega), hval, UInt8.ofNat_toNat]
  rw [if_neg h₁]
  by_cases h₂ : b.toNat < 0xC2
  · rw [if_pos h₂]
    exact ⟨hseen (by omega), rfl⟩
  rw [if_neg h₂]
  by_cases h₃ : b.toNat < 0xE0
  · rw [if_pos h₃]
    refine ⟨⟨hseen (by omega), by simp, by simp, by simp, by simp, ?_⟩, rfl⟩
    intro n hn _ _
    simp only [weight_one] at hn
    refine ⟨by omega, by omega, ?_⟩
    rw [octets_two (by omega) (by omega), ofNat_eq (b := b) (by omega)]
    rfl
  rw [if_neg h₃]
  by_cases h₄ : b.toNat < 0xF0
  · rw [if_pos h₄]
    refine ⟨⟨hseen (by omega), by simp, by simp, ?_, ?_, ?_⟩, rfl⟩
    · show 0x80 ≤ if b.toNat = 0xE0 then 0xA0 else 0x80
      split <;> omega
    · show (if b.toNat = 0xED then 0x9F else 0xBF) ≤ 0xBF
      split <;> omega
    -- the range of the second octet keeps longer forms and surrogates out
    · intro n hn hlo hhi
      simp only [weight_one, weight_two, Nat.add_one_sub_one] at hn hlo hhi
      refine ⟨by omega, by split at hlo <;> split at hhi <;> omega, ?_⟩
      rw [octets_three (by split at hlo <;> omega) (by omega), ofNat_eq (b := b) (by omega)]
      rfl
  rw [if_neg h₄]
  by_cases h₅ : b.toNat < 0xF5
  · rw [if_pos h₅]
    refine ⟨⟨hseen (by omega), by simp, by simp, ?_, ?_, ?_⟩, rfl⟩
    · show 0x80 ≤ if b.toNat = 0xF0 then 0x90 else 0x80
      split <;> omega
    · show (if b.toNat = 0xF4 then 0x8F else 0xBF) ≤ 0xBF
      split <;> omega
    -- the range of the second octet keeps longer forms and numbers beyond the last one out
    · intro n hn hlo hhi
      simp only [weight_two, weight_three, Nat.add_one_sub_one] at hn hlo hhi
      have hmin : 0x10000 ≤ n := by split at hlo <;> omega
      have hmax : n < 0x110000 := by split at hhi <;> omega
      refine ⟨hmax, by omega, ?_⟩
      rw [octets_four hmin hmax, ofNat_eq (b := b) (by omega)]
      rfl
  · rw [if_neg h₅]
    exact ⟨hseen (by omega), rfl⟩

/-- What one octet more says is sound. -/
theorem Partial.Sound.extend? {p : Partial} (hp : p.Sound) (b : UInt8) :
    match p.extend? b with
    | none => True
    | some (.inl chunk) => chunk.Sound ∧ chunk.bytes = p.seen.reverse ++ [b]
    | some (.inr q) => q.Sound ∧ q.seen = b :: p.seen := by
  obtain ⟨seen, bits, missing, lo, hi⟩ := p
  obtain ⟨hseen, hpos, hle, hlo, hhi, hoctets⟩ := hp
  simp only at hseen hpos hle hlo hhi hoctets
  unfold Partial.extend?
  by_cases hr : lo ≤ b.toNat ∧ b.toNat ≤ hi
  · simp only [hr, true_and, if_true]
    have hcons : ∀ a ∈ b :: seen, 0x80 ≤ a.toNat := by
      intro a ha
      rcases List.mem_cons.1 ha with rfl | ha
      · omega
      · exact hseen a ha
    obtain rfl | rfl | rfl : missing = 1 ∨ missing = 2 ∨ missing = 3 := by omega
    · simp only [Nat.le_refl, if_true]
      simp only [weight, Nat.mul_one, Nat.sub_self, Nat.div_one] at hoctets
      obtain ⟨hmax, hs, h⟩ :=
        hoctets (bits * 0x40 + b.toNat % 0x40) (by omega) (by omega) (by omega)
      refine ⟨?_, ?_⟩
      · show (CodePoint.ofNat _).isSurrogate = false
        rw [Bool.eq_false_iff, Ne, CodePoint.isSurrogate_iff, CodePoint.val_ofNat hmax]
        omega
      · show octets _ = _
        rw [h, continuation, continuation, weight, Nat.div_one, ofNat_eq (b := b) (by omega)]
    · refine ⟨⟨hcons, by simp, by simp, by simp, by simp, ?_⟩, rfl⟩
      intro n hn _ _
      simp only [Nat.add_one_sub_one, weight_one, weight_two] at hn hoctets
      obtain ⟨hmax, hs, h⟩ := hoctets n (by omega) (by omega) (by omega)
      refine ⟨hmax, hs, ?_⟩
      rw [h, continuation, weight_one, ofNat_eq (b := b) (by omega), List.reverse_cons,
        List.append_assoc]
      rfl
    · refine ⟨⟨hcons, by simp, by simp, by simp, by simp, ?_⟩, rfl⟩
      intro n hn _ _
      simp only [Nat.add_one_sub_one, weight_two, weight_three] at hn hoctets
      obtain ⟨hmax, hs, h⟩ := hoctets n (by omega) (by omega) (by omega)
      refine ⟨hmax, hs, ?_⟩
      rw [h, continuation, weight_two, ofNat_eq (b := b) (by omega), List.reverse_cons,
        List.append_assoc]
      rfl
  · simp only [hr, if_false]

/-! ## Chunks -/

/-- The octets that have been read of a code point, if one has been begun. -/
def pending : Option Partial → Bytes
  | none => []
  | some p => p.seen.reverse

/-- The chunks are sound and cover the bytes, those of a code point that has been begun
included. -/
theorem chunksFrom_sound (bs : Bytes) (begun : Option Partial) (h : ∀ p ∈ begun, p.Sound) :
    (∀ chunk ∈ chunksFrom begun bs, chunk.Sound) ∧
      (chunksFrom begun bs).flatMap Chunk.bytes = pending begun ++ bs := by
  induction bs generalizing begun with
  | nil =>
    cases begun with
    | none => exact ⟨by simp [chunksFrom], rfl⟩
    | some p =>
      have hp := h p rfl
      refine ⟨?_, by simp [chunksFrom, Chunk.bytes, pending]⟩
      intro chunk hchunk
      rw [chunksFrom, List.mem_singleton] at hchunk
      subst hchunk
      intro a ha
      exact hp.high a (List.mem_reverse.1 ha)
  | cons b rest ih =>
    -- what a first octet begins, and the chunks of the rest behind it
    have hstart : (∀ chunk ∈ chunksFrom none (b :: rest), chunk.Sound) ∧
        (chunksFrom none (b :: rest)).flatMap Chunk.bytes = b :: rest := by
      have hb := start_sound b
      rw [chunksFrom]
      split
      · next chunk hc =>
        rw [hc] at hb
        obtain ⟨hall, hbytes⟩ := ih none (by simp)
        refine ⟨List.forall_mem_cons.2 ⟨hb.1, hall⟩, ?_⟩
        rw [List.flatMap_cons, hb.2, hbytes]
        rfl
      · next p hc =>
        rw [hc] at hb
        obtain ⟨hall, hbytes⟩ := ih (some p) (by simpa using hb.1)
        refine ⟨hall, ?_⟩
        rw [hbytes, pending, hb.2]
        rfl
    cases begun with
    | none => exact hstart
    | some p =>
      have hp := h p rfl
      have hb := hp.extend? b
      rw [chunksFrom]
      split
      · next chunk hc =>
        rw [hc] at hb
        obtain ⟨hall, hbytes⟩ := ih none (by simp)
        refine ⟨List.forall_mem_cons.2 ⟨hb.1, hall⟩, ?_⟩
        rw [List.flatMap_cons, hb.2, hbytes, pending, pending, List.nil_append, List.append_assoc]
        rfl
      · next q hc =>
        rw [hc] at hb
        obtain ⟨hall, hbytes⟩ := ih (some q) (by simpa using hb.1)
        refine ⟨hall, ?_⟩
        rw [hbytes, pending, pending, hb.2, List.reverse_cons, List.append_assoc]
        rfl
      · -- the octet cannot follow: what was begun is broken, and the octet begins anew
        rw [chunksFrom] at hstart
        refine ⟨List.forall_mem_cons.2 ⟨?_, hstart.1⟩, ?_⟩
        · intro a ha
          exact hp.high a (List.mem_reverse.1 ha)
        · rw [List.flatMap_cons, hstart.2]
          rfl

theorem sound_of_mem_chunks {bs : Bytes} {chunk : Chunk} (h : chunk ∈ chunks bs) : chunk.Sound :=
  (chunksFrom_sound bs none (by simp)).1 chunk h

/-- Nothing is lost and nothing added when bytes are read. -/
theorem flatMap_bytes_chunks (bs : Bytes) : (chunks bs).flatMap Chunk.bytes = bs :=
  (chunksFrom_sound bs none (by simp)).2

/-! ## Reading and writing -/

theorem written_escape {run : Bytes} (h : ∀ b ∈ run, 0x80 ≤ b.toNat) :
    Written (run.map CodePoint.escape) run := by
  induction run with
  | nil => exact .nil
  | cons b run ih =>
    rw [List.forall_mem_cons] at h
    exact .cons (written?_escape h.1) (ih h.2)

/-- What is read with escapes is written as the bytes that it was read from. -/
theorem written_decodeEscaping (bs : Bytes) : Written (decodeEscaping bs) bs := by
  have key : ∀ cs : List Chunk, (∀ chunk ∈ cs, chunk.Sound) →
      Written (cs.flatMap fun
        | .scalar c => [c]
        | .broken run _ => run.map CodePoint.escape) (cs.flatMap Chunk.bytes) := by
    intro cs hcs
    induction cs with
    | nil => exact .nil
    | cons chunk cs ih =>
      rw [List.forall_mem_cons] at hcs
      rw [List.flatMap_cons, List.flatMap_cons]
      refine Written.append ?_ (ih hcs.2)
      cases chunk with
      | scalar c =>
        have hc : written? c = some (octets c) := by
          have : c.isSurrogate = false := hcs.1
          simp [written?, this]
        have := Written.cons hc .nil
        rwa [List.append_nil] at this
      | broken run flaw => exact written_escape hcs.1
  have := key (chunks bs) (fun _ h => sound_of_mem_chunks h)
  rwa [flatMap_bytes_chunks] at this

theorem encodeEscaping_decodeEscaping (bs : Bytes) :
    encodeEscaping (decodeEscaping bs) = .ok bs :=
  (encodeEscaping_eq_ok_iff _ _).2 (written_decodeEscaping bs)

end StaticHttp.Utf8
