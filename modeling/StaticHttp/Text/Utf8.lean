import StaticHttp.Text.CodePoint

/-!
# UTF-8, with a way to keep bytes that are not UTF-8

Bytes are read once, by `chunks`, into the code points they encode and the maximal runs
that are no part of a code point.  The three decoders differ in what they do with such a
run: `decode` stops and says where, `decodeReplacing` writes one U+FFFD for it, and
`decodeEscaping` keeps each of its bytes as a surrogate.  `encodeEscaping` undoes the last.

    encodeEscaping (decodeEscaping bs) = .ok bs
    (chunks bs).flatMap Chunk.bytes = bs
-/

namespace StaticHttp.Utf8

/-! ## Encoding -/

/-- The octets of a code point. -/
def octets (c : CodePoint) : Bytes :=
  let n := c.val
  if n < 0x80 then [UInt8.ofNat n]
  else if n < 0x800 then [UInt8.ofNat (0xC0 + n / 0x40), UInt8.ofNat (0x80 + n % 0x40)]
  else if n < 0x10000 then
    [UInt8.ofNat (0xE0 + n / 0x1000), UInt8.ofNat (0x80 + n / 0x40 % 0x40),
      UInt8.ofNat (0x80 + n % 0x40)]
  else
    [UInt8.ofNat (0xF0 + n / 0x40000), UInt8.ofNat (0x80 + n / 0x1000 % 0x40),
      UInt8.ofNat (0x80 + n / 0x40 % 0x40), UInt8.ofNat (0x80 + n % 0x40)]

/-- The bytes that a code point is written as: its octets, or the one byte that a surrogate
stands for.  The other surrogates have none. -/
def written? (c : CodePoint) : Option Bytes :=
  if c.isSurrogate then c.escaped?.map ([·]) else some (octets c)

/-- A run of surrogates that cannot be written: the first of them, and the positions from
its own up to the end of the run. -/
structure EncodeFault where
  first : CodePoint
  start : Nat
  stop : Nat
deriving DecidableEq

/-- The bytes of a text whose first code point is at position `i`. -/
def encodeFrom (i : Nat) : Text → Except EncodeFault Bytes
  | [] => .ok []
  | c :: rest =>
    match written? c with
    | none => .error ⟨c, i, i + 1 + (rest.takeWhile CodePoint.isSurrogate).length⟩
    | some bs =>
      match encodeFrom (i + 1) rest with
      | .ok tail => .ok (bs ++ tail)
      | .error f => .error f

/-- The bytes of a text, each surrogate that stands for a byte being written as that byte. -/
def encodeEscaping (t : Text) : Except EncodeFault Bytes := encodeFrom 0 t

/-! ## Decoding -/

/-- Why a run of bytes is no code point. -/
inductive Flaw
  | badStart
  | badContinuation
  | unfinished
deriving DecidableEq

/-- A code point, or a maximal run of bytes that is part of none. -/
inductive Chunk
  | scalar (c : CodePoint)
  | broken (run : Bytes) (flaw : Flaw)
deriving DecidableEq

/-- A code point whose octets have been read in part: those octets, last first, the bits read
so far, how many octets are missing, and the range in which the next of them must lie. -/
structure Partial where
  seen : Bytes
  bits : Nat
  missing : Nat
  lo : Nat
  hi : Nat
deriving DecidableEq

/-- What the first octet of a code point says: the code point itself, the beginning of a longer
one, or nothing.  The range of the second octet excludes longer forms than needed, surrogates
and numbers beyond the last code point. -/
def start (b : UInt8) : Chunk ⊕ Partial :=
  let n := b.toNat
  if n < 0x80 then .inl (.scalar (CodePoint.ofNat n))
  else if n < 0xC2 then .inl (.broken [b] .badStart)
  else if n < 0xE0 then .inr ⟨[b], n % 0x20, 1, 0x80, 0xBF⟩
  else if n < 0xF0 then
    .inr ⟨[b], n % 0x10, 2, if n = 0xE0 then 0xA0 else 0x80, if n = 0xED then 0x9F else 0xBF⟩
  else if n < 0xF5 then
    .inr ⟨[b], n % 0x08, 3, if n = 0xF0 then 0x90 else 0x80, if n = 0xF4 then 0x8F else 0xBF⟩
  else .inl (.broken [b] .badStart)

/-- One octet more of a code point, if it can be one. -/
def Partial.extend? (p : Partial) (b : UInt8) : Option (Chunk ⊕ Partial) :=
  let n := b.toNat
  if p.lo ≤ n ∧ n ≤ p.hi then
    let bits := p.bits * 0x40 + n % 0x40
    if p.missing ≤ 1 then some (.inl (.scalar (CodePoint.ofNat bits)))
    else some (.inr ⟨b :: p.seen, bits, p.missing - 1, 0x80, 0xBF⟩)
  else none

/-- The chunks of the bytes that follow a code point read in part, or none. -/
def chunksFrom : Option Partial → Bytes → List Chunk
  | none, [] => []
  | some p, [] => [.broken p.seen.reverse .unfinished]
  | none, b :: rest =>
    match start b with
    | .inl chunk => chunk :: chunksFrom none rest
    | .inr p => chunksFrom (some p) rest
  | some p, b :: rest =>
    match p.extend? b with
    | some (.inl chunk) => chunk :: chunksFrom none rest
    | some (.inr q) => chunksFrom (some q) rest
    | none =>
      .broken p.seen.reverse .badContinuation ::
        match start b with
        | .inl chunk => chunk :: chunksFrom none rest
        | .inr q => chunksFrom (some q) rest

/-- The code points of some bytes, and the runs between them that are none. -/
def chunks (bs : Bytes) : List Chunk := chunksFrom none bs

/-- The text of some bytes, every byte outside a code point being kept as a surrogate. -/
def decodeEscaping (bs : Bytes) : Text :=
  (chunks bs).flatMap fun
    | .scalar c => [c]
    | .broken run _ => run.map CodePoint.escape

/-- The text of some bytes, with U+FFFD for each run that is no code point. -/
def decodeReplacing (bs : Bytes) : Text :=
  (chunks bs).map fun
    | .scalar c => c
    | .broken _ _ => CodePoint.ofNat 0xFFFD

/-- The first run that is no code point, and where it begins. -/
structure DecodeFault where
  position : Nat
  run : Bytes
  flaw : Flaw
deriving DecidableEq

/-- The text of the chunks that begin at byte `i`, or the first flaw among them. -/
def decodeFrom (i : Nat) : List Chunk → Except DecodeFault Text
  | [] => .ok []
  | .broken run flaw :: _ => .error ⟨i, run, flaw⟩
  | .scalar c :: rest =>
    match decodeFrom (i + (octets c).length) rest with
    | .ok tail => .ok (c :: tail)
    | .error f => .error f

/-- The text of some bytes, all of which must be UTF-8. -/
def decode (bs : Bytes) : Except DecodeFault Text := decodeFrom 0 (chunks bs)

/-- The bytes that a chunk was read from. -/
def Chunk.bytes : Chunk → Bytes
  | .scalar c => octets c
  | .broken run _ => run

/-! ## Lemmas -/

@[simp] theorem encodeFrom_nil (i : Nat) : encodeFrom i [] = .ok [] := rfl

theorem encodeFrom_cons {i : Nat} {c : CodePoint} {t : Text} {bs : Bytes}
    (h : written? c = some bs) :
    encodeFrom i (c :: t) = (encodeFrom (i + 1) t).map (bs ++ ·) := by
  simp only [encodeFrom, h]
  cases encodeFrom (i + 1) t <;> rfl

@[simp] theorem chunks_nil : chunks [] = [] := rfl

@[simp] theorem decodeEscaping_nil : decodeEscaping [] = [] := rfl

theorem written?_escape {b : UInt8} (h : 0x80 ≤ b.toNat) :
    written? (CodePoint.escape b) = some [b] := by
  simp [written?, CodePoint.isSurrogate_escape, CodePoint.escaped?_escape h]

end StaticHttp.Utf8
