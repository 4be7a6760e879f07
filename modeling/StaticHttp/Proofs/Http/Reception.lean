import StaticHttp.Proofs.Http.Search
import StaticHttp.Proofs.Outcome

/-!
# The head of a request, however it arrives

What a connection delivers before its first end is its stream.  Receives of a positive size take
the stream bit by bit, and how it is cut up, by the deliveries or by the size, makes no difference
to the head that is read: it is what stands in the stream in front of the first blank line.  Without
a blank line the reading fails, with the failure that ends the stream or because the end has come.

    Run.outcome (readHead size) x = headOf x.connection.supply x.connection.ending
                                                                            (outcome_readHead)
-/

namespace StaticHttp

/-- The bytes that are delivered before the first failure or empty delivery. -/
def Delivery.stream : List Delivery → Bytes
  | .bytes (b :: bs) :: rest => b :: bs ++ stream rest
  | _ => []

/-- The failure that ends a stream, if one does. -/
def Delivery.ending : List Delivery → Option Failure
  | .bytes (_ :: _) :: rest => ending rest
  | .failure f :: _ => some f
  | _ => none

namespace Connection

/-- The bytes that can be received before the end or a failure. -/
def stream (c : Connection) : Bytes := Delivery.stream c.incoming

/-- The bytes that receives bring: those of the stream, or none where every receive fails. -/
def supply (c : Connection) : Bytes :=
  match c.receiveFails with
  | some _ => []
  | none => c.stream

/-- The failure that ends the supply, if one does. -/
def ending (c : Connection) : Option Failure := c.receiveFails.or (Delivery.ending c.incoming)

/-- A size by which at least one byte can be received. -/
def Positive (size : Value) : Prop := ∃ n, limit size = .ok n ∧ 0 < n

/-- Deliveries of bytes, none of them empty, are a stream of those bytes. -/
theorem stream_map_bytes {chunks : List Bytes} (h : [] ∉ chunks) :
    Delivery.stream (chunks.map .bytes) = chunks.flatten := by
  induction chunks with
  | nil => rfl
  | cons chunk chunks ih =>
    rw [List.mem_cons, not_or] at h
    cases chunk with
    | nil => exact absurd rfl h.1
    | cons b bs =>
      rw [List.map_cons, Delivery.stream, ih h.2]
      rfl

theorem stream_remaining (bs : Bytes) (rest : List Delivery) :
    Delivery.stream (remaining bs rest) = bs ++ Delivery.stream rest := by
  cases bs <;> rfl

theorem ending_remaining (bs : Bytes) (rest : List Delivery) :
    Delivery.ending (remaining bs rest) = Delivery.ending rest := by
  cases bs <;> rfl

theorem supply_of_none {c : Connection} (h : c.receiveFails = none) : c.supply = c.stream := by
  rw [supply, h]

theorem ending_of_none {c : Connection} (h : c.receiveFails = none) :
    c.ending = Delivery.ending c.incoming := by
  rw [ending, h, Option.none_or]

theorem Positive.compareInt? {size : Value} (h : Positive size) :
    size.compareInt? 0 = some (some .gt) := by
  obtain ⟨n, hn, hpos⟩ := h
  cases size with
  | int m =>
    cases hn
    have hm : 0 < m := by omega
    simp [Value.compareInt?, Int.compare_eq_gt.2 hm]
  | bool b =>
    cases b with
    | true => rfl
    | false =>
      cases hn
      exact absurd hpos (Nat.lt_irrefl 0)
  | _ => cases hn

/-- When nothing more is supplied, a receive of a positive size meets what ends the supply. -/
theorem take_of_supply_eq_nil {c : Connection} {size : Value} (hsize : Positive size)
    (hend : c.supply = []) : (c.take size).1 = c.ending.elim (.ok []) .error := by
  obtain ⟨n, hn, _⟩ := id hsize
  cases hfails : c.receiveFails with
  | some f => simp only [take, ending, hfails, Option.some_or, Option.elim]
  | none =>
    rw [supply_of_none hfails, stream] at hend
    rw [ending_of_none hfails]
    simp only [take, hfails, hsize.compareInt?]
    match hin : c.incoming with
    | [] => rfl
    | .failure f :: rest => rfl
    | .bytes [] :: rest =>
      simp only [hn, List.take_nil]
      rfl
    | .bytes (b :: bs) :: rest =>
      rw [hin] at hend
      cases hend

/-- As long as there is a supply, a receive of a positive size takes bytes off its front. -/
theorem take_of_supply {c : Connection} {size : Value} (hsize : Positive size)
    (hne : c.supply ≠ []) :
    ∃ chunk c', chunk ≠ [] ∧ c.take size = (.ok chunk, c') ∧ c.supply = chunk ++ c'.supply ∧
      c'.ending = c.ending := by
  obtain ⟨n, hn, hpos⟩ := id hsize
  cases hfails : c.receiveFails with
  | some f => exact absurd (by rw [supply, hfails]) hne
  | none =>
    rw [supply_of_none hfails, stream] at hne ⊢
    rw [ending_of_none hfails]
    simp only [take, hfails, hsize.compareInt?]
    match hin : c.incoming with
    | [] => rw [hin] at hne; exact absurd rfl hne
    | .failure f :: rest => rw [hin] at hne; exact absurd rfl hne
    | .bytes [] :: rest => rw [hin] at hne; exact absurd rfl hne
    | .bytes (b :: bs) :: rest =>
      simp only [hn]
      have hrest : ({ c with incoming := remaining ((b :: bs).drop n) rest } :
          Connection).receiveFails = none := hfails
      refine ⟨(b :: bs).take n, { c with incoming := remaining ((b :: bs).drop n) rest }, ?_, ?_,
        ?_, ?_⟩
      · rw [Ne, List.take_eq_nil_iff]
        rintro (h | h)
        · omega
        · cases h
      · simp only [hfails]
      · rw [supply_of_none hrest, stream, stream_remaining, ← List.append_assoc,
          List.take_append_drop]
        rfl
      · rw [ending_of_none hrest, ending_remaining]
        rfl

/-- A receive changes nothing about a connection but what is still to come. -/
theorem take_connection (c : Connection) (size : Value) :
    ∃ rest, (c.take size).2 = { c with incoming := rest } := by
  unfold take
  split
  · exact ⟨_, rfl⟩
  split
  · exact ⟨_, rfl⟩
  · exact ⟨_, rfl⟩
  split
  · exact ⟨_, rfl⟩
  · exact ⟨_, rfl⟩
  split
  · exact ⟨_, rfl⟩
  · exact ⟨_, rfl⟩

end Connection

/-! ## Receiving -/

/-- Some receives have been made, and nothing else has happened. -/
structure Exchange.Receives (size : Value) (count : Nat) (x x' : Exchange) : Prop where
  connection : ∃ rest, x'.connection = { x.connection with incoming := rest }
  history : x'.history.toList = x.history.toList ++
    List.replicate count (.connection x.connection.number (.receive size))

namespace Exchange

theorem Receives.trans {size : Value} {m n : Nat} {x y z : Exchange} (hxy : Receives size m x y)
    (hyz : Receives size n y z) : Receives size (m + n) x z := by
  obtain ⟨⟨rest, hc⟩, hh⟩ := hxy
  obtain ⟨⟨rest', hc'⟩, hh'⟩ := hyz
  refine ⟨⟨rest', by rw [hc', hc]⟩, ?_⟩
  rw [hh', hh, hc, List.append_assoc, List.replicate_append_replicate]

theorem receives_take (x : Exchange) (size : Value) : Receives size 1 x (x.take size).2 :=
  ⟨Connection.take_connection x.connection size, toList_record x _⟩

/-- When nothing more is supplied, a receive of a positive size meets what ends the supply. -/
theorem take_of_supply_eq_nil {x : Exchange} {size : Value} (hsize : Connection.Positive size)
    (hend : x.connection.supply = []) :
    (x.take size).1 = x.connection.ending.elim (.ok []) .error :=
  Connection.take_of_supply_eq_nil hsize hend

/-- As long as there is a supply, a receive of a positive size takes bytes off its front. -/
theorem take_of_supply {x : Exchange} {size : Value} (hsize : Connection.Positive size)
    (hne : x.connection.supply ≠ []) :
    ∃ chunk x', chunk ≠ [] ∧ x.take size = (.ok chunk, x') ∧
      x.connection.supply = chunk ++ x'.connection.supply ∧
      x'.connection.ending = x.connection.ending := by
  obtain ⟨chunk, c', hchunk, htake, hsupply, hending⟩ := Connection.take_of_supply hsize hne
  refine ⟨chunk, { x.record (.receive size) with connection := c' }, hchunk, ?_, hsupply, hending⟩
  rw [take, htake]

end Exchange

namespace Request

open Exchange

/-! ### One receive -/

section

variable {size : Value} {seen chunk : Bytes} {x x' : Exchange}

theorem readFrom_of_error {f : Failure} (h : x.take size = (.error f, x')) :
    readFrom size seen x = .error f x' := by
  rw [readFrom]
  split
  · next heq =>
    rw [h] at heq
    cases heq
    rfl
  · next heq =>
    rw [h] at heq
    cases heq

theorem readFrom_of_end (h : x.take size = (.ok [], x')) :
    readFrom size seen x = .error (.incomplete seen.length) x' := by
  rw [readFrom]
  split
  · next heq =>
    rw [h] at heq
    cases heq
  · next heq =>
    rw [h] at heq
    cases heq
    rfl

theorem readFrom_of_found {n : Nat} (h : x.take size = (.ok chunk, x')) (hne : chunk ≠ [])
    (hn : indexOf? blankLine (window seen chunk) = some n) :
    readFrom size seen x =
      .ok ((seen.drop overlap).reverse ++ (window seen chunk).take n) x' := by
  rw [readFrom]
  split
  · next heq =>
    rw [h] at heq
    cases heq
  · next heq =>
    rw [h] at heq
    cases heq
    rw [dif_neg hne, hn]

theorem readFrom_of_more (h : x.take size = (.ok chunk, x')) (hne : chunk ≠ [])
    (hn : indexOf? blankLine (window seen chunk) = none) :
    readFrom size seen x = readFrom size (chunk.reverse ++ seen) x' := by
  rw [readFrom]
  split
  · next heq =>
    rw [h] at heq
    cases heq
  · next heq =>
    rw [h] at heq
    cases heq
    rw [dif_neg hne, hn]

end

/-! ### All receives -/

/-- Whatever comes of reading a head, it is read by receiving, at least once. -/
theorem readFrom_receives (size : Value) (seen : Bytes) (x : Exchange) :
    ∃ n, Receives size (n + 1) x (Run.after (readFrom size seen) x) := by
  have hx := receives_take x size
  rcases htake : x.take size with ⟨result, x'⟩
  rw [htake] at hx
  cases result with
  | error f =>
    rw [Run.after_of_error (readFrom_of_error htake)]
    exact ⟨0, hx⟩
  | ok chunk =>
    by_cases hne : chunk = []
    · subst hne
      rw [Run.after_of_error (readFrom_of_end htake)]
      exact ⟨0, hx⟩
    cases hw : indexOf? blankLine (window seen chunk) with
    | some n =>
      rw [Run.after_of_ok (readFrom_of_found htake hne hw)]
      exact ⟨0, hx⟩
    | none =>
      have hlt := weight_take htake hne
      obtain ⟨n, hn⟩ := readFrom_receives size (chunk.reverse ++ seen) x'
      refine ⟨n + 1, ?_⟩
      have := hx.trans hn
      rw [Nat.add_comm 1 (n + 1)] at this
      rwa [Run.after_congr (readFrom_of_more htake hne hw)]
termination_by x.connection.weight

theorem readHead_receives (size : Value) (x : Exchange) :
    ∃ n, Receives size (n + 1) x (Run.after (readHead size) x) :=
  readFrom_receives size [] x

/-- What reading a head comes to when the given bytes are supplied and the given failure ends them,
if one does. -/
def headOf (supply : Bytes) (ending : Option Failure) : Except Failure Bytes :=
  match indexOf? blankLine supply with
  | some n => .ok (supply.take n)
  | none => .error (ending.getD (.incomplete supply.length))

/-- A blank line that has come in is the first one of the whole supply. -/
theorem headOf_append {received : Bytes} {n : Nat} (hn : indexOf? blankLine received = some n)
    (more : Bytes) (ending : Option Failure) :
    headOf (received ++ more) ending = .ok (received.take n) := by
  have hend := add_length_le_of_prefix_drop blankLine_ne_nil
    ((indexOf?_eq_some_iff _ _ _).1 hn).1
  rw [headOf, indexOf?_append blankLine_ne_nil hn]
  simp only
  rw [List.take_append_of_le_length (by omega)]

/-- What has been seen and what is still supplied decide what is read, as long as no blank line has
been seen. -/
theorem outcome_readFrom {size : Value} (hsize : Connection.Positive size) (seen : Bytes)
    (x : Exchange) (hseen : indexOf? blankLine seen.reverse = none) :
    Run.outcome (readFrom size seen) x =
      headOf (seen.reverse ++ x.connection.supply) x.connection.ending := by
  by_cases hend : x.connection.supply = []
  · have htake := take_of_supply_eq_nil hsize hend
    rw [hend, List.append_nil, headOf, hseen]
    rcases hx : x.take size with ⟨result, x'⟩
    rw [hx] at htake
    cases hf : x.connection.ending with
    | some f =>
      rw [hf] at htake
      obtain rfl : result = .error f := htake
      exact Run.outcome_of_error (readFrom_of_error hx)
    | none =>
      rw [hf] at htake
      obtain rfl : result = .ok [] := htake
      rw [List.length_reverse]
      exact Run.outcome_of_error (readFrom_of_end hx)
  · obtain ⟨chunk, x', hchunk, htake, hsupply, hending⟩ := take_of_supply hsize hend
    rw [hsupply, ← List.append_assoc, ← hending]
    have hk := indexOf?_window hseen chunk
    cases hw : indexOf? blankLine (window seen chunk) with
    | some k =>
      rw [hw, Option.map_some] at hk
      rw [headOf_append hk, Run.outcome_of_ok (readFrom_of_found htake hchunk hw),
        append_take_window, Nat.add_comm]
    | none =>
      rw [hw, Option.map_none] at hk
      have hlt := weight_take htake hchunk
      have hseen' : (chunk.reverse ++ seen).reverse = seen.reverse ++ chunk := by
        rw [List.reverse_append, List.reverse_reverse]
      rw [← hseen'] at hk ⊢
      rw [Run.outcome_congr (readFrom_of_more htake hchunk hw)]
      exact outcome_readFrom hsize (chunk.reverse ++ seen) x' hk
termination_by x.connection.weight

theorem outcome_readHead {size : Value} (hsize : Connection.Positive size) (x : Exchange) :
    Run.outcome (readHead size) x = headOf x.connection.supply x.connection.ending :=
  outcome_readFrom hsize [] x (by decide)

/-- From a stream with a blank line in it the head is read that stands in front of the first one. -/
theorem readHead_of_stream {size : Value} (hsize : Connection.Positive size) {x : Exchange}
    {n : Nat} (hfails : x.connection.receiveFails = none)
    (hn : indexOf? blankLine x.connection.stream = some n) :
    ∃ k x', readHead size x = .ok (x.connection.stream.take n) x' ∧
      Receives size (k + 1) x x' := by
  have houtcome := outcome_readHead hsize x
  rw [Connection.supply_of_none hfails, headOf, hn] at houtcome
  obtain ⟨k, hk⟩ := readHead_receives size x
  exact ⟨k, Run.after (readHead size) x, Run.eq_ok_of_outcome houtcome, hk⟩

/-- When a chunk comes in behind what has been seen, the search that goes on finds what a search of
everything finds. -/
structure Resumes (supply seen chunk : Bytes) : Prop where
  /-- The window shows what a search in all that was received meets from there on. -/
  window_eq : (indexOf? blankLine (window seen chunk)).map (· + resumeAt seen.length) =
    indexFrom? blankLine (seen.reverse ++ chunk) (resumeAt seen.length)
  found : ∀ n, indexFrom? blankLine (seen.reverse ++ chunk) (resumeAt seen.length) = some n →
    indexOf? blankLine supply = some n
  missed : indexFrom? blankLine (seen.reverse ++ chunk) (resumeAt seen.length) = none →
    ∀ n, ¬ blankLine <+: (seen.reverse ++ chunk).drop n

theorem resumes_of_not_seen {seen : Bytes} (hseen : ∀ n, ¬ blankLine <+: seen.reverse.drop n)
    (chunk more : Bytes) : Resumes (seen.reverse ++ chunk ++ more) seen chunk := by
  rw [← indexOf?_eq_none_iff] at hseen
  have hwindow := indexOf?_window hseen chunk
  have hresumed : indexFrom? blankLine (seen.reverse ++ chunk) (resumeAt seen.length) =
      indexOf? blankLine (seen.reverse ++ chunk) := by
    rw [indexFrom?_resumeAt, hwindow]
  refine ⟨(indexFrom?_resumeAt seen chunk).symm, ?_, ?_⟩
  · intro n hn
    rw [hresumed] at hn
    exact indexOf?_append blankLine_ne_nil hn more
  · intro hn
    rw [hresumed] at hn
    exact (indexOf?_eq_none_iff _ _).1 hn

/-- **A head is read as it stands in the stream**, whatever the deliveries and the size: it is what
stands in front of the first blank line.  Without one the failure that ends the stream is met, or
the connection is closed after all of its bytes.  To search on where a blank line can begin that
ends in the new bytes is to search from the start. -/
theorem readHead_of_anyCut {size : Value} (hsize : Connection.Positive size) (x : Exchange) :
    (∀ n, blankLine <+: x.connection.supply.drop n →
      (∀ m < n, ¬ blankLine <+: x.connection.supply.drop m) →
      Run.outcome (readHead size) x = .ok (x.connection.supply.take n)) ∧
    ((∀ n, ¬ blankLine <+: x.connection.supply.drop n) →
      Run.outcome (readHead size) x = .error (x.connection.ending.getD
        (.request (some .incomplete) ("connection closed after " ++
          Text.ofNat x.connection.supply.length ++ " bytes")))) ∧
    ∀ seen chunk more : Bytes, seen.reverse ++ chunk ++ more = x.connection.supply →
      (∀ n, ¬ blankLine <+: seen.reverse.drop n) → Resumes x.connection.supply seen chunk := by
  refine ⟨?_, ?_, ?_⟩
  · intro n hat hbefore
    have hn := (indexOf?_eq_some_iff blankLine x.connection.supply n).2 ⟨hat, hbefore⟩
    rw [outcome_readHead hsize, headOf, hn]
  · intro hnone
    have hn := (indexOf?_eq_none_iff blankLine x.connection.supply).2 hnone
    rw [outcome_readHead hsize, headOf, hn]
    rfl
  · intro seen chunk more hsplit hseen
    rw [← hsplit]
    exact resumes_of_not_seen hseen chunk more

/-- A connection on which a blank line comes in three parts, behind the beginnings of another one,
and then a failure. -/
def hesitant : Connection where
  number := 1
  incoming := [.bytes (Bytes.ofAscii "G /\r\n\r"), .bytes (Bytes.ofAscii "\r"),
    .bytes (Bytes.ofAscii "\n\r\nrest"), .failure .badDescriptor]
  setTimeoutFails := none
  receiveFails := none
  sendFails := none
  closeFails := none

theorem readHead_of_anyCut_hesitant :
    Connection.Positive (.int 2) ∧
      Run.outcome (readHead (.int 2)) ⟨.empty, hesitant⟩ = .ok (Bytes.ofAscii "G /\r\n\r") := by
  have hsize : Connection.Positive (.int 2) := ⟨2, rfl, by decide⟩
  exact ⟨hsize, (readHead_of_anyCut hsize ⟨.empty, hesitant⟩).1 6 (by decide) (by decide)⟩

end Request

end StaticHttp
