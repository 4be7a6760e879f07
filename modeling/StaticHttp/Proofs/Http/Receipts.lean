import StaticHttp.Proofs.Http.Reception

/-!
# What reading a head takes from a connection

A head is read by receives, each of which brings some bytes, or a failure, and leaves the others
where they are: what was brought and what is left are together what there was.  Every receive but
the last one brings something, so that there are no more of them than there were deliveries and
bytes, and before the last one there was no blank line in what they brought.  So a head that is read
has been followed by its blank line, and by less than what one receive may bring.

    Receipts size x results y → brought results ++ y.connection.unread = x.connection.unread
                                                                           (Receipts.unread_eq)
    Receipts size x (earlier ++ [last]) (after (readHead size) x)          (readHead_spends)
-/

namespace StaticHttp

/-! ## What a receive takes -/

/-- All bytes of some deliveries, those behind failures included. -/
def Delivery.content : List Delivery → Bytes
  | [] => []
  | .bytes bs :: rest => bs ++ content rest
  | .failure _ :: rest => content rest

theorem Delivery.length_content (ds : List Delivery) : (content ds).length = total ds := by
  induction ds with
  | nil => rfl
  | cons d ds ih =>
    cases d with
    | bytes bs =>
      rw [content, List.length_append, ih]
      rfl
    | failure f => rw [content, ih, total, size, Nat.zero_add]

/-- The bytes that a receive brings. -/
def broughtBy : Except Failure Bytes → Bytes
  | .ok bs => bs
  | .error _ => []

/-- The bytes that several receives bring. -/
def brought (results : List (Except Failure Bytes)) : Bytes := results.flatMap broughtBy

theorem brought_append (results results' : List (Except Failure Bytes)) :
    brought (results ++ results') = brought results ++ brought results' :=
  List.flatMap_append

namespace Connection

/-- All bytes that have not been received yet. -/
def unread (c : Connection) : Bytes := Delivery.content c.incoming

theorem length_unread (c : Connection) : c.unread.length = c.pending :=
  Delivery.length_content c.incoming

theorem content_remaining (bs : Bytes) (rest : List Delivery) :
    Delivery.content (remaining bs rest) = bs ++ Delivery.content rest := by
  cases bs <;> rfl

/-- A receive loses no byte: what it brings stood in front of what it leaves. -/
theorem broughtBy_take (c : Connection) (size : Value) :
    broughtBy (c.take size).1 ++ (c.take size).2.unread = c.unread := by
  unfold take
  split
  · rfl
  split
  · rfl
  · rfl
  split
  · rfl
  · next hin =>
    rw [unread, unread, hin]
    rfl
  · next chunk rest hin =>
    split
    · rfl
    · rw [unread, unread, hin, content_remaining, Delivery.content, broughtBy,
        ← List.append_assoc, List.take_append_drop]

/-- A receive brings no more than it asks for. -/
theorem length_broughtBy_take_le (c : Connection) {size : Value} {n : Nat}
    (hn : limit size = .ok n) : (broughtBy (c.take size).1).length ≤ n := by
  unfold take
  split
  · exact Nat.zero_le n
  split
  · exact Nat.zero_le n
  · exact Nat.zero_le n
  split
  · exact Nat.zero_le n
  · exact Nat.zero_le n
  · rw [hn]
    simp only [broughtBy, List.length_take]
    omega

end Connection

/-! ## Receives one after the other -/

namespace Exchange

/-- Receives are made one after the other, and nothing else, with the given results. -/
inductive Receipts (size : Value) : Exchange → List (Except Failure Bytes) → Exchange → Prop
  | nil (x : Exchange) : Receipts size x [] x
  | cons {x y z : Exchange} {result : Except Failure Bytes} {results : List (Except Failure Bytes)} :
      x.take size = (result, y) → Receipts size y results z → Receipts size x (result :: results) z

section

variable {size : Value} {x y : Exchange} {results : List (Except Failure Bytes)}

/-- The receives are all that happens, and they are counted by their results. -/
theorem Receipts.receives (h : Receipts size x results y) : Receives size results.length x y := by
  induction h with
  | nil x =>
    refine ⟨⟨x.connection.incoming, rfl⟩, ?_⟩
    rw [List.length_nil, List.replicate_zero, List.append_nil]
  | @cons x y z result results htake _ ih =>
    have hfirst := receives_take x size
    rw [htake] at hfirst
    rw [List.length_cons, Nat.add_comm]
    exact hfirst.trans ih

/-- No byte is lost: what was brought and what is left are what there was. -/
theorem Receipts.unread_eq (h : Receipts size x results y) :
    brought results ++ y.connection.unread = x.connection.unread := by
  induction h with
  | nil => rfl
  | @cons x y z result results htake _ ih =>
    have hfirst := Connection.broughtBy_take x.connection size
    have hresult : (x.connection.take size).1 = result := congrArg Prod.fst htake
    have hleft : (x.connection.take size).2 = y.connection :=
      congrArg (fun r => r.2.connection) htake
    rw [hresult, hleft] at hfirst
    rw [← hfirst, ← ih, ← List.append_assoc]
    rfl

/-- Receives that bring something each take a delivery or a byte away. -/
theorem Receipts.length_le {chunks : List Bytes} (h : Receipts size x (chunks.map .ok) y)
    (hne : ∀ chunk ∈ chunks, chunk ≠ []) :
    chunks.length + y.connection.weight ≤ x.connection.weight := by
  induction chunks generalizing x with
  | nil =>
    cases h
    rw [List.length_nil, Nat.zero_add]
  | cons chunk chunks ih =>
    rw [List.forall_mem_cons] at hne
    cases h with
    | cons htake hrest =>
      have hlt := weight_take htake hne.1
      have hle := ih hrest hne.2
      rw [List.length_cons]
      omega

/-- Receives can be cut between any two of them. -/
theorem Receipts.of_append {earlier later : List (Except Failure Bytes)}
    (h : Receipts size x (earlier ++ later) y) :
    ∃ z, Receipts size x earlier z ∧ Receipts size z later y := by
  induction earlier generalizing x with
  | nil => exact ⟨x, .nil x, h⟩
  | cons result earlier ih =>
    cases h with
    | cons htake hrest =>
      obtain ⟨z, hz, hlater⟩ := ih hrest
      exact ⟨z, .cons htake hz, hlater⟩

/-- The last receive brings no more than it asks for. -/
theorem Receipts.length_last_le {earlier : List (Except Failure Bytes)}
    {last : Except Failure Bytes} (h : Receipts size x (earlier ++ [last]) y) {n : Nat}
    (hn : Connection.limit size = .ok n) : (broughtBy last).length ≤ n := by
  obtain ⟨z, _, hlast⟩ := h.of_append
  cases hlast with
  | cons htake _ =>
    have hresult : (z.connection.take size).1 = last := congrArg Prod.fst htake
    rw [← hresult]
    exact Connection.length_broughtBy_take_le z.connection hn

end

end Exchange

/-! ## Reading a head -/

namespace Request

open Exchange

/-- How reading a head ends with the result of a receive, by what was brought before: with the
failure of the receive, at the end of what is delivered, or with what stands in front of the first
blank line. -/
inductive EndsWith (before : Bytes) : Except Failure Bytes → Except Failure Bytes → Prop
  | failed {f : Failure} : EndsWith before (.error f) (.error f)
  | closed : EndsWith before (.ok []) (.error (.incomplete before.length))
  | found {chunk : Bytes} {n : Nat} : indexOf? blankLine (before ++ chunk) = some n →
      EndsWith before (.ok chunk) (.ok ((before ++ chunk).take n))

/-- A head is read by receives of which all but the last bring something, and none of these brings
the end of a blank line. -/
structure ReadBy (size : Value) (seen : Bytes) (x : Exchange) (chunks : List Bytes)
    (last : Except Failure Bytes) : Prop where
  receipts : Receipts size x (chunks.map .ok ++ [last]) (Run.after (readFrom size seen) x)
  ne_nil : ∀ chunk ∈ chunks, chunk ≠ []
  indexOf_eq : indexOf? blankLine (seen.reverse ++ chunks.flatten) = none
  endsWith : EndsWith (seen.reverse ++ chunks.flatten) last (Run.outcome (readFrom size seen) x)

/-- The first of its receives is the last. -/
theorem readBy_nil {size : Value} {seen : Bytes} {x y : Exchange} {last : Except Failure Bytes}
    (hseen : indexOf? blankLine seen.reverse = none) (htake : x.take size = (last, y))
    (hafter : Run.after (readFrom size seen) x = y)
    (hend : EndsWith seen.reverse last (Run.outcome (readFrom size seen) x)) :
    ReadBy size seen x [] last := by
  subst hafter
  refine ⟨.cons htake (.nil _), by simp, ?_, ?_⟩
  · rw [List.flatten_nil, List.append_nil]
    exact hseen
  · rw [List.flatten_nil, List.append_nil]
    exact hend

/-- Whatever has been seen, a head is read by receives up to the one that ends it. -/
theorem exists_readBy (size : Value) (seen : Bytes) (x : Exchange)
    (hseen : indexOf? blankLine seen.reverse = none) :
    ∃ chunks last, ReadBy size seen x chunks last := by
  rcases htake : x.take size with ⟨result, y⟩
  cases result with
  | error f =>
    have hread : readFrom size seen x = .error f y := readFrom_of_error htake
    refine ⟨[], .error f, readBy_nil hseen htake (Run.after_of_error hread) ?_⟩
    rw [Run.outcome_of_error hread]
    exact .failed
  | ok chunk =>
    by_cases hne : chunk = []
    · subst hne
      have hread : readFrom size seen x = .error (.incomplete seen.length) y :=
        readFrom_of_end htake
      refine ⟨[], .ok [], readBy_nil hseen htake (Run.after_of_error hread) ?_⟩
      rw [Run.outcome_of_error hread, ← List.length_reverse]
      exact .closed
    have hwindow := indexOf?_window hseen chunk
    cases hw : indexOf? blankLine (window seen chunk) with
    | some n =>
      rw [hw, Option.map_some] at hwindow
      have hread : readFrom size seen x =
          .ok ((seen.drop overlap).reverse ++ (window seen chunk).take n) y :=
        readFrom_of_found htake hne hw
      refine ⟨[], .ok chunk, readBy_nil hseen htake (Run.after_of_ok hread) ?_⟩
      rw [Run.outcome_of_ok hread, append_take_window, Nat.add_comm]
      exact .found hwindow
    | none =>
      rw [hw, Option.map_none] at hwindow
      have hlt := weight_take htake hne
      have hmore : readFrom size seen x = readFrom size (chunk.reverse ++ seen) y :=
        readFrom_of_more htake hne hw
      have hseen' : (chunk.reverse ++ seen).reverse = seen.reverse ++ chunk := by
        rw [List.reverse_append, List.reverse_reverse]
      rw [← hseen'] at hwindow
      obtain ⟨chunks, last, hrest⟩ := exists_readBy size (chunk.reverse ++ seen) y hwindow
      obtain ⟨hreceipts, hchunks, hindex, hend⟩ := hrest
      rw [hseen', List.append_assoc] at hindex hend
      refine ⟨chunk :: chunks, last, ?_, List.forall_mem_cons.2 ⟨hne, hchunks⟩, hindex, ?_⟩
      · rw [Run.after_congr hmore]
        exact .cons htake hreceipts
      · rw [Run.outcome_congr hmore]
        exact hend
termination_by x.connection.weight

theorem brought_map_ok (chunks : List Bytes) : brought (chunks.map .ok) = chunks.flatten := by
  induction chunks with
  | nil => rfl
  | cons chunk chunks ih =>
    rw [List.map_cons, List.flatten_cons, ← ih]
    rfl

/-- A head that is read is followed by its blank line, the end of which came with the last
receive. -/
theorem EndsWith.of_ok {before head : Bytes} {last : Except Failure Bytes}
    (h : EndsWith before last (.ok head)) (hnone : indexOf? blankLine before = none) :
    head ++ blankLine <+: before ++ broughtBy last ∧ before.length < head.length + 4 := by
  cases h with
  | @found chunk n hn =>
    have hat := ((indexOf?_eq_some_iff _ _ _).1 hn).1
    have hend := add_length_le_of_prefix_drop blankLine_ne_nil hat
    have hlength : ((before ++ chunk).take n).length = n := by
      rw [List.length_take]
      omega
    constructor
    · show (before ++ chunk).take n ++ blankLine <+: before ++ chunk
      conv => rhs; rw [← List.take_append_drop n (before ++ chunk)]
      exact (List.prefix_append_right_inj _).2 hat
    · rw [hlength]
      -- otherwise the blank line would have come before
      apply Nat.lt_of_not_le
      intro hle
      exact (indexOf?_eq_none_iff _ _).1 hnone n (prefix_drop_of_append hat hle)

/-- **Reading a head takes no more than it has to.**  It ends after at most one receive more than
there are deliveries and bytes; what its receives brought and what is left are the bytes there were;
and before the last of them there was no blank line.  When a head is read, it and the blank line are
what was brought, with less behind them than one receive may bring. -/
theorem readHead_spends (size : Value) (x : Exchange) :
    ∃ earlier last, Receipts size x (earlier ++ [last]) (Run.after (readHead size) x) ∧
      Exchange.events (readHead size) x =
        List.replicate (earlier.length + 1) (.connection x.connection.number (.receive size)) ∧
      earlier.length + 1 ≤ x.connection.incoming.length + x.connection.unread.length + 1 ∧
      brought (earlier ++ [last]) ++ (Run.after (readHead size) x).connection.unread =
        x.connection.unread ∧
      (∀ n, ¬ blankLine <+: (brought earlier).drop n) ∧
      EndsWith (brought earlier) last (Run.outcome (readHead size) x) ∧
      ∀ head, Run.outcome (readHead size) x = .ok head →
        head ++ blankLine <+: brought (earlier ++ [last]) ∧
        head.length + 4 ≤ (brought (earlier ++ [last])).length ∧
        ∀ n, Connection.limit size = .ok n →
          (brought (earlier ++ [last])).length < head.length + 4 + n := by
  obtain ⟨chunks, last, hreceipts, hchunks, hindex, hend⟩ := exists_readBy size [] x rfl
  have hbrought : [].reverse ++ chunks.flatten = brought (chunks.map .ok) := by
    rw [brought_map_ok]
    rfl
  rw [hbrought] at hindex hend
  obtain ⟨_, hearlier, _⟩ := hreceipts.of_append
  have hcount := hearlier.length_le hchunks
  have hevents := hreceipts.receives.history
  rw [List.length_append, List.length_singleton] at hevents
  refine ⟨chunks.map .ok, last, hreceipts, Exchange.events_eq hevents, ?_, hreceipts.unread_eq,
    (indexOf?_eq_none_iff _ _).1 hindex, hend, ?_⟩
  · rw [List.length_map, Connection.length_unread]
    unfold Connection.weight at hcount
    omega
  · intro head hhead
    have hblank : blankLine.length = 4 := rfl
    have hsplit : brought (chunks.map .ok ++ [last]) =
        brought (chunks.map .ok) ++ broughtBy last := by
      rw [brought_append]
      exact congrArg _ (List.append_nil _)
    have hrun : EndsWith (brought (chunks.map .ok)) last (.ok head) := by
      rw [← hhead]
      exact hend
    obtain ⟨hfront, hlt⟩ := hrun.of_ok hindex
    rw [← hsplit] at hfront
    have hle := hfront.length_le
    rw [List.length_append] at hle
    refine ⟨hfront, by omega, ?_⟩
    intro n hn
    have hlast := hreceipts.length_last_le hn
    rw [hsplit, List.length_append]
    omega

/-- Where a blank line comes in parts, receives of two bytes take a head of six bytes, the blank
line and less than two bytes behind it. -/
theorem readHead_spends_hesitant :
    ∃ earlier last, (brought (earlier ++ [last])).length < 6 + 4 + 2 ∧
      Bytes.ofAscii "G /\r\n\r" ++ blankLine <+: brought (earlier ++ [last]) := by
  obtain ⟨earlier, last, _, _, _, _, _, _, hhead⟩ := readHead_spends (.int 2) ⟨.empty, hesitant⟩
  have hsize : Connection.Positive (.int 2) := ⟨2, rfl, by decide⟩
  have houtcome : Run.outcome (readHead (.int 2)) ⟨.empty, hesitant⟩ =
      .ok (Bytes.ofAscii "G /\r\n\r") := by
    rw [outcome_readHead hsize]
    rfl
  obtain ⟨hfront, _, hlt⟩ := hhead _ houtcome
  exact ⟨earlier, last, hlt 2 rfl, hfront⟩

end Request

end StaticHttp
