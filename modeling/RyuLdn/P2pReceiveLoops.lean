import RyuLdn.StreamReassembly

/-! The two receive loops of the P2P transport: `P2pProxySession::ReceiveLoop` on
the host and `P2pProxyClient::ReceiveLoop` at the joiner. Both read one `recv`
chunk at a time into a `PacketBuffer`, hand every complete packet to
`ProcessData` and consume it; they differ in the buffer size and in what a chunk
that does not fit makes them do. A run is the list of chunks `recv` returned.

`alive` is what `ProcessData` leaves of the connection: it says, for the packets
handled so far, whether the loop still finds itself connected. -/
namespace RyuLdn.P2pReceiveLoops

open ProtocolCodec StreamFraming StreamReassembly

inductive Overflow where
  | disconnect
  | reset
  deriving DecidableEq, Repr

structure ReceiveLoop (capacity : Nat) where
  running : Bool
  buffer : PacketBuffer capacity
  processed : List (List UInt8)
  disconnected : Bool
  bufferReset : Bool

variable {capacity : Nat}

def start : ReceiveLoop capacity := ⟨true, PacketBuffer.reset, [], false, false⟩

/-- `while (m_connected) { peek_packet; ProcessData; consume }`. Every round takes
at least a header off the buffer, so its size bounds the rounds. -/
def processBuffered (alive : List (List UInt8) → Bool) :
    (rounds : Nat) → ReceiveLoop capacity → ReceiveLoop capacity
  | 0, s => s
  | rounds + 1, s =>
      if s.running then
        match s.buffer.peekPacket with
        | none =>
            if s.buffer.peekPacketInfo.1 = .invalidPacket then
              { s with running := false, disconnected := true }
            else s
        | some packetSize =>
            let processed := s.processed ++ [s.buffer.bytes.take packetSize]
            processBuffered alive rounds
              { s with
                running := alive processed
                buffer := s.buffer.consume packetSize
                processed := processed }
      else s

/-- One turn of the outer loop, for the chunk `recv` returned. -/
def receive (overflow : Overflow) (alive : List (List UInt8) → Bool)
    (s : ReceiveLoop capacity) (chunk : List UInt8) : ReceiveLoop capacity :=
  if s.running then
    match s.buffer.append chunk with
    | (.success, b) => processBuffered alive (b.size + 1) { s with buffer := b }
    | (_, b) =>
        match overflow with
        | .disconnect => { s with buffer := b, running := false, disconnected := true }
        | .reset => { s with buffer := PacketBuffer.reset, bufferReset := true }
  else s

def receiveLoop (capacity : Nat) (overflow : Overflow) (alive : List (List UInt8) → Bool)
    (chunks : List (List UInt8)) : ReceiveLoop capacity :=
  chunks.foldl (receive overflow alive) start

/-- `P2pProxySession::ReceiveLoop`, `RECV_BUFFER_SIZE = 0x1000`. -/
def sessionReceiveLoop : (List (List UInt8) → Bool) → List (List UInt8) → ReceiveLoop 0x1000 :=
  receiveLoop 0x1000 .disconnect

/-- `P2pProxyClient::ReceiveLoop`, `RECV_BUFFER_SIZE = 0x4000`. -/
def clientReceiveLoop : (List (List UInt8) → Bool) → List (List UInt8) → ReceiveLoop 0x4000 :=
  receiveLoop 0x4000 .reset

/-- Every packet handed over once and in order, and the loop never gave up. -/
def Lossless (packets : List (List UInt8)) (s : ReceiveLoop capacity) : Prop :=
  s.processed = packets ∧ s.disconnected = false ∧ s.bufferReset = false

/-- Each chunk fits behind the bytes of the unfinished packet before it. -/
def EachChunkFits (capacity : Nat) (packets chunks : List (List UInt8)) : Prop :=
  ∀ earlier chunk later, chunks = earlier ++ chunk :: later →
    unfinished packets earlier.flatten.length + chunk.length ≤ capacity

/-- No `ProcessData` call closes the connection while packets are still to come. -/
def StaysUp (alive : List (List UInt8) → Bool) (packets : List (List UInt8)) : Prop :=
  ∀ earlier, earlier <+: packets → earlier ≠ [] → earlier ≠ packets → alive earlier = true

theorem eachChunkFits_concat {packets chunks : List (List UInt8)} {chunk : List UInt8} :
    EachChunkFits capacity packets (chunks ++ [chunk]) ↔
      EachChunkFits capacity packets chunks ∧
        unfinished packets chunks.flatten.length + chunk.length ≤ capacity := by
  constructor
  · intro fits
    refine ⟨?_, fits chunks chunk [] rfl⟩
    rintro earlier c later rfl
    exact fits earlier c (later ++ [chunk]) (by simp)
  · rintro ⟨before, last⟩ earlier c later split
    rcases List.eq_nil_or_concat later with rfl | ⟨later, final, rfl⟩
    · obtain ⟨rfl, same⟩ := List.append_inj' split rfl
      cases same
      exact last
    · rw [List.concat_eq_append, ← List.cons_append, ← List.append_assoc] at split
      obtain ⟨rfl, _⟩ := List.append_inj' split rfl
      exact before earlier c later rfl

theorem processBuffered_flags (alive : List (List UInt8) → Bool) (rounds : Nat)
    (s : ReceiveLoop capacity) :
    (s.disconnected = true → (processBuffered alive rounds s).disconnected = true) ∧
      (processBuffered alive rounds s).bufferReset = s.bufferReset := by
  induction rounds generalizing s with
  | zero => exact ⟨id, rfl⟩
  | succ rounds ih =>
      rw [processBuffered]
      split
      · split
        · split
          · exact ⟨fun _ => rfl, rfl⟩
          · exact ⟨id, rfl⟩
        · rename_i n _
          exact ih { s with
            running := alive (s.processed ++ [s.buffer.bytes.take n])
            buffer := s.buffer.consume n
            processed := s.processed ++ [s.buffer.bytes.take n] }
      · exact ⟨id, rfl⟩

section Sent

variable {packets : List (List UInt8)} {alive : List (List UInt8) → Bool}

structure Waiting (packets : List (List UInt8)) (alive : List (List UInt8) → Bool)
    (received : List UInt8) (s : ReceiveLoop capacity) : Prop where
  tracks : Tracks packets received s.buffer.bytes s.processed
  running : s.running = true
  clean : s.disconnected = false ∧ s.bufferReset = false
  up : ∀ earlier, earlier <+: s.processed → earlier ≠ [] → alive earlier = true

/-- `ProcessData` closed the connection with the last packet of `processed`. -/
structure Closed (packets : List (List UInt8)) (alive : List (List UInt8) → Bool)
    (received : List UInt8) (s : ReceiveLoop capacity) : Prop where
  tracks : Tracks packets received s.buffer.bytes s.processed
  running : s.running = false
  clean : s.disconnected = false ∧ s.bufferReset = false
  up : ∀ earlier, earlier <+: s.processed → earlier ≠ [] → earlier ≠ s.processed →
    alive earlier = true
  down : s.processed ≠ [] ∧ alive s.processed = false

theorem Waiting.process (valid : ∀ p ∈ packets, IsPacket p) {received : List UInt8}
    {s : ReceiveLoop capacity} (h : Waiting packets alive received s) {n : Nat}
    (head : packetHead s.buffer.bytes = .frame n) :
    let processed := s.processed ++ [s.buffer.bytes.take n]
    let t : ReceiveLoop capacity := { s with
      running := alive processed, buffer := s.buffer.consume n, processed := processed }
    Waiting packets alive received t ∨ Closed packets alive received t := by
  intro processed t
  have tracks : Tracks packets received t.buffer.bytes t.processed := by
    simpa [t, processed] using h.tracks.take valid head
  have before : ∀ earlier, earlier <+: processed → earlier ≠ [] → earlier ≠ processed →
      alive earlier = true := by
    intro earlier front nonempty proper
    rcases List.prefix_concat_iff.mp front with whole | front
    · exact absurd whole proper
    · exact h.up earlier front nonempty
  cases verdict : alive processed with
  | true =>
      left
      refine ⟨tracks, verdict, h.clean, ?_⟩
      intro earlier front nonempty
      by_cases whole : earlier = processed
      · rw [whole, verdict]
      · exact before earlier front nonempty whole
  | false =>
      right
      exact ⟨tracks, verdict, h.clean, before, by simp [t, processed], verdict⟩

theorem Waiting.processBuffered (valid : ∀ p ∈ packets, IsPacket p) {received : List UInt8}
    {s : ReceiveLoop capacity} (h : Waiting packets alive received s) {rounds : Nat}
    (enough : s.buffer.bytes.length < rounds) :
    let t := processBuffered alive rounds s
    (Waiting packets alive received t ∧ packetHead t.buffer.bytes = .incomplete) ∨
      Closed packets alive received t := by
  induction rounds generalizing s with
  | zero => omega
  | succ rounds ih =>
      rw [P2pReceiveLoops.processBuffered, if_pos h.running]
      cases peek : s.buffer.peekPacket with
      | none =>
          have noFrame : ∀ n, packetHead s.buffer.bytes ≠ .frame n := by
            intro n head
            rw [← PacketBuffer.peekPacket_eq_some, peek] at head
            cases head
          have incomplete : packetHead s.buffer.bytes = .incomplete := by
            have ok := h.tracks.head_ne_invalid valid
            change packetHead s.buffer.bytes ≠ .invalid at ok
            cases head : packetHead s.buffer.bytes with
            | incomplete => rfl
            | invalid => exact absurd head ok
            | frame n => exact absurd head (noFrame n)
          have info := (PacketBuffer.peekPacketInfo_eq_noCompletePacket _).mpr incomplete
          simp only [info, reduceCtorEq, if_false]
          exact .inl ⟨h, incomplete⟩
      | some n =>
          have head := (PacketBuffer.peekPacket_eq_some _ _).mp peek
          have positive := packetFraming.frame_pos head
          have bounded := packetFraming.frame_le head
          rcases h.process valid head with next | closed
          · refine ih next ?_
            simp only [PacketBuffer.consume_bytes, List.length_drop]
            omega
          · right
            have stopped := closed.running
            cases rounds with
            | zero => exact closed
            | succ rounds =>
                simp only [P2pReceiveLoops.processBuffered]
                rw [if_neg (by simpa using stopped)]
                exact closed

theorem receiveLoop_concat (overflow : Overflow) (chunks : List (List UInt8))
    (chunk : List UInt8) :
    receiveLoop capacity overflow alive (chunks ++ [chunk]) =
      receive overflow alive (receiveLoop capacity overflow alive chunks) chunk := by
  simp [receiveLoop]

theorem receive_flags (overflow : Overflow) (s : ReceiveLoop capacity) (chunk : List UInt8)
    (flag : s.disconnected = true ∨ s.bufferReset = true) :
    (receive overflow alive s chunk).disconnected = true ∨
      (receive overflow alive s chunk).bufferReset = true := by
  rw [receive]
  split
  · split
    · rename_i b _
      have kept := processBuffered_flags alive (b.size + 1) { s with buffer := b }
      rcases flag with gone | gone
      · exact .inl (kept.1 gone)
      · exact .inr (kept.2.trans gone)
    · cases overflow with
      | disconnect => exact .inl rfl
      | reset => exact .inr rfl
  · exact flag

theorem receiveLoop_cases (valid : ∀ p ∈ packets, IsPacket p) (overflow : Overflow)
    (chunks : List (List UInt8)) (sent : chunks.flatten <+: packets.flatten) :
    let s := receiveLoop capacity overflow alive chunks
    (Waiting packets alive chunks.flatten s ∧ packetHead s.buffer.bytes = .incomplete ∧
        EachChunkFits capacity packets chunks) ∨
      (∃ seen unread, chunks = seen ++ unread ∧ Closed packets alive seen.flatten s ∧
        EachChunkFits capacity packets seen) ∨
      ((s.disconnected = true ∨ s.bufferReset = true) ∧
        ¬ EachChunkFits capacity packets chunks) := by
  induction chunks using List.reverseRecOn with
  | nil =>
      left
      refine ⟨⟨tracks_nil packets, rfl, ⟨rfl, rfl⟩, ?_⟩, packetFraming.head_nil, ?_⟩
      · intro earlier front nonempty
        exact absurd (List.prefix_nil.mp front) nonempty
      · intro earlier chunk later split
        simp at split
  | append_singleton chunks chunk ih =>
      rw [List.flatten_append, List.flatten_singleton] at sent
      rw [receiveLoop_concat]
      rcases ih ((List.prefix_append _ _).trans sent) with
        ⟨waiting, head, fits⟩ | ⟨seen, unread, split, closed, fits⟩ | ⟨flag, overflowed⟩
      · have leftover := waiting.tracks.unfinished_eq valid head
        rw [receive, if_pos waiting.running]
        rcases PacketBuffer.append_cases
          (receiveLoop capacity overflow alive chunks).buffer chunk with ⟨ok, grown, room⟩ | ⟨full, tooLong⟩
        · have next := waiting.tracks.append sent
          have allFit : EachChunkFits capacity packets (chunks ++ [chunk]) :=
            eachChunkFits_concat.mpr ⟨fits, by omega⟩
          generalize (receiveLoop capacity overflow alive chunks).buffer.append chunk = appended at *
          obtain ⟨result, b⟩ := appended
          simp only at ok grown
          subst ok
          rw [← grown] at next
          have refill : Waiting packets alive (chunks.flatten ++ chunk)
              { receiveLoop capacity overflow alive chunks with buffer := b } :=
            ⟨next, waiting.running, waiting.clean, waiting.up⟩
          rcases refill.processBuffered valid (Nat.lt_succ_self _) with ⟨again, rest⟩ | closed
          · left
            exact ⟨by simpa [PacketBuffer.size] using again, rest, allFit⟩
          · right; left
            exact ⟨chunks ++ [chunk], [], by simp,
              by simpa [PacketBuffer.size] using closed, allFit⟩
        · right; right
          rw [full]
          refine ⟨?_, ?_⟩
          · cases overflow with
            | disconnect => exact .inl rfl
            | reset => exact .inr rfl
          · intro allFit
            have := (eachChunkFits_concat.mp allFit).2
            omega
      · right; left
        rw [receive, if_neg (by simp [closed.running])]
        exact ⟨seen, unread ++ [chunk], by simp [split], closed, fits⟩
      · right; right
        refine ⟨receive_flags overflow _ chunk flag, ?_⟩
        intro allFit
        exact overflowed (eachChunkFits_concat.mp allFit).1

theorem lossless_iff (valid : ∀ p ∈ packets, IsPacket p) (overflow : Overflow)
    {chunks : List (List UInt8)} (nonempty : ∀ c ∈ chunks, c ≠ [])
    (stream : chunks.flatten = packets.flatten) :
    Lossless packets (receiveLoop capacity overflow alive chunks) ↔
      EachChunkFits capacity packets chunks ∧ StaysUp alive packets := by
  have outcome := @receiveLoop_cases capacity packets alive valid overflow chunks
    (stream ▸ List.prefix_rfl)
  rcases outcome with
    ⟨waiting, head, fits⟩ | ⟨seen, unread, split, closed, fits⟩ | ⟨flag, overflowed⟩
  · have whole := (waiting.tracks.complete valid stream head).1
    have up := waiting.up
    rw [whole] at up
    refine iff_of_true ⟨whole, waiting.clean⟩ ⟨fits, ?_⟩
    intro earlier front nonempty _
    exact up earlier front nonempty
  · constructor
    · rintro ⟨whole, _⟩
      have up := closed.up
      rw [whole] at up
      refine ⟨?_, up⟩
      have covered := closed.tracks.received_eq
      rw [whole, ← stream, split, List.flatten_append, List.append_assoc] at covered
      have unreadEmpty := (List.append_eq_nil_iff.mp (List.self_eq_append_right.mp covered)).1
      obtain rfl : unread = [] := by
        by_contra some
        obtain ⟨c, rest, rfl⟩ := List.exists_cons_of_ne_nil some
        exact nonempty c (by simp [split]) (List.append_eq_nil_iff.mp unreadEmpty).1
      rw [split, List.append_nil]
      exact fits
    · rintro ⟨_, up⟩
      refine ⟨?_, closed.clean⟩
      by_contra partly
      have := up _ closed.tracks.delivered_frames closed.down.1 partly
      rw [closed.down.2] at this
      cases this
  · refine iff_of_false ?_ (fun condition => overflowed condition.1)
    rintro ⟨_, notDisconnected, notReset⟩
    rw [notDisconnected, notReset] at flag
    simp at flag

end Sent

/-- Both loops: the host's with a buffer as large as one `recv`, and the joiner's. -/
theorem receive_loops_lossless_iff {packets chunks : List (List UInt8)}
    (alive : List (List UInt8) → Bool) (valid : ∀ p ∈ packets, IsPacket p)
    (nonempty : ∀ c ∈ chunks, c ≠ []) (stream : chunks.flatten = packets.flatten) :
    (Lossless packets (sessionReceiveLoop alive chunks) ↔
        EachChunkFits 0x1000 packets chunks ∧ StaysUp alive packets) ∧
      (Lossless packets (clientReceiveLoop alive chunks) ↔
        EachChunkFits 0x4000 packets chunks ∧ StaysUp alive packets) :=
  ⟨lossless_iff valid .disconnect nonempty stream, lossless_iff valid .reset nonempty stream⟩

theorem receive_loops_lossless_two_packets :
    let packets := [encodeHeader .scanReplyEnd 0, encodeHeader .ping 2 ++ [0, 7]]
    let chunks := [[0x52, 0x4C, 0x44, 0x4E, 12], [1, 0, 0, 0, 0, 0, 0, 0x52, 0x4C, 0x44, 0x4E,
      254, 1, 0, 0, 2, 0, 0, 0, 0, 7]]
    Lossless packets (sessionReceiveLoop (fun _ => true) chunks) ∧
      Lossless packets (clientReceiveLoop (fun _ => true) chunks) := by
  intro packets chunks
  have both := @receive_loops_lossless_iff packets chunks (fun _ => true)
    (by decide) (by decide) (by decide)
  have fits : ∀ capacity, 26 ≤ capacity → EachChunkFits capacity packets chunks := by
    intro capacity room
    have first : EachChunkFits capacity packets [] := by
      intro earlier chunk later split
      simp at split
    refine (@eachChunkFits_concat _ _ [_] _).mpr
      ⟨(@eachChunkFits_concat _ _ [] _).mpr ⟨first, ?_⟩, ?_⟩
    · exact le_trans (by decide) room
    · exact le_trans (by decide) room
  exact ⟨both.1.mpr ⟨fits _ (by decide), fun _ _ _ _ => rfl⟩,
    both.2.mpr ⟨fits _ (by decide), fun _ _ _ _ => rfl⟩⟩

theorem straddling_chunk_lost (capacity : Nat) (lower : headerSize ≤ capacity)
    (upper : capacity ≤ headerSize + maxPacketSize) (overflow : Overflow) :
    ∃ packets chunks : List (List UInt8),
      (∀ p ∈ packets, IsPacket p ∧ p.length ≤ capacity) ∧
        (∀ c ∈ chunks, c ≠ [] ∧ c.length ≤ capacity) ∧ chunks.flatten = packets.flatten ∧
        ¬ Lossless packets (receiveLoop capacity overflow (fun _ => true) chunks) := by
  obtain ⟨payload, rfl⟩ : ∃ payload, capacity = headerSize + payload :=
    ⟨capacity - headerSize, by omega⟩
  let large := encodeHeader .proxyData payload ++ List.replicate payload (0 : UInt8)
  let small := encodeHeader .proxyDisconnect 0
  have largeSize : large.length = headerSize + payload := by simp [large]
  have smallSize : small.length = headerSize := by simp [small]
  have room : headerSize = 12 := rfl
  have largePacket : IsPacket large := by
    have whole := @isPacket_encode .proxyData (List.replicate payload 0)
      (by rw [List.length_replicate]; omega)
    simpa [large] using whole
  have smallPacket : IsPacket small := by decide
  have valid : ∀ p ∈ [large, small], IsPacket p := by
    intro p member
    rcases List.mem_pair.mp member with rfl | rfl
    · exact largePacket
    · exact smallPacket
  have nonempty : ∀ c ∈ [large.take 1, large.drop 1 ++ small.take 1, small.drop 1], c ≠ [] := by
    intro c member
    have pos : 0 < c.length := by
      simp only [List.mem_cons, List.not_mem_nil, or_false] at member
      rcases member with rfl | rfl | rfl <;> simp <;> omega
    exact List.ne_nil_of_length_pos pos
  have stream : [large.take 1, large.drop 1 ++ small.take 1, small.drop 1].flatten =
      [large, small].flatten := by
    simp only [List.flatten_cons, List.flatten_nil, List.append_nil, List.append_assoc,
      List.take_append_drop]
    rw [← List.append_assoc, List.take_append_drop]
  refine ⟨[large, small], [large.take 1, large.drop 1 ++ small.take 1, small.drop 1], ?_, ?_,
    stream, ?_⟩
  · intro p member
    refine ⟨valid p member, ?_⟩
    rcases List.mem_pair.mp member with rfl | rfl <;> omega
  · intro c member
    refine ⟨nonempty c member, ?_⟩
    simp only [List.mem_cons, List.not_mem_nil, or_false] at member
    rcases member with rfl | rfl | rfl <;> simp <;> omega
  · rw [lossless_iff valid overflow nonempty stream]
    rintro ⟨fits, _⟩
    have second := fits [large.take 1] (large.drop 1 ++ small.take 1) [small.drop 1] rfl
    have held : unfinished [large, small] 1 = 1 := by
      rw [unfinished, if_pos (by omega)]
    have cut : [large.take 1].flatten.length = 1 := by
      simp
      omega
    rw [cut, held, List.length_append, List.length_drop, List.length_take] at second
    omega

theorem receive_loops_lose_packets :
    ¬ (∀ packets chunks : List (List UInt8), (∀ p ∈ packets, IsPacket p ∧ p.length ≤ 0x1000) →
        (∀ c ∈ chunks, c ≠ [] ∧ c.length ≤ 0x1000) → chunks.flatten = packets.flatten →
          Lossless packets (sessionReceiveLoop (fun _ => true) chunks)) ∧
      ¬ (∀ packets chunks : List (List UInt8), (∀ p ∈ packets, IsPacket p ∧ p.length ≤ 0x4000) →
        (∀ c ∈ chunks, c ≠ [] ∧ c.length ≤ 0x4000) → chunks.flatten = packets.flatten →
          Lossless packets (clientReceiveLoop (fun _ => true) chunks)) := by
  constructor
  · intro claim
    obtain ⟨packets, chunks, valid, small, stream, lost⟩ :=
      straddling_chunk_lost 0x1000 (by decide) (by decide) .disconnect
    exact lost (claim packets chunks valid small stream)
  · intro claim
    obtain ⟨packets, chunks, valid, small, stream, lost⟩ :=
      straddling_chunk_lost 0x4000 (by decide) (by decide) .reset
    exact lost (claim packets chunks valid small stream)

end RyuLdn.P2pReceiveLoops
