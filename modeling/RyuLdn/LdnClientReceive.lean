import RyuLdn.LdnClientRuns

/-! The receive path of a ready client, from the reads of the socket to
`handle_packet`. Four limits meet here: the 128 KB the header decoder accepts, the
8 KB receive buffer, the 4 KB of one read and the 2 KB payload buffer. A stream is
digestible when it stays within the smallest of them; on such a stream nothing is
ever stuck in the buffer. -/
namespace RyuLdn.LdnClientReceive

open ConnectionState LdnClient ProtocolCodec StreamFraming StreamReassembly TcpSocket
open TransitionSystem
open LdnClient.Client (payloadBufferSize)
open TcpClient (recvSize)
open TcpClient.Client (ReadTurn)
open TcpSocket.Socket (WriteTurn)

def IsChunk : ReadTurn → Prop
  | (.ready false, .data bytes) => bytes ≠ [] ∧ bytes.length ≤ recvSize
  | _ => False

instance : DecidablePred IsChunk
  | (.ready false, .data bytes) =>
      inferInstanceAs (Decidable (bytes ≠ [] ∧ bytes.length ≤ recvSize))
  | (.ready false, .failed _) => inferInstanceAs (Decidable False)
  | (.ready true, _) => inferInstanceAs (Decidable False)
  | (.failed _, _) => inferInstanceAs (Decidable False)
  | (.timedOut, _) => inferInstanceAs (Decidable False)

def bytesOf : ReadTurn → List UInt8
  | (_, .data bytes) => bytes
  | (_, .failed _) => []

def stream (reads : List ReadTurn) : List UInt8 := reads.flatMap bytesOf

def HeaderFits (s : List UInt8) : Prop :=
  headerSize ≤ s.length → (LdnHeader.ofImage s).dataSize.toNat ≤ payloadBufferSize

/-- Header by header the stream is accepted and its payloads fit, up to the first
`Disconnect` packet. -/
inductive Digestible : List UInt8 → Prop
  | unfinished {s : List UInt8} (missing : packetHead s = .incomplete) (small : HeaderFits s) :
      Digestible s
  | disconnect {s : List UInt8} {n : Nat} (whole : packetHead s = .frame n) (small : HeaderFits s)
      (last : PacketId.ofByte (LdnHeader.ofImage s).type = some .disconnect) : Digestible s
  | packet {s : List UInt8} {n : Nat} (whole : packetHead s = .frame n) (small : HeaderFits s)
      (rest : Digestible (s.drop n)) : Digestible s

theorem Digestible.headerFits {s : List UInt8} (digestible : Digestible s) : HeaderFits s := by
  cases digestible <;> assumption

theorem Digestible.ne_invalid {s : List UInt8} (digestible : Digestible s) :
    packetHead s ≠ .invalid := by
  cases digestible <;> simp_all

theorem Digestible.behind {s : List UInt8} {n : Nat} (digestible : Digestible s)
    (whole : packetHead s = .frame n)
    (goesOn : PacketId.ofByte (LdnHeader.ofImage s).type ≠ some .disconnect) :
    Digestible (s.drop n) := by
  cases digestible with
  | unfinished missing _ =>
      rw [whole] at missing
      cases missing
  | disconnect _ _ last => exact absurd last goesOn
  | packet whole' _ rest =>
      rw [whole] at whole'
      cases whole'
      exact rest

section Front

variable {buffer later : List UInt8}

theorem headerFits_front (digestible : Digestible (buffer ++ later)) : HeaderFits buffer := by
  intro long
  have fits := digestible.headerFits (by rw [List.length_append]; omega)
  rwa [ofImage_append long] at fits

theorem invalid_append (refused : packetHead buffer = .invalid) :
    packetHead (buffer ++ later) = .invalid := by
  rw [packetHead_eq] at *
  by_cases short : buffer.length < headerSize
  · simp [short] at refused
  · rw [if_neg short] at refused
    rw [if_neg (by rw [List.length_append]; omega), ofImage_append (by omega)]
    split at refused
    · rename_i wrong
      rw [if_pos wrong]
    · split at refused <;> cases refused

theorem front_ne_invalid (digestible : Digestible (buffer ++ later)) :
    packetHead buffer ≠ .invalid := by
  intro refused
  exact digestible.ne_invalid (invalid_append refused)

theorem length_of_incomplete (digestible : Digestible (buffer ++ later))
    (missing : packetHead buffer = .incomplete) :
    buffer.length < headerSize + payloadBufferSize := by
  have fits := headerFits_front digestible
  rw [packetHead_eq] at missing
  by_cases short : buffer.length < headerSize
  · omega
  · rw [if_neg short] at missing
    have size := fits (by omega)
    split at missing
    · cases missing
    · split at missing
      · omega
      · cases missing

end Front

theorem IsChunk.bytesOf {turn : ReadTurn} (chunk : IsChunk turn) :
    turn = (.ready false, .data (bytesOf turn)) ∧ bytesOf turn ≠ [] ∧
      (bytesOf turn).length ≤ recvSize := by
  obtain ⟨poll, reply⟩ := turn
  match poll, reply, chunk with
  | .ready false, .data bytes, chunk => exact ⟨rfl, chunk⟩

theorem recv_chunk {s : Socket} {turn : ReadTurn} (up : s.connected = true)
    (chunk : IsChunk turn) (timeoutMs : Int) :
    s.recv recvSize timeoutMs turn.1 turn.2 = (.success, bytesOf turn, s) := by
  obtain ⟨shape, nonempty, small⟩ := chunk.bytesOf
  generalize bytesOf turn = bytes at shape nonempty small ⊢
  have whole : bytes.take recvSize = bytes := List.take_of_length_le small
  rw [shape]
  unfold Socket.recv Socket.read Socket.waitReady
  simp only [up, whole, nonempty, Bool.not_true, Bool.false_eq_true, if_false]
  split <;> rfl

theorem receiveIntoBuffer_chunk {t : TcpClient.Client} {turn : ReadTurn}
    (up : t.socket.connected = true) (chunk : IsChunk turn) (timeoutMs : Int)
    (room : t.recvBuffer.bytes.length + (bytesOf turn).length ≤ 0x2000) :
    ∃ buffer, t.receiveIntoBuffer timeoutMs turn = (.success, { t with recvBuffer := buffer }) ∧
      buffer.bytes = t.recvBuffer.bytes ++ bytesOf turn := by
  unfold TcpClient.Client.receiveIntoBuffer
  rw [recv_chunk up chunk]
  dsimp only
  rw [if_neg chunk.bytesOf.2.1]
  rcases t.recvBuffer.append_cases (bytesOf turn) with ⟨ok, joined, -⟩ | ⟨-, full⟩
  · generalize t.recvBuffer.append (bytesOf turn) = appended at ok joined ⊢
    obtain ⟨result, buffer⟩ := appended
    cases ok
    exact ⟨buffer, rfl, joined⟩
  · omega

theorem incomplete_of_not_complete {buffer : PacketBuffer 0x2000} {later : List UInt8}
    (digestible : Digestible (buffer.bytes ++ later)) (waiting : buffer.hasCompletePacket = false) :
    packetHead buffer.bytes = .incomplete := by
  cases head : packetHead buffer.bytes with
  | incomplete => rfl
  | invalid => exact absurd head (front_ne_invalid digestible)
  | frame n =>
      have complete := (PacketBuffer.hasCompletePacket_iff buffer).mpr ⟨n, head⟩
      rw [waiting] at complete
      cases complete

theorem not_complete_of_invalid {buffer : PacketBuffer 0x2000}
    (refused : packetHead buffer.bytes = .invalid) : buffer.hasCompletePacket = false := by
  by_contra complete
  obtain ⟨n, whole⟩ := (PacketBuffer.hasCompletePacket_iff buffer).mp (by simpa using complete)
  rw [refused] at whole
  cases whole

theorem receiveUntilComplete_chunks (timeoutMs : Int) (reads : List ReadTurn)
    (chunks : ∀ turn ∈ reads, IsChunk turn) {t : TcpClient.Client}
    (up : t.socket.connected = true) {later : List UInt8}
    (digestible : Digestible (t.recvBuffer.bytes ++ stream reads ++ later)) :
    (∃ buffer rest n, t.receiveUntilComplete timeoutMs reads =
        (.success, { t with recvBuffer := buffer }, rest) ∧
      packetHead buffer.bytes = .frame n ∧
      buffer.bytes ++ stream rest = t.recvBuffer.bytes ++ stream reads ∧
      ∀ turn ∈ rest, IsChunk turn) ∨
    (∃ buffer, t.receiveUntilComplete timeoutMs reads =
        (.timeout, { t with recvBuffer := buffer }, []) ∧
      packetHead buffer.bytes = .incomplete ∧
      buffer.bytes = t.recvBuffer.bytes ++ stream reads) := by
  induction reads generalizing t with
  | nil =>
      unfold TcpClient.Client.receiveUntilComplete
      rw [stream, List.flatMap_nil, List.append_nil] at *
      cases complete : t.recvBuffer.hasCompletePacket with
      | true =>
          obtain ⟨n, whole⟩ := (PacketBuffer.hasCompletePacket_iff _).mp complete
          exact Or.inl ⟨t.recvBuffer, [], n, rfl, whole, by simp [stream], by simp⟩
      | false =>
          exact Or.inr ⟨t.recvBuffer, rfl, incomplete_of_not_complete digestible complete, rfl⟩
  | cons turn reads ih =>
      unfold TcpClient.Client.receiveUntilComplete
      have joined : stream (turn :: reads) = bytesOf turn ++ stream reads := List.flatMap_cons
      cases complete : t.recvBuffer.hasCompletePacket with
      | true =>
          obtain ⟨n, whole⟩ := (PacketBuffer.hasCompletePacket_iff _).mp complete
          exact Or.inl ⟨t.recvBuffer, turn :: reads, n, rfl, whole, rfl, chunks⟩
      | false =>
          rw [List.append_assoc] at digestible
          have missing := incomplete_of_not_complete digestible complete
          have short := length_of_incomplete digestible missing
          have chunk := chunks turn List.mem_cons_self
          have small := chunk.bytesOf.2.2
          have room : t.recvBuffer.bytes.length + (bytesOf turn).length ≤ 0x2000 := by
            simp only [headerSize, payloadBufferSize, recvSize] at short small
            omega
          obtain ⟨buffer, read, grown⟩ := receiveIntoBuffer_chunk up chunk timeoutMs room
          rw [read]
          rw [joined, ← List.append_assoc, ← List.append_assoc, ← grown] at digestible
          rw [joined, ← List.append_assoc, ← grown]
          exact ih (fun turn' there => chunks turn' (List.mem_cons_of_mem _ there)) up digestible

def asDelivered (packet : List UInt8) : UInt8 × List UInt8 :=
  ((LdnHeader.ofImage packet).type, packet.drop headerSize)

theorem ofImage_take {bytes : List UInt8} {n : Nat} (whole : packetHead bytes = .frame n) :
    LdnHeader.ofImage (bytes.take n) = LdnHeader.ofImage bytes := by
  obtain ⟨accepted, size, enough⟩ := checkCompletePacket_success.mp (packetHead_frame.mp whole)
  have same : LdnHeader.ofImage (bytes.take n ++ bytes.drop n) =
      LdnHeader.ofImage (bytes.take n) :=
    ofImage_append (by rw [List.length_take]; omega) _
  rwa [List.take_append_drop, eq_comm] at same

theorem takePacket_frame {t : TcpClient.Client} {n : Nat}
    (whole : packetHead t.recvBuffer.bytes = .frame n) (fits : HeaderFits t.recvBuffer.bytes) :
    t.takePacket payloadBufferSize =
      (⟨.success, (asDelivered (t.recvBuffer.bytes.take n)).1,
        (asDelivered (t.recvBuffer.bytes.take n)).2⟩,
        { t with recvBuffer := t.recvBuffer.consume n }) := by
  obtain ⟨accepted, size, enough⟩ := checkCompletePacket_success.mp (packetHead_frame.mp whole)
  have long := headerSize_le_of_success accepted
  have decoded := decodeHeader_of_length long
  rw [decoded] at accepted size
  dsimp only at accepted size
  have front := ofImage_take whole
  have payload : (t.recvBuffer.bytes.take n).drop headerSize =
      (t.recvBuffer.bytes.drop headerSize).take
        (LdnHeader.ofImage t.recvBuffer.bytes).dataSize.toNat := by
    rw [List.drop_take, size, Nat.add_sub_cancel_left]
  have peeked := (PacketBuffer.peekPacketInfo_eq_success t.recvBuffer n).mpr whole
  unfold TcpClient.Client.takePacket asDelivered
  rw [peeked, decoded, front, payload, accepted]
  dsimp only
  rw [if_neg (by have := fits long; omega)]

theorem receivePacket_chunks (timeoutMs : Int) {reads : List ReadTurn}
    (chunks : ∀ turn ∈ reads, IsChunk turn) {t : TcpClient.Client}
    (up : t.socket.connected = true) {later : List UInt8}
    (digestible : Digestible (t.recvBuffer.bytes ++ stream reads ++ later)) :
    (∃ packet buffer rest, t.receivePacket payloadBufferSize timeoutMs reads =
        (⟨.success, (asDelivered packet).1, (asDelivered packet).2⟩,
          { t with recvBuffer := buffer }, rest) ∧
      IsPacket packet ∧
      packet ++ buffer.bytes ++ stream rest = t.recvBuffer.bytes ++ stream reads ∧
      (∀ turn ∈ rest, IsChunk turn) ∧
      (PacketId.ofByte (asDelivered packet).1 ≠ some .disconnect →
        Digestible (buffer.bytes ++ stream rest ++ later))) ∨
    (∃ buffer, t.receivePacket payloadBufferSize timeoutMs reads =
        (.failure .timeout, { t with recvBuffer := buffer }, []) ∧
      packetHead buffer.bytes = .incomplete ∧
      buffer.bytes = t.recvBuffer.bytes ++ stream reads) := by
  unfold TcpClient.Client.receivePacket
  simp only [up, Bool.not_true, Bool.false_eq_true, if_false]
  rcases receiveUntilComplete_chunks timeoutMs reads chunks up digestible with
    ⟨buffer, rest, n, result, whole, split, chunks'⟩ | ⟨buffer, result, missing, all⟩
  · left
    rw [← split, List.append_assoc] at digestible
    have taken := takePacket_frame (t := { t with recvBuffer := buffer }) whole
      (headerFits_front digestible)
    rw [result]
    dsimp only
    rw [taken]
    refine ⟨buffer.bytes.take n, buffer.consume n, rest, rfl, isFrame_take packetFraming whole,
      ?_, chunks', ?_⟩
    · rw [PacketBuffer.consume_bytes, List.take_append_drop, split]
    · intro goesOn
      have enough := packetFraming.frame_le whole
      have whole' := packetFraming.frame_append (stream rest ++ later) whole
      have long : headerSize ≤ buffer.bytes.length :=
        headerSize_le_of_success (checkCompletePacket_success.mp (packetHead_frame.mp whole)).1
      have behind := digestible.behind whole' (by
        rw [ofImage_append long]
        rwa [asDelivered, ofImage_take whole] at goesOn)
      rw [List.drop_append_of_le_length enough] at behind
      rw [PacketBuffer.consume_bytes, List.append_assoc]
      exact behind
  · right
    rw [result]
    exact ⟨buffer, rfl, missing, all⟩

def delivered (c : Client) : List (UInt8 × List UInt8) :=
  c.log.filterMap fun
    | .packetDelivered type payload => some (type, payload)
    | _ => none

structure Same (c d : Client) : Prop where
  recvBuffer : d.tcp.recvBuffer = c.tcp.recvBuffer
  delivered : delivered d = delivered c

theorem Same.refl (c : Client) : Same c c := ⟨rfl, rfl⟩

theorem Same.trans {c d e : Client} (first : Same c d) (second : Same d e) : Same c e :=
  ⟨second.recvBuffer.trans first.recvBuffer, second.delivered.trans first.delivered⟩

theorem same_notifyState (c : Client) (old new : State) : Same c (c.notifyState old new) := by
  unfold Client.notifyState
  split
  · exact ⟨rfl, by simp [delivered, Client.note]⟩
  · exact Same.refl c

theorem same_notifyChange (c : Client) (old : State) : Same c (c.notifyChange old) := by
  unfold Client.notifyChange
  split
  · exact same_notifyState c old c.state
  · exact Same.refl c

theorem same_notifyPacket (c : Client) (type : UInt8) (data : List UInt8) :
    Same c (c.notifyPacket type data) := by
  unfold Client.notifyPacket
  split
  · exact ⟨rfl, by simp [delivered, Client.note]⟩
  · exact Same.refl c

theorem same_callTcp (c : Client) (request : Request) (turns : List WriteTurn) :
    Same c (c.callTcp request turns).2 := by
  refine ⟨request.send_recvBuffer c.tcp turns, ?_⟩
  simp [delivered, Client.callTcp, Client.note, Client.setTcp]

theorem same_handlePacket (c : Client) (type : UInt8) (data : List UInt8)
    (echo : List WriteTurn) : Same c (c.handlePacket type data echo) := by
  unfold Client.handlePacket
  cases PacketId.ofByte type with
  | none => exact same_notifyPacket c type data
  | some id =>
      cases id
      case ping =>
        dsimp only
        split
        · split
          · exact same_callTcp c _ echo
          · exact ⟨rfl, rfl⟩
        · exact Same.refl c
      case disconnect => exact ⟨rfl, rfl⟩
      all_goals exact same_notifyPacket c type data

theorem same_sendWhenReady (c : Client) (lost : TcpClient.ClientResult → Bool)
    (request : Request) (turns : List WriteTurn) :
    Same c (c.sendWhenReady lost request turns).2 := by
  have called := same_callTcp c request turns
  unfold Client.sendWhenReady
  split
  · exact Same.refl c
  · generalize c.callTcp request turns = outcome at called ⊢
    obtain ⟨result, d⟩ := outcome
    have lost : Same d (d.processEvent .connectionLost) := ⟨rfl, rfl⟩
    have gone : Same c ((d.processEvent .connectionLost).notifyChange d.state) :=
      called.trans (lost.trans (same_notifyChange _ d.state))
    cases result
    case success => exact called
    all_goals
      dsimp only
      split
      · exact gone
      · exact called

theorem same_sendPing (c : Client) (turns : List WriteTurn) : Same c (c.sendPing turns).2 := by
  unfold Client.sendPing
  split
  · exact Same.refl c
  · have counted : Same c { c with pingId := c.pingId + 1 } := ⟨rfl, rfl⟩
    exact counted.trans (same_sendWhenReady _ _ _ turns)

theorem same_sendCall (call : SendCall) (c : Client) (turns : List WriteTurn) :
    Same c (call.run c turns).2 := by
  cases call
  case ping => exact same_sendPing c turns
  all_goals exact same_sendWhenReady c _ _ turns

theorem same_keepAlive (c : Client) (currentTimeMs : UInt64) (os : Replies) :
    Same c (c.keepAlive currentTimeMs os) := by
  have sent := same_sendPing c os.ping
  unfold Client.keepAlive
  split
  · generalize c.sendPing os.ping = outcome at sent ⊢
    obtain ⟨result, d⟩ := outcome
    cases result
    all_goals exact ⟨sent.recvBuffer, sent.delivered⟩
  · exact Same.refl c

/-- From `c` to `d` the stream has been cut into whole packets, each delivered once
and in order, and the bytes still in the buffer. -/
structure Delivers (c d : Client) (bytes : List UInt8) (packets : List (List UInt8)) : Prop where
  whole : ∀ p ∈ packets, IsPacket p
  split : packets.flatten ++ d.tcp.recvBuffer.bytes = c.tcp.recvBuffer.bytes ++ bytes
  delivered : delivered d = delivered c ++ packets.map asDelivered

theorem Same.delivers {c d : Client} (same : Same c d) : Delivers c d [] [] where
  whole := by simp
  split := by simp [same.recvBuffer]
  delivered := by simp [same.delivered]

theorem Delivers.cons {c d e : Client} {bytes rest packet : List UInt8}
    {packets : List (List UInt8)} (after : Delivers d e rest packets) (frame : IsPacket packet)
    (split : packet ++ d.tcp.recvBuffer.bytes ++ rest = c.tcp.recvBuffer.bytes ++ bytes)
    (noted : LdnClientReceive.delivered d = LdnClientReceive.delivered c ++ [asDelivered packet]) :
    Delivers c e bytes (packet :: packets) where
  whole := by
    intro p inside
    rcases List.mem_cons.mp inside with first | later
    · rw [first]
      exact frame
    · exact after.whole p later
  split := by
    rw [List.flatten_cons, List.append_assoc, after.split, ← List.append_assoc, split]
  delivered := by
    rw [after.delivered, noted, List.map_cons, List.append_assoc]
    rfl

theorem Delivers.trans {c d e : Client} {first second : List UInt8}
    {packets later : List (List UInt8)} (before : Delivers c d first packets)
    (after : Delivers d e second later) : Delivers c e (first ++ second) (packets ++ later) where
  whole := by
    intro p inside
    rcases List.mem_append.mp inside with here | there
    · exact before.whole p here
    · exact after.whole p there
  split := by
    rw [List.flatten_append, List.append_assoc, after.split, ← List.append_assoc, before.split,
      List.append_assoc]
  delivered := by rw [after.delivered, before.delivered, List.map_append, List.append_assoc]

theorem loop_disconnecting (rounds : Nat) {c : Client} (reads : List ReadTurn)
    (echoes : List (List WriteTurn)) (here : c.core.state = .disconnecting) :
    (Client.processPacketsLoop rounds c reads echoes).core.state ≠ .ready := by
  induction rounds generalizing c reads echoes with
  | zero =>
      unfold Client.processPacketsLoop
      simp [here]
  | succ rounds ih =>
      unfold Client.processPacketsLoop
      generalize c.receive reads = outcome
      obtain ⟨received, tcp, rest⟩ := outcome
      have there : (c.setTcp tcp).core.state = .disconnecting := here
      have lost : (((c.setTcp tcp).processEvent .connectionLost).startBackoffIfAuto.notifyChange
          (c.setTcp tcp).state).core.state ≠ .ready := by
        rw [Client.core_notifyChange, Client.core_startBackoffIfAuto, Client.core_processEvent,
          Core.event_state there]
        decide
      dsimp only
      cases received.result
      case success =>
        apply ih
        rw [(Client.core_handlePacket _ _ _ _).2]
        split
        · exact Core.event_state there .disconnect
        · exact there
      case connectionLost => exact lost
      case notConnected => exact lost
      all_goals
        rw [there]
        decide

theorem loop_success {rounds : Nat} {c : Client} {reads rest : List ReadTurn}
    {echoes : List (List WriteTurn)} {type : UInt8} {payload : List UInt8}
    {tcp : TcpClient.Client} (received : c.receive reads = (⟨.success, type, payload⟩, tcp, rest)) :
    Client.processPacketsLoop (rounds + 1) c reads echoes =
      Client.processPacketsLoop rounds
        (((c.setTcp tcp).note (.packetDelivered type payload)).handlePacket type payload
          (echoes.headD [])) rest echoes.tail := by
  rw [Client.processPacketsLoop, received]

theorem loop_timeout {rounds : Nat} {c : Client} {reads rest : List ReadTurn}
    {echoes : List (List WriteTurn)} {tcp : TcpClient.Client}
    (received : c.receive reads = (.failure .timeout, tcp, rest)) :
    Client.processPacketsLoop (rounds + 1) c reads echoes = c.setTcp tcp := by
  rw [Client.processPacketsLoop, received]
  rfl

theorem loop_delivers (rounds : Nat) {c : Client} (reads : List ReadTurn)
    (echoes : List (List WriteTurn)) (chunks : ∀ turn ∈ reads, IsChunk turn)
    {later : List UInt8}
    (digestible : Digestible (c.tcp.recvBuffer.bytes ++ stream reads ++ later))
    (enough : (c.tcp.recvBuffer.bytes ++ stream reads).length < rounds)
    (here : c.core.state = .ready)
    (still : (Client.processPacketsLoop rounds c reads echoes).core.state = .ready) :
    (∃ packets, Delivers c (Client.processPacketsLoop rounds c reads echoes) (stream reads)
        packets) ∧
      packetHead (Client.processPacketsLoop rounds c reads echoes).tcp.recvBuffer.bytes =
        .incomplete ∧
      Digestible
        ((Client.processPacketsLoop rounds c reads echoes).tcp.recvBuffer.bytes ++ later) := by
  induction rounds generalizing c reads echoes with
  | zero => omega
  | succ rounds ih =>
      by_cases up : c.tcp.socket.connected = true
      · rcases receivePacket_chunks c.recvTimeout chunks up digestible with
          ⟨packet, buffer, rest, result, whole, split, chunks', goesOn⟩ |
          ⟨buffer, result, missing, all⟩
        · rw [loop_success result] at still ⊢
          have afterward := same_handlePacket
            ((c.setTcp { c.tcp with recvBuffer := buffer }).note
              (.packetDelivered (asDelivered packet).1 (asDelivered packet).2))
            (asDelivered packet).1 (asDelivered packet).2 (echoes.headD [])
          have moved := (Client.core_handlePacket
            ((c.setTcp { c.tcp with recvBuffer := buffer }).note
              (.packetDelivered (asDelivered packet).1 (asDelivered packet).2))
            (asDelivered packet).1 (asDelivered packet).2 (echoes.headD [])).2
          generalize Client.handlePacket _ (asDelivered packet).1 (asDelivered packet).2
            (echoes.headD []) = e at still afterward moved ⊢
          have kept : e.tcp.recvBuffer = buffer := afterward.recvBuffer
          have noted : delivered e = delivered c ++ [asDelivered packet] := by
            rw [afterward.delivered]
            simp [delivered, Client.note, Client.setTcp]
          by_cases last : PacketId.ofByte (asDelivered packet).1 = some .disconnect
          · rw [if_pos last] at moved
            exact absurd still (loop_disconnecting rounds rest echoes.tail
              (moved.trans (Core.event_state here .disconnect)))
          · rw [if_neg last] at moved
            have ready : e.core.state = .ready := moved.trans here
            have digestible' := goesOn last
            rw [← kept] at digestible' split
            have fewer : (e.tcp.recvBuffer.bytes ++ stream rest).length < rounds := by
              have lengths := congrArg List.length split
              have some := packetFraming.frame_pos whole
              rw [List.append_assoc, List.length_append] at lengths
              omega
            obtain ⟨⟨packets, later_⟩, missing, goes⟩ :=
              ih rest echoes.tail chunks' digestible' fewer ready still
            exact ⟨⟨packet :: packets, later_.cons whole split noted⟩, missing, goes⟩
        · rw [loop_timeout result]
          refine ⟨⟨[], by simp, by simpa [Client.setTcp] using all, by simp [delivered, Client.setTcp]⟩,
            missing, ?_⟩
          change Digestible (buffer.bytes ++ later)
          rw [all]
          exact digestible
      · have result : c.receive reads = (.failure .notConnected, c.tcp, reads) := by
          unfold Client.receive TcpClient.Client.receivePacket
          simp [up]
        rw [Client.processPacketsLoop, result] at still
        have lost : (((c.setTcp c.tcp).processEvent .connectionLost).startBackoffIfAuto.notifyChange
            (c.setTcp c.tcp).state).core.state = .ready := still
        rw [Client.core_notifyChange, Client.core_startBackoffIfAuto, Client.core_processEvent,
          Core.event_state (show (c.setTcp c.tcp).core.state = .ready from here)] at lost
        cases lost

theorem length_stream (reads : List ReadTurn) :
    (stream reads).length = (reads.map Client.readSize).sum := by
  induction reads with
  | nil => rfl
  | cons turn reads ih =>
      have first : (bytesOf turn).length = Client.readSize turn := by
        obtain ⟨poll, reply⟩ := turn
        cases reply <;> rfl
      rw [stream, List.flatMap_cons, List.length_append, List.map_cons, List.sum_cons, first, ← ih]
      rfl

def Receives (c : Client) : Action → Prop
  | .update _ os => c.tcp.socket.connected = true ∧ ∀ turn ∈ os.reads, IsChunk turn
  | _ => True

instance (c : Client) : DecidablePred (Receives c)
  | .update _ os => inferInstanceAs
      (Decidable (c.tcp.socket.connected = true ∧ ∀ turn ∈ os.reads, IsChunk turn))
  | .connect _ => inferInstanceAs (Decidable True)
  | .connectTo _ _ _ => inferInstanceAs (Decidable True)
  | .disconnect _ => inferInstanceAs (Decidable True)
  | .send _ _ => inferInstanceAs (Decidable True)
  | .setConfig _ => inferInstanceAs (Decidable True)
  | .socketLost => inferInstanceAs (Decidable True)

def readyStep : Client → Action → Option Client :=
  guarded (fun c action => c.state = .ready ∧ Receives c action)
    (fun c action => some (step c action))

def received : Action → List UInt8
  | .update _ os => stream os.reads
  | _ => []

def isUpdate : Action → Bool
  | .update _ _ => true
  | _ => false

theorem update_delivers {c : Client} (currentTimeMs : UInt64) (os : Replies)
    (here : c.core.state = .ready) (up : c.tcp.socket.connected = true)
    (chunks : ∀ turn ∈ os.reads, IsChunk turn) {later : List UInt8}
    (digestible : Digestible (c.tcp.recvBuffer.bytes ++ stream os.reads ++ later))
    (still : (c.update currentTimeMs os).core.state = .ready) :
    (∃ packets, Delivers c (c.update currentTimeMs os) (stream os.reads) packets) ∧
      packetHead (c.update currentTimeMs os).tcp.recvBuffer.bytes = .incomplete ∧
      Digestible ((c.update currentTimeMs os).tcp.recvBuffer.bytes ++ later) := by
  have ticked : Same c (c.tick currentTimeMs) := ⟨rfl, rfl⟩
  have there : (c.tick currentTimeMs).core.state = .ready := here
  have up' : (c.tick currentTimeMs).tcp.isConnected = true := up
  have enough : ((c.tick currentTimeMs).tcp.recvBuffer.bytes ++ stream os.reads).length <
      (c.tick currentTimeMs).packetBound os.reads := by
    rw [List.length_append, length_stream]
    exact Nat.lt_succ_self _
  rw [Client.update_of_ready here] at still ⊢
  rw [← ticked.recvBuffer] at digestible
  have looped := loop_delivers ((c.tick currentTimeMs).packetBound os.reads) os.reads os.echoes
    chunks digestible enough there
  have processed : (c.tick currentTimeMs).processPackets os =
      Client.processPacketsLoop ((c.tick currentTimeMs).packetBound os.reads)
        (c.tick currentTimeMs) os.reads os.echoes := by
    unfold Client.processPackets
    simp [up']
  have served := (Client.processPackets_effect os (Or.inl there)).outcome
  revert still
  unfold Client.handleReadyState
  rw [← processed] at looped
  generalize (c.tick currentTimeMs).processPackets os = d at looped served
  dsimp only
  split
  · intro still
    -- A ping timeout leaves `Ready`, whatever the packets have done.
    rw [Client.core_notifyState, Client.core_startBackoffIfAuto, Client.core_processEvent] at still
    rcases served with (at_ | at_) | ⟨at_ | at_, -⟩ <;> rw [Core.event_state at_] at still <;>
      cases still
  · intro still
    have sent := same_keepAlive d currentTimeMs os
    have ready : d.core.state = .ready := by
      rcases (Client.keepAlive_effect d currentTimeMs os).outcome with same | ⟨ready, -⟩
      · rwa [same] at still
      · exact ready
    obtain ⟨⟨packets, delivers⟩, missing, goesOn⟩ := looped ready
    refine ⟨⟨packets, ?_⟩, ?_, ?_⟩
    · have all := (ticked.delivers.trans delivers).trans sent.delivers
      simpa using all
    · rw [sent.recvBuffer]
      exact missing
    · rw [sent.recvBuffer]
      exact goesOn

theorem step_same {c : Client} {action : Action} (here : c.core.state = .ready)
    (other : isUpdate action = false) (still : (step c action).core.state = .ready) :
    Same c (step c action) := by
  have refused : ∀ host port os, Same c (c.connectTo host port os).2 := by
    intro host port os
    have busy : (c.machine.isConnected ∨ c.machine.isTransitioning) ∧ c.state ≠ .backoff := by
      have state : c.machine.state = .ready := here
      exact ⟨Or.inl (by simp [Machine.isConnected, state]), by simp [Client.state, state]⟩
    unfold Client.connectTo
    rw [if_pos busy]
    exact Same.refl c
  cases action
  case update => cases other
  case connect os => exact refused _ _ os
  case connectTo host port os => exact refused host port os
  case disconnect turns =>
    unfold step at still
    rw [Client.core_disconnect] at still
    cases still
  case send call turns => exact same_sendCall call c turns
  case setConfig config => exact ⟨rfl, rfl⟩
  case socketLost => exact ⟨rfl, rfl⟩

theorem readyStep_delivers {c d : Client} {action : Action} {later : List UInt8}
    (taken : readyStep c action = some d) (still : d.core.state = .ready)
    (digestible : Digestible (c.tcp.recvBuffer.bytes ++ received action ++ later)) :
    (∃ packets, Delivers c d (received action) packets) ∧
      (isUpdate action = true ∨ packetHead c.tcp.recvBuffer.bytes = .incomplete →
        packetHead d.tcp.recvBuffer.bytes = .incomplete) ∧
      Digestible (d.tcp.recvBuffer.bytes ++ later) := by
  obtain ⟨allowed, moved⟩ := guarded_eq_some.mp taken
  obtain ⟨here, receives⟩ := of_decide_eq_true allowed
  cases moved
  by_cases other : isUpdate action = false
  · have same := step_same here other still
    have none_read : received action = [] := by
      cases action
      case update => cases other
      all_goals rfl
    rw [none_read] at digestible ⊢
    rw [List.append_nil] at digestible
    refine ⟨⟨[], same.delivers⟩, ?_, ?_⟩
    · intro before
      rw [same.recvBuffer]
      exact before.resolve_left (by simp [other])
    · rw [same.recvBuffer]
      exact digestible
  · cases action
    case update currentTimeMs os =>
      obtain ⟨delivers, missing, goesOn⟩ := update_delivers currentTimeMs os here receives.1
        receives.2 digestible still
      exact ⟨delivers, fun _ => missing, goesOn⟩
    all_goals exact absurd rfl other

theorem ready_of_run {c d : Client} {actions : List Action}
    (steps : run readyStep c actions = some d) (still : d.core.state = .ready) :
    c.core.state = .ready := by
  cases actions with
  | nil =>
      cases steps
      exact still
  | cons action actions =>
      obtain ⟨m, one, -⟩ := run_cons_eq_some.mp steps
      exact (of_decide_eq_true (guarded_eq_some.mp one).1).1

/-- The receive path never wedges on a digestible stream: however it is cut into
reads and whatever calls come in between, as long as the client stays ready every
whole packet has been delivered and consumed, once and in order, and what is left
in the buffer is the beginning of a packet. -/
theorem receive_path_keeps_up {c d : Client} {actions : List Action}
    (steps : run readyStep c actions = some d) (still : d.state = .ready)
    (digestible : Digestible (c.tcp.recvBuffer.bytes ++ actions.flatMap received)) :
    (∃ packets, Delivers c d (actions.flatMap received) packets) ∧
      (actions.any isUpdate = true ∨ packetHead c.tcp.recvBuffer.bytes = .incomplete →
        packetHead d.tcp.recvBuffer.bytes = .incomplete) := by
  induction actions generalizing c with
  | nil =>
      cases steps
      refine ⟨⟨[], (Same.refl d).delivers⟩, ?_⟩
      intro before
      exact before.resolve_left (by simp)
  | cons action actions ih =>
      obtain ⟨m, one, rest⟩ := run_cons_eq_some.mp steps
      rw [List.flatMap_cons, ← List.append_assoc] at digestible
      obtain ⟨⟨packets, first⟩, head, goesOn⟩ :=
        readyStep_delivers one (ready_of_run rest still) digestible
      obtain ⟨⟨later, second⟩, tail⟩ := ih rest goesOn
      refine ⟨⟨packets ++ later, ?_⟩, ?_⟩
      · rw [List.flatMap_cons]
        exact first.trans second
      · intro before
        apply tail
        rw [List.any_cons, Bool.or_eq_true] at before
        tauto

def readyClient : Client :=
  [Action.connect .quiet, .update 1 .quiet,
    .update 2 { Replies.quiet with
      reads := [(.ready false, .data (encodeHeader .initializeMessage 22 ++ List.replicate 22 0))] }
  ].foldl step (Client.new Config.default true true default)

def reading (bytes : List UInt8) : Replies :=
  { Replies.quiet with reads := [(.ready false, .data bytes)] }

def pingPacket : List UInt8 := encodeHeader .ping 2 ++ [0, 5]

def pingInTwoReads : List Action :=
  [.update 3 (reading (pingPacket.take 7)), .update 4 (reading (pingPacket.drop 7))]

theorem receive_path_keeps_up_ping :
    ∃ d, run readyStep readyClient pingInTwoReads = some d ∧ d.state = .ready ∧
      (∃ packets, Delivers readyClient d pingPacket packets) ∧
      packetHead d.tcp.recvBuffer.bytes = .incomplete := by
  have ends : (run readyStep readyClient pingInTwoReads).map Client.state = some .ready := by
    decide +kernel
  have bytes : pingInTwoReads.flatMap received = pingPacket := by decide
  have empty : readyClient.tcp.recvBuffer.bytes = [] := by decide +kernel
  have digestible : Digestible pingPacket := by
    refine .packet (n := 14) (by decide) (by unfold HeaderFits; decide) ?_
    exact .unfinished (by decide) (by unfold HeaderFits; decide)
  obtain ⟨d, steps, ready⟩ := Option.map_eq_some_iff.mp ends
  have kept := receive_path_keeps_up steps ready (by rw [empty, bytes]; exact digestible)
  rw [bytes] at kept
  exact ⟨d, steps, ready, kept.1, kept.2 (Or.inl (by decide))⟩

theorem receive_stuck {c : Client} (refused : packetHead c.tcp.recvBuffer.bytes = .invalid)
    (up : c.tcp.socket.connected = true) (reads : List ReadTurn)
    (chunks : ∀ turn ∈ reads, IsChunk turn) :
    ((c.receive reads).1.result = .timeout ∨ (c.receive reads).1.result = .invalidPacket) ∧
      c.tcp.recvBuffer.bytes <+: (c.receive reads).2.1.recvBuffer.bytes := by
  have looped : ∀ t : TcpClient.Client, packetHead t.recvBuffer.bytes = .invalid →
      t.socket.connected = true →
      ((t.receiveUntilComplete c.recvTimeout reads).1 = .timeout ∨
        (t.receiveUntilComplete c.recvTimeout reads).1 = .invalidPacket) ∧
      t.recvBuffer.bytes <+: (t.receiveUntilComplete c.recvTimeout reads).2.1.recvBuffer.bytes := by
    induction reads with
    | nil =>
        intro t refused _
        have waiting : t.recvBuffer.hasCompletePacket = false := not_complete_of_invalid refused
        unfold TcpClient.Client.receiveUntilComplete
        rw [waiting]
        exact ⟨Or.inl rfl, List.prefix_rfl⟩
    | cons turn reads ih =>
        intro t refused up
        have waiting : t.recvBuffer.hasCompletePacket = false := not_complete_of_invalid refused
        have chunk := chunks turn List.mem_cons_self
        unfold TcpClient.Client.receiveUntilComplete TcpClient.Client.receiveIntoBuffer
        rw [waiting, recv_chunk up chunk]
        dsimp only
        rw [if_neg (by decide), if_neg chunk.bytesOf.2.1]
        rcases t.recvBuffer.append_cases (bytesOf turn) with ⟨ok, joined, -⟩ | ⟨full, -⟩
        · generalize t.recvBuffer.append (bytesOf turn) = appended at ok joined ⊢
          obtain ⟨result, buffer⟩ := appended
          cases ok
          have later := ih (fun turn' there => chunks turn' (List.mem_cons_of_mem _ there))
            { t with recvBuffer := buffer }
            (by rw [show buffer.bytes = _ from joined]; exact invalid_append refused) up
          refine ⟨later.1, List.IsPrefix.trans ?_ later.2⟩
          exact ⟨bytesOf turn, joined.symm⟩
        · rw [full]
          exact ⟨Or.inr rfl, List.prefix_rfl⟩
  have ends := looped c.tcp refused up
  unfold Client.receive TcpClient.Client.receivePacket
  simp only [up, Bool.not_true, Bool.false_eq_true, if_false]
  generalize c.tcp.receiveUntilComplete c.recvTimeout reads = outcome at ends ⊢
  obtain ⟨result, t, rest⟩ := outcome
  obtain ⟨stuck, kept⟩ := ends
  rcases stuck with timeout | invalid
  · cases timeout
    exact ⟨Or.inl rfl, kept⟩
  · cases invalid
    exact ⟨Or.inr rfl, kept⟩

/-- Twelve zero bytes reach a ready client. It stays ready, keeps them, and every
further `receive_packet` fails in a way that nobody acts on. -/
theorem refused_header_wedges :
    ∃ d, run readyStep readyClient [.update 3 (reading (List.replicate 12 0))] = some d ∧
      d.state = .ready ∧ packetHead d.tcp.recvBuffer.bytes = .invalid ∧
      ∀ reads, (∀ turn ∈ reads, IsChunk turn) →
        ((d.receive reads).1.result = .timeout ∨ (d.receive reads).1.result = .invalidPacket) ∧
          d.tcp.recvBuffer.bytes <+: (d.receive reads).2.1.recvBuffer.bytes := by
  have ends : (run readyStep readyClient [.update 3 (reading (List.replicate 12 0))]).map
      (fun d => (d.state, packetHead d.tcp.recvBuffer.bytes, d.tcp.socket.connected)) =
        some (.ready, .invalid, true) := by
    decide +kernel
  obtain ⟨d, steps, values⟩ := Option.map_eq_some_iff.mp ends
  have ready : d.state = .ready := congrArg Prod.fst values
  have refused : packetHead d.tcp.recvBuffer.bytes = .invalid :=
    congrArg (fun v => v.2.1) values
  have up : d.tcp.socket.connected = true := congrArg (fun v => v.2.2) values
  exact ⟨d, steps, ready, refused, receive_stuck refused up⟩

end RyuLdn.LdnClientReceive
