import RyuLdn.P2pHostBroadcast

/-! A datagram on its way from one game to another: `SendTo`, the packet in one of
the send buffers, the buffers of the receiver and the receive ring of the socket
bound to the destination. The size limits of the two ends are met with room to
spare, and every conversion of an address is undone by the next. -/
namespace RyuLdn.LdnDataPath

open BsdTypes LdnClient LockedProgram P2pRouting P2pServer ProtocolCodec ProtocolTypes
open ProxySocket ProxySocketManager StreamReassembly

/-- The sockets `RouteIncomingData` finds for the destination. -/
def targetsOf (peer : Manager) (info : ProxyInfo) (protocol : BsdTypes.ProtocolType) :
    List (Sigma fun _ : Int => Socket) :=
  findAllSocketsByDestination peer info.destIpv4 info.destPort protocol 8

/-- A socket registered for the destination, by its address or by none. -/
def IsBoundFor (info : ProxyInfo) (protocol : BsdTypes.ProtocolType) (s : Socket) : Prop :=
  s.protocol = protocol ∧ s.localAddr.getPort = info.destPort ∧
    (s.localAddr.getAddr = info.destIpv4 ∨ s.localAddr.getAddr = 0)

def IsRemote (peer : Manager) (info : ProxyInfo) : Prop :=
  peer.localIp = 0 ∨ info.sourceIpv4 ≠ peer.localIp

def Gained (info : ProxyInfo) (data : List UInt8) (before after : Socket) : Prop :=
  ∃ source : SockAddrIn, after.rxRing.toList = before.rxRing.toList ++ [⟨source, data⟩] ∧
    source.getAddr = info.sourceIpv4 ∧ source.getPort = info.sourcePort

structure DeliversTo (receiver : Program Manager Unit) (info : ProxyInfo)
    (protocol : BsdTypes.ProtocolType) (data : List UInt8) (peer after : Manager) : Prop where
  runs : receiver false peer = some ((), after)
  found : (∃ e ∈ peer.sockets.entries, IsBoundFor info protocol e.2) →
    targetsOf peer info protocol ≠ []
  gained : ∀ e ∈ targetsOf peer info protocol, e.2.rxRing.count < maxQueueSize →
    peer.sockets.lookup e.1 = some e.2 ∧ e.2.protocol = protocol ∧
      e.2.localAddr.getPort = info.destPort ∧
      (isBroadcast info.destIpv4 = false → IsBoundFor info protocol e.2) ∧
      ∃ s, after.sockets.lookup e.1 = some s ∧ Gained info data e.2 s

def DeliversEverywhere (receiver : Nat → Program Manager Unit) (info : ProxyInfo)
    (protocol : BsdTypes.ProtocolType) (data : List UInt8) : Prop :=
  ∀ now peer, IsRemote peer info →
    ∃ after, DeliversTo (receiver now) info protocol data peer after

def dataHeader (info : ProxyInfo) (data : List UInt8) : ProxyDataHeader :=
  ⟨info, UInt32.ofNat data.length⟩

def HandsOn (info : ProxyInfo) (protocol : BsdTypes.ProtocolType) (data : List UInt8) :
    Delivery → Prop
  | .send _ packet =>
      DeliversEverywhere (fun now => p2pClientProcessProxyData now packet) info protocol data
  | .hostCallback called payload =>
      DeliversEverywhere (fun now => hostP2pInboundDataCallback now called payload) info protocol
        data

/-- The datagram arrives unchanged on every path it can take. -/
structure SurvivesRelay (info : ProxyInfo) (protocol : BsdTypes.ProtocolType)
    (data : List UInt8) : Prop where
  relayed : ∃ wire, TcpClient.Client.encodeProxyData info data = (.success, wire) ∧
    wire.length ≤ 0x2000 ∧ ∀ (t : TcpClient.Client) (later : List UInt8),
      t.socket.connected = true → t.recvBuffer.bytes = wire ++ later → ∀ timeoutMs turns,
        ∃ payload rest, t.receivePacket Client.payloadBufferSize timeoutMs turns =
            (⟨.success, PacketId.proxyData.toByte, payload⟩, rest, turns) ∧
          rest.recvBuffer.bytes = later ∧
          DeliversEverywhere (fun now => handleProxyDataPacket now payload) info protocol data
  handed : ∀ path answers,
    (∀ copy, (sendProxyDataToServer path answers (dataHeader info data) data).master = some copy →
        copy = dataHeader info data) ∧
      (∀ packet,
        (sendProxyDataToServer path answers (dataHeader info data) data).p2pClient = some packet →
          packet = proxyDataPacket (dataHeader info data) data) ∧
      ∀ delivery ∈ (sendProxyDataToServer path answers (dataHeader info data) data).sends,
        HandsOn info protocol data delivery
  hosted : ∀ path answers server, path.p2pServer = some server → path.serverConnected = true →
    Accepts server (dataHeader info data) → ∀ s ∈ authenticatedSessions server,
      (server.session s).virtualIp = info.destIpv4 →
        ∃ target, (server.session target).virtualIp = info.destIpv4 ∧
          .send target (proxyDataPacket (dataHeader info data) data) ∈
            (sendProxyDataToServer path answers (dataHeader info data) data).sends
  routed : ∀ (server : Server) (sender : SessionId),
    (server.session sender).authenticated = true →
    (server.session sender).virtualIp = info.sourceIpv4 →
    (∀ delivery ∈ deliveries server server sender (proxyDataPacket (dataHeader info data) data),
        HandsOn info protocol data delivery) ∧
      (∀ s ∈ authenticatedSessions server, (server.session s).virtualIp = info.destIpv4 →
        ∃ target, (server.session target).virtualIp = info.destIpv4 ∧
          .send target (proxyDataPacket (dataHeader info data) data) ∈
            deliveries server server sender (proxyDataPacket (dataHeader info data) data)) ∧
      (server.hostDataCallback = true → server.hostVirtualIp ≠ 0 →
        info.destIpv4 = server.hostVirtualIp →
        .hostCallback info data ∈
          deliveries server server sender (proxyDataPacket (dataHeader info data) data))

theorem targetsOf_sublist (peer : Manager) (info : ProxyInfo) (protocol : BsdTypes.ProtocolType) :
    (targetsOf peer info protocol).Sublist (peer.sockets.entries.filter fun e =>
      e.2.protocol = protocol && e.2.localAddr.getPort = info.destPort) := by
  unfold targetsOf findAllSocketsByDestination
  rw [if_neg (by decide)]
  split
  · split
    · rename_i e hit
      exact List.singleton_sublist.mpr (List.mem_of_find?_eq_some hit)
    · cases hit : (peer.sockets.entries.filter fun e =>
          e.2.protocol = protocol && e.2.localAddr.getPort = info.destPort).find?
          fun e => e.2.localAddr.getAddr = 0 with
      | none => exact List.nil_sublist _
      | some e => exact List.singleton_sublist.mpr (List.mem_of_find?_eq_some hit)
  · exact (List.take_sublist _ _).trans List.filter_sublist

theorem targetsOf_ne_nil {peer : Manager} {info : ProxyInfo} {protocol : BsdTypes.ProtocolType}
    {e : Sigma fun _ : Int => Socket} (registered : e ∈ peer.sockets.entries)
    (bound : IsBoundFor info protocol e.2) : targetsOf peer info protocol ≠ [] := by
  obtain ⟨sameProtocol, samePort, address⟩ := bound
  have candidate : e ∈ peer.sockets.entries.filter fun e =>
      e.2.protocol = protocol && e.2.localAddr.getPort = info.destPort := by
    simp [registered, sameProtocol, samePort]
  unfold targetsOf findAllSocketsByDestination
  rw [if_neg (by decide)]
  split
  · split
    · simp
    · rename_i exact
      have missed := List.find?_eq_none.mp exact e candidate
      have wild : e.2.localAddr.getAddr = 0 := by
        rcases address with same | zero
        · simp [same] at missed
        · exact zero
      cases hit : (peer.sockets.entries.filter fun e =>
          e.2.protocol = protocol && e.2.localAddr.getPort = info.destPort).find?
          fun e => e.2.localAddr.getAddr = 0 with
      | none =>
          have absent := List.find?_eq_none.mp hit e candidate
          simp [wild] at absent
      | some found => simp
  · have kept : e ∈ (peer.sockets.entries.filter fun e =>
        e.2.protocol = protocol && e.2.localAddr.getPort = info.destPort).filter fun e =>
        e.2.localAddr.getAddr = 0 || info.destIpv4 = 0xFFFFFFFF || isMulticast info.destIpv4 ||
          e.2.localAddr.getAddr = info.destIpv4 ||
          sameSubnet e.2.localAddr.getAddr info.destIpv4 := by
      refine List.mem_filter.mpr ⟨candidate, ?_⟩
      rcases address with same | zero
      · simp [same]
      · simp [zero]
    intro none
    have empty := List.take_eq_nil_iff.mp none
    rcases empty with zero | empty
    · exact absurd zero (by decide)
    · rw [empty] at kept
      cases kept

theorem isBoundFor_of_mem_targetsOf {peer : Manager} {info : ProxyInfo}
    {protocol : BsdTypes.ProtocolType} (unicast : isBroadcast info.destIpv4 = false)
    {e : Sigma fun _ : Int => Socket} (target : e ∈ targetsOf peer info protocol) :
    IsBoundFor info protocol e.2 := by
  have candidate := (targetsOf_sublist peer info protocol).subset target
  simp only [List.mem_filter, Bool.and_eq_true, decide_eq_true_eq] at candidate
  refine ⟨candidate.2.1, candidate.2.2, ?_⟩
  unfold targetsOf findAllSocketsByDestination at target
  rw [if_neg (by decide), if_pos (by simp [unicast])] at target
  split at target
  · rename_i hit
    rw [List.mem_singleton.mp target]
    exact .inl (by simpa using List.find?_some hit)
  · have hit := Option.mem_toList.mp target
    exact .inr (by simpa using List.find?_some hit)

theorem nodup_targetsOf (peer : Manager) (info : ProxyInfo) (protocol : BsdTypes.ProtocolType) :
    ((targetsOf peer info protocol).map Sigma.fst).Nodup := by
  have inside := (targetsOf_sublist peer info protocol).trans List.filter_sublist
  have keys : (peer.sockets.entries.map Sigma.fst).Nodup := peer.sockets.nodupKeys
  exact keys.sublist (inside.map Sigma.fst)

theorem lookup_deliverTo_of_notMem {targets : List (Sigma fun _ : Int => Socket)} {fd : Int}
    (other : fd ∉ targets.map Sigma.fst) (m : Manager) (data : List UInt8) (source : SockAddrIn) :
    (deliverTo m data source targets).sockets.lookup fd = m.sockets.lookup fd := by
  induction targets generalizing m with
  | nil => rfl
  | cons e targets ih =>
      rw [List.map_cons, List.mem_cons, not_or] at other
      rw [deliverTo, ih other.2, Manager.lookup_setSocket_ne _ other.1]

theorem lookup_deliverTo {targets : List (Sigma fun _ : Int => Socket)}
    (distinct : (targets.map Sigma.fst).Nodup) {e : Sigma fun _ : Int => Socket}
    (member : e ∈ targets) (m : Manager) (data : List UInt8) (source : SockAddrIn) :
    (deliverTo m data source targets).sockets.lookup e.1 =
      some (e.2.incomingData data source) := by
  induction targets generalizing m with
  | nil => cases member
  | cons first targets ih =>
      rw [List.map_cons, List.nodup_cons] at distinct
      rw [deliverTo]
      rcases List.mem_cons.mp member with rfl | later
      · rw [lookup_deliverTo_of_notMem distinct.1, Manager.lookup_setSocket]
      · exact ih distinct.2 later _

theorem gained_incomingData {s : Socket} {data : List UInt8} (small : data.length ≤ maxPayload)
    (room : s.rxRing.count < maxQueueSize) (info : ProxyInfo) :
    Gained info data s (s.incomingData data (.ofHost info.sourceIpv4 info.sourcePort)) := by
  refine ⟨.ofHost info.sourceIpv4 info.sourcePort, ?_, SockAddrIn.getAddr_ofHost _ _,
    SockAddrIn.getPort_ofHost _ _⟩
  have clamped : data.take maxPayload = data := List.take_of_length_le small
  unfold Socket.incomingData
  dsimp only
  rw [RingBuffer.Ring.toList_pushDropping, if_pos room, clamped]

theorem routeProxyData_delivers {info : ProxyInfo} {protocol : BsdTypes.ProtocolType}
    {data : List UInt8} (known : protocolOf info.protocol = some protocol)
    (small : data.length ≤ maxPayload) :
    DeliversEverywhere (fun now => routeProxyData now info data) info protocol data := by
  intro now peer remote
  have passes : ¬ (peer.localIp ≠ 0 ∧ info.sourceIpv4 = peer.localIp) := by
    rcases remote with zero | other
    · exact fun filtered => filtered.1 zero
    · exact fun filtered => other filtered.2
  have found : (∃ e ∈ peer.sockets.entries, IsBoundFor info protocol e.2) →
      targetsOf peer info protocol ≠ [] := by
    rintro ⟨e, registered, bound⟩
    exact targetsOf_ne_nil registered bound
  cases targets : targetsOf peer info protocol with
  | nil =>
      have done : ∃ after, routeProxyData now info data false peer = some ((), after) := by
        unfold targetsOf at targets
        simp only [routeProxyData, known, Program.discard, routeIncomingData, Program.bind_apply,
          Program.withLock_free, Program.read_apply, Option.bind_some, id, if_neg passes, targets]
        split <;> exact ⟨_, rfl⟩
      obtain ⟨after, runs⟩ := done
      refine ⟨after, runs, found, ?_⟩
      intro e member
      rw [targets] at member
      cases member
  | cons target rest =>
      refine ⟨deliverTo peer data (.ofHost info.sourceIpv4 info.sourcePort) (target :: rest),
        ?_, found, ?_⟩
      · unfold targetsOf at targets
        simp only [routeProxyData, known, Program.discard, routeIncomingData, Program.bind_apply,
          Program.withLock_free, Program.read_apply, Option.bind_some, id, if_neg passes, targets,
          Program.update_apply, Program.pure_apply]
      · intro e member room
        have candidate := (targetsOf_sublist peer info protocol).subset member
        simp only [List.mem_filter, Bool.and_eq_true, decide_eq_true_eq] at candidate
        obtain ⟨registered, sameProtocol, samePort⟩ := candidate
        refine ⟨AList.mem_lookup_iff.mpr registered, sameProtocol, samePort,
          fun unicast => isBoundFor_of_mem_targetsOf unicast member, _, ?_,
          gained_incomingData small room info⟩
        have distinct := nodup_targetsOf peer info protocol
        rw [targets] at member distinct
        exact lookup_deliverTo distinct member peer data _

section Packet

variable {info : ProxyInfo} {protocol : BsdTypes.ProtocolType} {data : List UInt8}

theorem toNat_dataLength (small : data.length ≤ maxPayload) :
    (dataHeader info data).dataLength.toNat = data.length := by
  rw [maxPayload] at small
  exact UInt32.toNat_ofNat_of_lt' (lt_of_le_of_lt small (by decide))

theorem fitsBuffer_of_le (small : data.length ≤ maxPayload) : FitsBuffer data := by
  rw [maxPayload] at small
  rw [FitsBuffer, headerSize, proxyDataHeaderSize]
  omega

theorem handleProxyDataPacket_image (small : data.length ≤ maxPayload) (now : Nat) :
    handleProxyDataPacket now ((dataHeader info data).image ++ data) =
      routeProxyData now info data := by
  have long : ((dataHeader info data).image ++ data).length ≥ proxyDataHeaderSize := by
    rw [List.length_append, ProxyDataHeader.length_image, proxyDataHeaderSize]
    omega
  have payload : ((dataHeader info data).image ++ data).drop proxyDataHeaderSize = data :=
    List.drop_left' (ProxyDataHeader.length_image _)
  have whole : data.take data.length = data := List.take_length
  rw [handleProxyDataPacket, if_pos long]
  dsimp only
  rw [ProxyDataHeader.ofImage_image, payload, toNat_dataLength small, if_pos (le_refl _), whole]
  rfl

theorem processData_proxyDataPacket {header : ProxyDataHeader} (fits : FitsBuffer data) :
    processData (proxyDataPacket header data) = some (.proxyData header data) := by
  have carried : (Delivery.send 0 (proxyDataPacket header data)).Carries header data :=
    carries_proxyDataPacket fits 0
  obtain ⟨whole, type, sameHeader, sameData⟩ := carried
  have long : headerSize + proxyDataHeaderSize ≤ (proxyDataPacket header data).length := by
    rw [proxyDataPacket_of_fits fits]
    simp only [List.length_append, encodeHeader_length, ProxyDataHeader.length_image,
      proxyDataHeaderSize]
    omega
  rw [processData_proxyData whole type long, sameHeader, sameData]

theorem p2pClientProcessProxyData_packet (small : data.length ≤ maxPayload) (now : Nat) :
    p2pClientProcessProxyData now (proxyDataPacket (dataHeader info data) data) =
      routeProxyData now info data := by
  have fits : proxyDataHeaderSize + data.length ≤ 4096 := by
    rw [maxPayload] at small
    rw [proxyDataHeaderSize]
    omega
  rw [p2pClientProcessProxyData, processData_proxyDataPacket (fitsBuffer_of_le small)]
  dsimp only
  rw [p2pClientHandleProxyData, if_pos fits, handleProxyDataPacket_image small]

theorem encodeProxyData_eq (small : data.length ≤ maxPayload) :
    TcpClient.Client.encodeProxyData info data =
      (.success, proxyDataPacket (dataHeader info data) data) := by
  have fits := fitsBuffer_of_le small
  rw [maxPayload] at small
  rw [TcpClient.Client.encodeProxyData, ProtocolRoundTrip.encodeProxyData, proxyDataPacket,
    encodeWithData, encodeWithData, if_neg, if_neg]
  · rfl
  · rw [ProxyDataHeader.length_image]
    exact Nat.not_lt.mpr fits
  · rw [ProxyDataHeader.length_image, headerSize, TcpClient.sendBufferSize]
    omega

theorem length_proxyDataPacket (small : data.length ≤ maxPayload) :
    (proxyDataPacket (dataHeader info data) data).length = 32 + data.length := by
  rw [proxyDataPacket_of_fits (fitsBuffer_of_le small)]
  simp only [List.length_append, encodeHeader_length, ProxyDataHeader.length_image, headerSize]
  omega

theorem receivePacket_front (small : data.length ≤ maxPayload) {t : TcpClient.Client}
    (connected : t.socket.connected = true) {later : List UInt8}
    (front : t.recvBuffer.bytes = proxyDataPacket (dataHeader info data) data ++ later)
    (timeoutMs : Int) (turns : List TcpClient.Client.ReadTurn) :
    t.receivePacket Client.payloadBufferSize timeoutMs turns =
      (⟨.success, PacketId.proxyData.toByte, (dataHeader info data).image ++ data⟩,
        { t with recvBuffer := t.recvBuffer.consume (32 + data.length) }, turns) := by
  have length : (proxyDataPacket (dataHeader info data) data).length = 32 + data.length :=
    length_proxyDataPacket small
  have body : proxyDataPacket (dataHeader info data) data =
      encodeHeader .proxyData ((dataHeader info data).image ++ data).length ++
        ((dataHeader info data).image ++ data) :=
    proxyDataPacket_of_fits (fitsBuffer_of_le small)
  have size : ((dataHeader info data).image ++ data).length = 20 + data.length := by
    rw [List.length_append, ProxyDataHeader.length_image]
  have accepted : decodeHeader t.recvBuffer.bytes = (.success,
      ⟨protocolMagic, PacketId.proxyData.toByte, protocolVersion, 0,
        ((dataHeader info data).image ++ data).length⟩) := by
    rw [front, body, List.append_assoc]
    refine decodeHeader_encodeHeader _ ?_ _
    rw [size, maxPacketSize]
    rw [maxPayload] at small
    omega
  have complete : packetHead t.recvBuffer.bytes = .frame (32 + data.length) := by
    rw [packetHead_frame, checkCompletePacket_success, accepted]
    refine ⟨rfl, ?_, ?_⟩
    · rw [Int.toNat_natCast, size, headerSize]
      omega
    · rw [front, List.length_append, length]
      omega
  have ready : t.recvBuffer.hasCompletePacket = true :=
    (t.recvBuffer.hasCompletePacket_iff).mpr ⟨_, complete⟩
  have loop : t.receiveUntilComplete timeoutMs turns = (.success, t, turns) := by
    cases turns <;> simp only [TcpClient.Client.receiveUntilComplete, ready, if_true]
  have payload : (t.recvBuffer.bytes.drop headerSize).take
      ((dataHeader info data).image ++ data).length = (dataHeader info data).image ++ data := by
    rw [front, body, List.append_assoc, List.drop_left' (encodeHeader_length _ _), List.take_left]
  have taken : t.takePacket Client.payloadBufferSize =
      (⟨.success, PacketId.proxyData.toByte, (dataHeader info data).image ++ data⟩,
        { t with recvBuffer := t.recvBuffer.consume (32 + data.length) }) := by
    have room : ¬ ((dataHeader info data).image ++ data).length > Client.payloadBufferSize := by
      rw [size, Client.payloadBufferSize]
      rw [maxPayload] at small
      omega
    rw [TcpClient.Client.takePacket, (t.recvBuffer.peekPacketInfo_eq_success _).mpr complete]
    dsimp only
    rw [accepted]
    dsimp only
    rw [Int.toNat_natCast, if_neg room, payload]
  rw [TcpClient.Client.receivePacket, connected, loop]
  simp only [Bool.not_true, Bool.false_eq_true, if_false, taken]

theorem handsOn_send (known : protocolOf info.protocol = some protocol)
    (small : data.length ≤ maxPayload) (target : SessionId) :
    HandsOn info protocol data
      (.send target (proxyDataPacket (dataHeader info data) data)) := by
  have same : (fun now => p2pClientProcessProxyData now
      (proxyDataPacket (dataHeader info data) data)) = fun now => routeProxyData now info data := by
    funext now
    exact p2pClientProcessProxyData_packet small now
  rw [HandsOn, same]
  exact routeProxyData_delivers known small

theorem handsOn_hostCallback (known : protocolOf info.protocol = some protocol)
    (small : data.length ≤ maxPayload) :
    HandsOn info protocol data (.hostCallback info data) :=
  routeProxyData_delivers known small

end Packet

section Paths

variable {info : ProxyInfo} {protocol : BsdTypes.ProtocolType} {data : List UInt8}

theorem relayed_of_small (known : protocolOf info.protocol = some protocol)
    (small : data.length ≤ maxPayload) {t : TcpClient.Client} {later : List UInt8}
    (connected : t.socket.connected = true)
    (front : t.recvBuffer.bytes = proxyDataPacket (dataHeader info data) data ++ later)
    (timeoutMs : Int) (turns : List TcpClient.Client.ReadTurn) :
    ∃ payload rest, t.receivePacket Client.payloadBufferSize timeoutMs turns =
        (⟨.success, PacketId.proxyData.toByte, payload⟩, rest, turns) ∧
      rest.recvBuffer.bytes = later ∧
      DeliversEverywhere (fun now => handleProxyDataPacket now payload) info protocol data := by
  have consumed : t.recvBuffer.bytes.drop (32 + data.length) = later := by
    rw [front]
    exact List.drop_left' (length_proxyDataPacket small)
  have same : (fun now => handleProxyDataPacket now ((dataHeader info data).image ++ data)) =
      fun now => routeProxyData now info data := by
    funext now
    exact handleProxyDataPacket_image small now
  refine ⟨_, _, receivePacket_front small connected front timeoutMs turns, ?_, ?_⟩
  · rw [PacketBuffer.consume_bytes, consumed]
  · rw [same]
    exact routeProxyData_delivers known small

theorem hostHeader_eq_self {server : Server} {header : ProxyDataHeader}
    (nonzero : header.info.sourceIpv4 ≠ 0) (direct : header.info.destIpv4 ≠ legacyBroadcast)
    (accepted : Accepts server header) : hostHeader server header = header := by
  have own : server.hostVirtualIp = header.info.sourceIpv4 := by
    rcases accepted.2.2 with zero | own
    · exact absurd zero nonzero
    · exact own.symm
  rw [hostHeader, translateBroadcast, if_neg direct, own]

theorem hostSend_unchanged {path : DataPath} {answers : Answers} {header : ProxyDataHeader}
    (nonzero : header.info.sourceIpv4 ≠ 0) (direct : header.info.destIpv4 ≠ legacyBroadcast) :
    (hostSend path answers header data).header = header ∧
      ∀ delivery ∈ (hostSend path answers header data).sends,
        ∃ target, delivery = .send target (proxyDataPacket header data) := by
  cases host : path.p2pServer with
  | none =>
      unfold hostSend
      rw [host]
      exact ⟨rfl, by simp⟩
  | some server =>
      by_cases accepted : Accepts server header
      · have rewritten := hostHeader_eq_self nonzero direct accepted
        refine ⟨(hostSend_of_accepted host accepted).1.trans rewritten, ?_⟩
        intro delivery member
        rw [(hostSend_of_accepted host accepted).2, rewritten] at member
        split at member
        · obtain ⟨target, _, rfl⟩ := List.mem_map.mp member
          exact ⟨target, rfl⟩
        · cases member
      · rw [hostSend_of_refused host accepted]
        exact ⟨rfl, by simp⟩

theorem sendProxyDataToServer_unchanged {path : DataPath} {answers : Answers}
    {header : ProxyDataHeader} (nonzero : header.info.sourceIpv4 ≠ 0)
    (direct : header.info.destIpv4 ≠ legacyBroadcast) :
    (∀ copy, (sendProxyDataToServer path answers header data).master = some copy → copy = header) ∧
      (∀ packet, (sendProxyDataToServer path answers header data).p2pClient = some packet →
        packet = proxyDataPacket header data) ∧
      ∀ delivery ∈ (sendProxyDataToServer path answers header data).sends,
        ∃ target, delivery = .send target (proxyDataPacket header data) := by
  have same : (hostSend path answers header data).header = header :=
    (hostSend_unchanged nonzero direct).1
  have sends : ∀ delivery ∈ (hostSend path answers header data).sends,
      ∃ target, delivery = .send target (proxyDataPacket header data) :=
    (hostSend_unchanged nonzero direct).2
  unfold sendProxyDataToServer
  dsimp only
  rw [same]
  split_ifs <;> simp <;> exact sends

theorem routeMessage_unchanged {server : Server} {sender : SessionId}
    (own : (server.session sender).virtualIp = info.sourceIpv4)
    (direct : info.destIpv4 ≠ legacyBroadcast) :
    routeMessage server sender info = (info, hostTargets server info.destIpv4) := by
  have translated : translateBroadcast info.destIpv4 server.broadcastAddress = info.destIpv4 :=
    if_neg direct
  rw [routeMessage, if_neg (by tauto)]
  dsimp only
  rw [translated, own, hostTargets]
  split_ifs <;> rfl

theorem mem_hostTargets {server : Server} {destIp : UInt32} {s : SessionId}
    (member : s ∈ authenticatedSessions server) (address : (server.session s).virtualIp = destIp) :
    ∃ target ∈ hostTargets server destIp, (server.session target).virtualIp = destIp := by
  unfold hostTargets
  split_ifs with broadcast
  · exact ⟨s, member, address⟩
  · cases found : (authenticatedSessions server).find?
        (fun s => (server.session s).virtualIp == destIp) with
    | none =>
        have missed := List.find?_eq_none.mp found s member
        simp [address] at missed
    | some target =>
        exact ⟨target, by simp, by simpa using List.find?_some found⟩

theorem deliveries_unchanged {server : Server} {sender : SessionId}
    (authenticated : (server.session sender).authenticated = true)
    (own : (server.session sender).virtualIp = info.sourceIpv4)
    (direct : info.destIpv4 ≠ legacyBroadcast) (small : data.length ≤ maxPayload) :
    deliveries server server sender (proxyDataPacket (dataHeader info data) data) =
      (hostTargets server info.destIpv4).map
          (fun target => .send target (proxyDataPacket (dataHeader info data) data)) ++
        if hostShouldReceive info.destIpv4 server.hostVirtualIp server.broadcastAddress ∧
            server.hostDataCallback then
          [.hostCallback info data]
        else [] := by
  have routed : routeMessage server sender (dataHeader info data).info =
      (info, hostTargets server info.destIpv4) := routeMessage_unchanged own direct
  rw [deliveries, processData_proxyDataPacket (fitsBuffer_of_le small)]
  dsimp only
  rw [handleMessage, if_pos authenticated, handleProxyData, routed]
  rfl

theorem hosted_of_small {path : DataPath} {answers : Answers} {server : Server}
    (host : path.p2pServer = some server) (connected : path.serverConnected = true)
    (accepted : Accepts server (dataHeader info data)) (nonzero : info.sourceIpv4 ≠ 0)
    (direct : info.destIpv4 ≠ legacyBroadcast) (small : data.length ≤ maxPayload)
    {s : SessionId} (member : s ∈ authenticatedSessions server)
    (address : (server.session s).virtualIp = info.destIpv4) :
    ∃ target, (server.session target).virtualIp = info.destIpv4 ∧
      .send target (proxyDataPacket (dataHeader info data) data) ∈
        (sendProxyDataToServer path answers (dataHeader info data) data).sends := by
  obtain ⟨target, chosen, found⟩ := mem_hostTargets member address
  have unchanged : hostHeader server (dataHeader info data) = dataHeader info data :=
    hostHeader_eq_self nonzero direct accepted
  refine ⟨target, found, ?_⟩
  rw [sendProxyDataToServer_sends connected, (hostSend_of_accepted host accepted).2, unchanged,
    if_pos (fitsBuffer_of_le small)]
  exact List.mem_map.mpr ⟨target, chosen, rfl⟩

theorem survivesRelay_of_small (known : protocolOf info.protocol = some protocol)
    (nonzero : info.sourceIpv4 ≠ 0) (direct : info.destIpv4 ≠ legacyBroadcast)
    (small : data.length ≤ maxPayload) : SurvivesRelay info protocol data where
  relayed := by
    refine ⟨_, encodeProxyData_eq small, ?_, ?_⟩
    · rw [length_proxyDataPacket small]
      rw [maxPayload] at small
      omega
    · intro t later connected front timeoutMs turns
      exact relayed_of_small known small connected front timeoutMs turns
  handed := by
    intro path answers
    have unchanged : ∀ delivery ∈
        (sendProxyDataToServer path answers (dataHeader info data) data).sends,
        ∃ target, delivery = .send target (proxyDataPacket (dataHeader info data) data) :=
      (sendProxyDataToServer_unchanged nonzero direct).2.2
    refine ⟨(sendProxyDataToServer_unchanged nonzero direct).1,
      (sendProxyDataToServer_unchanged nonzero direct).2.1, ?_⟩
    intro delivery member
    obtain ⟨target, rfl⟩ := unchanged delivery member
    exact handsOn_send known small target
  hosted := by
    intro path answers server host connected accepted s member address
    exact hosted_of_small host connected accepted nonzero direct small member address
  routed := by
    intro server sender authenticated own
    rw [deliveries_unchanged authenticated own direct small]
    refine ⟨?_, ?_, ?_⟩
    · intro delivery member
      rcases List.mem_append.mp member with sent | called
      · obtain ⟨target, _, rfl⟩ := List.mem_map.mp sent
        exact handsOn_send known small target
      · split at called
        · rw [List.mem_singleton.mp called]
          exact handsOn_hostCallback known small
        · cases called
    · intro s member address
      obtain ⟨target, chosen, found⟩ := mem_hostTargets member address
      exact ⟨target, found, List.mem_append_left _ (List.mem_map.mpr ⟨target, chosen, rfl⟩)⟩
    · intro registered hostKnown toHost
      have reached : hostShouldReceive info.destIpv4 server.hostVirtualIp
          server.broadcastAddress = true := by
        rw [hostShouldReceive, translateBroadcast, if_neg direct]
        simp [hostKnown, toHost]
      rw [if_pos ⟨reached, registered⟩]
      exact List.mem_append_right _ (List.mem_singleton.mpr rfl)

end Paths

/-- The addresses and the protocol under which a socket's datagram travels. -/
structure IsDatagramOf (s : Socket) (dest : SockAddrIn) (info : ProxyInfo) : Prop where
  sourceIpv4 : info.sourceIpv4 = s.localAddr.getAddr
  sourcePort : info.sourcePort = s.localAddr.getPort
  destIpv4 : info.destIpv4 = dest.getAddr
  destPort : info.destPort = dest.getPort
  protocol : info.protocol = s.protocol.toField

theorem sendInfo_isDatagramOf (s : Socket) (dest : SockAddrIn) :
    IsDatagramOf s dest (s.sendInfo dest) := ⟨rfl, rfl, rfl, rfl, rfl⟩

theorem sendTo_accepted {s : Socket} {data : List UInt8} {dest : SockAddrIn} {m after : Manager}
    {callback : ProxyInfo → List UInt8 → Bool} {n : Nat} (registered : m.sendCallback = some callback)
    (accepted : sendTo s data dest false m = some (.ok n, after)) :
    data.length ≤ maxPayload ∧ callback (s.sendInfo dest) data = true ∧
      after.sent = m.sent ++ [.data (s.sendInfo dest) data] := by
  unfold sendTo at accepted
  cases check : s.sendToCheck true data.length with
  | some errno =>
      rw [check] at accepted
      simp at accepted
  | none =>
      have small : data.length ≤ maxPayload := by
        unfold Socket.sendToCheck at check
        split_ifs at check
        omega
      rw [check] at accepted
      simp only [sendProxyData, sendVia, Program.bind_apply, Program.withLock_free,
        Program.read_apply, Option.bind_some, registered, Option.map_some, Program.update_apply,
        Program.pure_apply, Option.some.injEq, Prod.mk.injEq] at accepted
      obtain ⟨answer, rfl⟩ := accepted
      refine ⟨small, ?_, rfl⟩
      cases sent : callback (s.sendInfo dest) data with
      | false => simp [sent] at answer
      | true => rfl

end RyuLdn.LdnDataPath
