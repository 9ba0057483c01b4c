import RyuLdn.P2pAuthentication
import RyuLdn.P2pClientRuns

/-! A joiner and its host: one `P2pProxyClient`, the `P2pProxySession` that was accepted
for it, and the two byte streams of the connection between them, which the readers cut
wherever they like. The other sessions of the host and all its threads go on meanwhile.

`up` and `down` are the packets put on the connection in each direction, `upRead` and
`downRead` the bytes the other side's `recv` has returned so far. -/
namespace RyuLdn.P2pJoin

open LittleEndian P2pServer ProtocolCodec ProtocolTypes StreamFraming StreamReassembly
open TransitionSystem

def Carries (type : PacketId) (packet : List UInt8) : Prop :=
  IsPacket packet ∧ (LdnHeader.ofImage packet).type = type.toByte

theorem carries_encode (type : PacketId) {payload : List UInt8} (fits : payload.length ≤ 244) :
    (encode 256 type payload).2 = encodeHeader type payload.length ++ payload ∧
      Carries type (encode 256 type payload).2 := by
  have room : ¬ 256 < headerSize + payload.length := by
    simp only [headerSize]
    omega
  have short : payload.length ≤ maxPacketSize := by
    simp only [maxPacketSize]
    omega
  rw [encode, if_neg room]
  refine ⟨rfl, isPacket_encode type short, ?_⟩
  rw [ofImage_encodeHeader _ (lt_of_le_of_lt short (by decide))]

theorem carries_encodeWithData (header : ProxyDataHeader) (data : List UInt8) :
    P2pRouting.proxyDataPacket header data = [] ∨
      Carries .proxyData (P2pRouting.proxyDataPacket header data) := by
  by_cases fits : headerSize + proxyDataHeaderSize + data.length ≤ 4096
  · right
    obtain ⟨whole, type, _⟩ := P2pRouting.carries_proxyDataPacket fits 0
    exact ⟨whole, type⟩
  · left
    rw [P2pRouting.proxyDataPacket, encodeWithData, if_pos]
    rw [ProxyDataHeader.length_image]
    exact Nat.not_le.mp fits

theorem configOf_of_carries {type : PacketId} {packet : List UInt8} (carries : Carries type packet)
    (other : type ≠ .proxyConfig) : P2pClient.configOf packet = none := by
  rw [P2pClient.configOf, P2pClient.processData]
  dsimp only
  rw [carries.2, PacketId.ofByte_toByte]
  cases type <;> simp only at other ⊢ <;> split_ifs <;> simp_all

theorem not_externalProxy_of_carries {type : PacketId} {packet : List UInt8}
    (carries : Carries type packet) (other : type ≠ .externalProxy) (config : ExternalProxyConfig) :
    P2pRouting.processData packet ≠ some (.externalProxy config) := by
  rw [P2pRouting.processData]
  dsimp only
  rw [carries.2, PacketId.ofByte_toByte]
  cases type <;> simp only at other ⊢ <;> split_ifs <;> simp_all

theorem proxyConfigOfImage_image (config : ProxyConfig) :
    P2pClient.proxyConfigOfImage config.image = config := by
  have ip := field_bytes32 config.proxyIp [] (bytes 4 config.proxySubnetMask.toNat)
  have mask := field_bytes32 config.proxySubnetMask (bytes 4 config.proxyIp.toNat) []
  simp only [List.nil_append, List.length_nil, bytes_length, List.append_nil] at ip mask
  rw [P2pClient.proxyConfigOfImage, ProxyConfig.image, ip, mask, UInt32.ofNat_toNat,
    UInt32.ofNat_toNat]

theorem length_proxyConfig_image (config : ProxyConfig) : config.image.length = 8 := by
  rw [ProxyConfig.image, List.length_append, bytes_length, bytes_length]

theorem carries_proxyConfigPacket (config : ProxyConfig) :
    Carries .proxyConfig (proxyConfigPacket config) :=
  (carries_encode .proxyConfig (by rw [length_proxyConfig_image]; omega)).2

theorem processData_parts (type : PacketId) {payload : List UInt8} (fits : payload.length ≤ 244) :
    ¬ (encode 256 type payload).2.length < headerSize ∧
      LdnHeader.ofImage (encode 256 type payload).2 =
        ⟨protocolMagic, type.toByte, protocolVersion, 0, payload.length⟩ ∧
      P2pRouting.sizeOf32 payload.length = payload.length ∧
      (encode 256 type payload).2.drop headerSize = payload := by
  rw [(carries_encode type fits).1]
  refine ⟨?_, ?_, ?_, ?_⟩
  · rw [List.length_append, encodeHeader_length]
    omega
  · exact ofImage_encodeHeader type (by omega) payload
  · rw [P2pRouting.sizeOf32]
    omega
  · exact List.drop_left' (encodeHeader_length _ _)

theorem configOf_proxyConfigPacket (config : ProxyConfig) :
    P2pClient.configOf (proxyConfigPacket config) = some config := by
  have size := length_proxyConfig_image config
  obtain ⟨long, header, room, body⟩ :=
    @processData_parts .proxyConfig config.image (by omega)
  rw [P2pClient.configOf, P2pClient.processData, proxyConfigPacket, if_neg long, header, body]
  dsimp only
  rw [PacketId.ofByte_toByte, room, size, proxyConfigOfImage_image]
  rfl

def authImage (config : ExternalProxyConfig) : List UInt8 :=
  config.proxyIp.bytes ++ bytes 4 config.addressFamily.toNat ++ bytes 2 config.proxyPort.toNat ++
    config.token.bytes

theorem length_authImage (config : ExternalProxyConfig) : (authImage config).length = 38 := by
  simp [authImage, config.proxyIp.length_eq, config.token.length_eq]

theorem ofImage_octets {n : Nat} (octets : Octets n) (front rest : List UInt8) :
    Octets.ofImage n (front ++ (octets.bytes ++ rest)) front.length = octets := by
  have long : n ≤ (octets.bytes ++ rest).length := by
    rw [List.length_append, octets.length_eq]
    omega
  ext1
  show List.takeD n ((front ++ (octets.bytes ++ rest)).drop front.length) 0 = octets.bytes
  rw [List.drop_left, List.takeD_eq_take _ long, List.take_left' octets.length_eq]

theorem ofImage_authImage (config : ExternalProxyConfig) :
    ExternalProxyConfig.ofImage (authImage config) = config := by
  have ip := ofImage_octets config.proxyIp [] (bytes 4 config.addressFamily.toNat ++
    (bytes 2 config.proxyPort.toNat ++ config.token.bytes))
  have family := field_bytes32 config.addressFamily config.proxyIp.bytes
    (bytes 2 config.proxyPort.toNat ++ config.token.bytes)
  have port := field_bytes16 config.proxyPort
    (config.proxyIp.bytes ++ bytes 4 config.addressFamily.toNat) config.token.bytes
  have token := ofImage_octets config.token (config.proxyIp.bytes ++
    bytes 4 config.addressFamily.toNat ++ bytes 2 config.proxyPort.toNat) []
  simp only [List.length_append, bytes_length, List.length_nil, List.nil_append,
    List.append_assoc, config.proxyIp.length_eq, Nat.reduceAdd, List.append_nil] at ip family port token
  simp only [ExternalProxyConfig.ofImage, authImage, List.append_assoc, ip, family, port, token,
    UInt32.ofNat_toNat, UInt16.ofNat_toNat]

theorem carries_authPacket (config : ExternalProxyConfig) :
    Carries .externalProxy (P2pClient.authPacket config) :=
  (carries_encode .externalProxy (by rw [← authImage, length_authImage]; omega)).2

theorem processData_authPacket (config : ExternalProxyConfig) :
    P2pRouting.processData (P2pClient.authPacket config) = some (.externalProxy config) := by
  have size := length_authImage config
  obtain ⟨long, header, room, body⟩ :=
    @processData_parts .externalProxy (authImage config) (by omega)
  rw [P2pRouting.processData, P2pClient.authPacket, ← authImage, if_neg long, header, body]
  dsimp only
  rw [PacketId.ofByte_toByte, room, size, ofImage_authImage]
  rfl

/-- The configuration `HandleExternalProxy` is called with, for the packets that reach it. -/
def authOf (packet : List UInt8) : Option ExternalProxyConfig :=
  match P2pRouting.processData packet with
  | some (.externalProxy config) => some config
  | _ => none

def hostBufferSize : Nat := 0x1000

structure Enrolment where
  config : ExternalProxyConfig
  token : ExternalProxyToken
  virtualIp : UInt32
  deriving DecidableEq

def Enrolment.proxyConfig (e : Enrolment) : ProxyConfig := ⟨e.virtualIp, 0xFFFF0000⟩

/-- `hostProcessed`, `auths` and `enrolments` are logs: the packets the session's
`ProcessData` was called on, the `PerformAuth` calls that sent their packet, and the
registrations of the session. -/
structure Join where
  host : P2pServerRuns.State
  hostBuffer : PacketBuffer hostBufferSize
  joiner : P2pClient.State
  up : List (List UInt8)
  down : List (List UInt8)
  upRead : List UInt8
  downRead : List UInt8
  hostProcessed : List (List UInt8)
  auths : List ExternalProxyConfig
  enrolments : List Enrolment

inductive Action where
  | host (a : P2pServerRuns.Action)
  | forward (message : P2pClient.Outgoing)
  | hostRecv (chunk : List UInt8)
  | hostProcess
  /-- `sent` is whether the blocking `send` took the packet or failed. -/
  | performAuth (config : ExternalProxyConfig) (sent : Bool)
  | send (message : P2pClient.Outgoing) (sent : Bool)
  | joiner (a : P2pClient.Action)
  | joinerRecv (chunk : List UInt8)
  deriving DecidableEq

def emit (stream : List (List UInt8)) (packet : List UInt8) : List (List UInt8) :=
  if packet = [] then stream else stream ++ [packet]

def sentTo (s : SessionId) (server : Server) : List (List UInt8) :=
  (server.sent.filter (·.1 = s)).map (·.2)

def enrolled (s : SessionId) (host next : P2pServerRuns.State) :
    P2pServerRuns.Action → Option Enrolment
  | .attempt r =>
      match host.thread s with
      | .registering config (_ + 1) =>
          if r = s then
            (P2pAuthentication.firstWaiting host.server config).map fun i =>
              ⟨config, (host.server.waitingTokens.entries.getD i default).token,
                (next.server.session s).virtualIp⟩
          else none
      | _ => none
  | _ => none

def Join.hostStep (s : SessionId) (st : Join) (a : P2pServerRuns.Action) : Option Join :=
  (P2pServerRuns.step st.host a).map fun next =>
    { st with
      host := next
      down := st.down ++ (sentTo s next.server).drop (sentTo s st.host.server).length
      enrolments := st.enrolments ++ (enrolled s st.host next a).toList }

/-- The joiner's call gets to `send` on an open connection, and `send` takes the packet. -/
def Join.reaches (st : Join) (sent : Bool) : Bool :=
  sent && st.joiner.client.connected && st.joiner.client.socketFd.isSome

def taken (packet : List UInt8) (sent : Bool) : Option Nat :=
  if sent then some packet.length else none

def ownStep : P2pClient.Action → Bool
  | .connect .. | .connectResumes .. | .performAuth .. | .send .. | .recv (some _) => false
  | _ => true

def step (s : SessionId) (st : Join) : Action → Option Join
  | .host a =>
      match a with
      | .externalProxy r _ => if r = s then none else st.hostStep s a
      | _ => st.hostStep s a
  | .forward message =>
      if (st.host.server.session s).canSend then some { st with down := emit st.down message.packet }
      else none
  | .hostRecv chunk =>
      if st.host.thread s = .receiving ∧ chunk ≠ [] ∧ chunk.length ≤ hostBufferSize ∧
          st.upRead ++ chunk <+: st.up.flatten then
        match st.hostBuffer.append chunk with
        | (.success, buffer) => some { st with hostBuffer := buffer, upRead := st.upRead ++ chunk }
        | _ => st.hostStep s (.receiveEnds s)
      else none
  | .hostProcess =>
      if st.host.thread s = .receiving ∧ (st.host.server.session s).connected then
        match st.hostBuffer.peekPacket with
        | none =>
            if st.hostBuffer.peekPacketInfo.1 = .invalidPacket then st.hostStep s (.receiveEnds s)
            else none
        | some packetSize =>
            let packet := st.hostBuffer.bytes.take packetSize
            let processed := { st with
              hostBuffer := st.hostBuffer.consume packetSize
              hostProcessed := st.hostProcessed ++ [packet] }
            match authOf packet with
            | some config => processed.hostStep s (.externalProxy s config)
            | none => some processed
      else none
  | .performAuth config sent =>
      let packet := P2pClient.authPacket config
      (P2pClient.step st.joiner (.performAuth config (taken packet sent))).map fun joiner =>
        { st with
          joiner := joiner
          up := if st.reaches sent then emit st.up packet else st.up
          auths := if st.reaches sent then st.auths ++ [config] else st.auths }
  | .send message sent =>
      (P2pClient.step st.joiner (.send message.packet (taken message.packet sent))).map
        fun joiner =>
          { st with
            joiner := joiner
            up := if st.reaches sent then emit st.up message.packet else st.up }
  | .joiner a =>
      if ownStep a then
        (P2pClient.step st.joiner a).map fun joiner => { st with joiner := joiner }
      else none
  | .joinerRecv chunk =>
      if st.downRead ++ chunk <+: st.down.flatten then
        (P2pClient.step st.joiner (.recv (some chunk))).map fun joiner =>
          { st with joiner := joiner, downRead := st.downRead ++ chunk }
      else none

/-- A connection that has just been made: the host, in whatever state it is, accepts it
as session `s`, and `Connect` of a new client returns. -/
def Join.start (host : P2pServerRuns.State) (joiner : P2pClient.State) : Join where
  host := host
  hostBuffer := PacketBuffer.reset
  joiner := joiner
  up := []
  down := []
  upRead := []
  downRead := []
  hostProcessed := []
  auths := []
  enrolments := []

structure Starts (s : SessionId) (st : Join) : Prop where
  accepted : ∃ host fd remoteIp, (host.server.accept fd remoteIp true).2 = some s ∧
    P2pServerRuns.step host (.accept fd remoteIp true) = some st.host
  connected : ∃ caller ipLen fd, P2pClient.passesChecks P2pClient.init ipLen = true ∧
    st.joiner = P2pClient.init.connect caller ipLen (some fd) .established true
  fresh : st = Join.start st.host st.joiner

def readFits (st : Join) : Action → Bool
  | .joinerRecv chunk =>
      st.joiner.client.recvBuffer.bytes.length + chunk.length ≤ P2pClient.recvBufferSize
  | _ => true

end RyuLdn.P2pJoin
