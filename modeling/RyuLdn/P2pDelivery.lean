import RyuLdn.P2pRouting
import RyuLdn.ProtocolImages
import Mathlib.Data.List.Nodup

/-! `P2pProxySession::ProcessData` and who receives a `ProxyData` packet. The
receive loop hands over whole packets; a packet that names no handler, or is too
short for its structure, is dropped. -/
namespace RyuLdn.P2pRouting

open LittleEndian ProtocolCodec ProtocolTypes P2pServer

inductive SessionMessage where
  | externalProxy (config : ExternalProxyConfig)
  | proxyData (header : ProxyDataHeader) (data : List UInt8)
  | proxyConnect (request : ProxyInfo)
  | proxyConnectReply (response : ProxyInfo)
  | proxyDisconnect (message : ProxyDisconnectMessage)
  deriving DecidableEq

/-- `static_cast<size_t>` of the `int32_t` size. -/
def sizeOf32 (dataSize : Int) : Nat := (dataSize % 2 ^ 64).toNat

def processData (packet : List UInt8) : Option SessionMessage :=
  if packet.length < headerSize then none
  else
    let header := LdnHeader.ofImage packet
    let dataSize := sizeOf32 header.dataSize
    let payload := packet.drop headerSize
    match PacketId.ofByte header.type with
    | some .externalProxy =>
        if dataSize ≥ 38 then some (.externalProxy (.ofImage payload)) else none
    | some .proxyData =>
        if dataSize ≥ proxyDataHeaderSize then
          some (.proxyData (.ofImage payload)
            ((payload.drop proxyDataHeaderSize).take (dataSize - proxyDataHeaderSize)))
        else none
    | some .proxyConnect =>
        if dataSize ≥ proxyInfoSize then some (.proxyConnect (.ofImage payload)) else none
    | some .proxyConnectReply =>
        if dataSize ≥ proxyInfoSize then some (.proxyConnectReply (.ofImage payload)) else none
    | some .proxyDisconnect =>
        if dataSize ≥ 20 then some (.proxyDisconnect (.ofImage payload)) else none
    | _ => none

/-- `HandleProxyConnect`, `HandleProxyConnectReply` and `HandleProxyDisconnect` of the
server; none of them looks for the host. -/
def handleControl (server : Server) (sender : SessionId) (type : PacketId) (info : ProxyInfo)
    (image : ProxyInfo → List UInt8) : List Delivery :=
  let (info, targets) := routeMessage server sender info
  targets.map (fun target => Delivery.send target (encode 256 type (image info)).2)

/-- The handlers of `P2pProxySession`: only an authenticated session is routed. -/
def handleMessage (routing callback : Server) (sender : SessionId) :
    SessionMessage → List Delivery
  | .externalProxy _ => []
  | .proxyData header data =>
      if (routing.session sender).authenticated then
        handleProxyData routing callback sender header data
      else []
  | .proxyConnect request =>
      if (routing.session sender).authenticated then
        handleControl routing sender .proxyConnect request ProxyInfo.image
      else []
  | .proxyConnectReply response =>
      if (routing.session sender).authenticated then
        handleControl routing sender .proxyConnectReply response ProxyInfo.image
      else []
  | .proxyDisconnect message =>
      if (routing.session sender).authenticated then
        handleControl routing sender .proxyDisconnect message.info
          (fun info => ProxyDisconnectMessage.image { message with info := info })
      else []

def deliveries (routing callback : Server) (sender : SessionId) (packet : List UInt8) :
    List Delivery :=
  match processData packet with
  | some message => handleMessage routing callback sender message
  | none => []

/-- The broadcast address of the network `Configure` was given. -/
def subnetBroadcast (config : ProxyConfig) : UInt32 := config.proxyIp ||| ~~~config.proxySubnetMask

def IsBroadcast (config : ProxyConfig) (destIp : UInt32) : Prop :=
  destIp = subnetBroadcast config ∨ destIp = legacyBroadcast

instance (config : ProxyConfig) (destIp : UInt32) : Decidable (IsBroadcast config destIp) :=
  inferInstanceAs (Decidable (_ ∨ _))

def receivedHeader (packet : List UInt8) : ProxyDataHeader :=
  .ofImage (packet.drop headerSize)

def receivedPayload (packet : List UInt8) : List UInt8 :=
  packet.drop (headerSize + proxyDataHeaderSize)

def forwardedHeader (config : ProxyConfig) (virtualIp : UInt32) (header : ProxyDataHeader) :
    ProxyDataHeader :=
  { header with info := { header.info with
      sourceIpv4 := virtualIp
      destIpv4 := if header.info.destIpv4 = legacyBroadcast then subnetBroadcast config
        else header.info.destIpv4 } }

def Delivery.isSendTo (s : SessionId) : Delivery → Bool
  | .send target _ => target == s
  | .hostCallback _ _ => false

def Delivery.isHostCallback : Delivery → Bool
  | .send _ _ => false
  | .hostCallback _ _ => true

/-- A send carries a whole `ProxyData` packet with this header and payload. -/
def Delivery.Carries (header : ProxyDataHeader) (data : List UInt8) : Delivery → Prop
  | .send _ packet => IsPacket packet ∧ (LdnHeader.ofImage packet).type = PacketId.proxyData.toByte ∧
      receivedHeader packet = header ∧ receivedPayload packet = data
  | .hostCallback info payload => info = header.info ∧ payload = data

/-- Every session and the host get exactly the copies meant for them. -/
structure DeliveredExactly (server : Server) (config : ProxyConfig) (sender : SessionId)
    (packet : List UInt8) (handed : List Delivery) : Prop where
  sessions : ∀ s, handed.countP (Delivery.isSendTo s) =
    if s ∈ authenticatedSessions server ∧
        (IsBroadcast config (receivedHeader packet).info.destIpv4 ∨
          (server.session s).virtualIp = (receivedHeader packet).info.destIpv4) then 1 else 0
  host : handed.countP Delivery.isHostCallback =
    if server.hostDataCallback ∧ (IsBroadcast config (receivedHeader packet).info.destIpv4 ∨
        server.hostVirtualIp ≠ 0 ∧
          (receivedHeader packet).info.destIpv4 = server.hostVirtualIp) then 1 else 0
  carried : ∀ delivery ∈ handed, delivery.Carries
    (forwardedHeader config (server.session sender).virtualIp (receivedHeader packet))
    (receivedPayload packet)

theorem toList_find?_eq_filter {α β : Type*} [DecidableEq β] {key : α → β} {l : List α}
    (distinct : (l.map key).Nodup) (k : β) :
    (l.find? (fun a => key a == k)).toList = l.filter (fun a => key a == k) := by
  induction l with
  | nil => rfl
  | cons a l ih =>
      rw [List.map_cons, List.nodup_cons] at distinct
      by_cases here : key a = k
      · have others : l.filter (fun a => key a == k) = [] := by
          rw [List.filter_eq_nil_iff]
          intro b member same
          have clash : key b = key a := (beq_iff_eq.mp same).trans here.symm
          exact distinct.1 (clash ▸ List.mem_map_of_mem member)
        simp [here, others]
      · simp [here, ih distinct.2]

section Routing

variable {server : Server} {config : ProxyConfig} {sender : SessionId}

theorem translateBroadcast_eq_iff (configured : server.broadcastAddress = subnetBroadcast config)
    (destIp : UInt32) :
    translateBroadcast destIp server.broadcastAddress = server.broadcastAddress ↔
      IsBroadcast config destIp := by
  rw [translateBroadcast, IsBroadcast, configured]
  split_ifs with legacy
  · simp [legacy]
  · simp [legacy]

theorem routeMessage_eq (configured : server.broadcastAddress = subnetBroadcast config)
    (distinct : ((authenticatedSessions server).map
      (fun s => (server.session s).virtualIp)).Nodup)
    {header : ProxyDataHeader} (own : header.info.sourceIpv4 = 0 ∨
      header.info.sourceIpv4 = (server.session sender).virtualIp) :
    routeMessage server sender header.info =
      ((forwardedHeader config (server.session sender).virtualIp header).info,
        (authenticatedSessions server).filter (fun s =>
          decide (IsBroadcast config header.info.destIpv4) ||
            (server.session s).virtualIp == header.info.destIpv4)) := by
  have forwarded : ({ header.info with
      sourceIpv4 := (server.session sender).virtualIp
      destIpv4 := translateBroadcast header.info.destIpv4 server.broadcastAddress } : ProxyInfo) =
      (forwardedHeader config (server.session sender).virtualIp header).info := by
    rw [configured]
    rfl
  rw [routeMessage, if_neg (by tauto)]
  dsimp only
  rw [forwarded]
  by_cases broadcast : IsBroadcast config header.info.destIpv4
  · rw [if_pos ((translateBroadcast_eq_iff configured _).mpr broadcast)]
    simp [broadcast]
  · rw [if_neg (fun same => broadcast ((translateBroadcast_eq_iff configured _).mp same))]
    have direct : translateBroadcast header.info.destIpv4 server.broadcastAddress =
        header.info.destIpv4 := if_neg (fun legacy => broadcast (.inr legacy))
    rw [direct, toList_find?_eq_filter distinct]
    simp [broadcast]

theorem hostShouldReceive_iff (configured : server.broadcastAddress = subnetBroadcast config)
    (virtualIp : UInt32) (header : ProxyDataHeader) :
    hostShouldReceive (forwardedHeader config virtualIp header).info.destIpv4
        server.hostVirtualIp server.broadcastAddress = true ↔
      IsBroadcast config header.info.destIpv4 ∨
        server.hostVirtualIp ≠ 0 ∧ header.info.destIpv4 = server.hostVirtualIp := by
  have again : translateBroadcast (forwardedHeader config virtualIp header).info.destIpv4
      server.broadcastAddress = translateBroadcast header.info.destIpv4 server.broadcastAddress := by
    simp only [forwardedHeader, translateBroadcast, configured]
    split_ifs <;> simp_all
  rw [hostShouldReceive, again]
  simp only [Bool.or_eq_true, beq_iff_eq, translateBroadcast_eq_iff configured, Bool.and_eq_true,
    bne_iff_ne]
  by_cases broadcast : IsBroadcast config header.info.destIpv4
  · simp [broadcast]
  · have direct : translateBroadcast header.info.destIpv4 server.broadcastAddress =
        header.info.destIpv4 := if_neg (fun legacy => broadcast (.inr legacy))
    rw [direct]

end Routing

theorem proxyDataPacket_of_fits {header : ProxyDataHeader} {data : List UInt8}
    (fits : headerSize + proxyDataHeaderSize + data.length ≤ 4096) :
    proxyDataPacket header data =
      encodeHeader .proxyData (header.image ++ data).length ++ (header.image ++ data) := by
  rw [proxyDataPacket, encodeWithData, if_neg]
  · simp [List.append_assoc]
  · rw [ProxyDataHeader.length_image]
    exact Nat.not_lt.mpr fits

theorem carries_proxyDataPacket {header : ProxyDataHeader} {data : List UInt8}
    (fits : headerSize + proxyDataHeaderSize + data.length ≤ 4096) (target : SessionId) :
    (Delivery.send target (proxyDataPacket header data)).Carries header data := by
  have short : (header.image ++ data).length ≤ maxPacketSize := by
    rw [List.length_append, ProxyDataHeader.length_image]
    simp only [headerSize, proxyDataHeaderSize, maxPacketSize] at *
    omega
  have body : (proxyDataPacket header data).drop headerSize = header.image ++ data := by
    rw [proxyDataPacket_of_fits fits, List.drop_left' (encodeHeader_length _ _)]
  refine ⟨?_, ?_, ?_, ?_⟩
  · rw [proxyDataPacket_of_fits fits]
    exact isPacket_encode _ short
  · rw [proxyDataPacket_of_fits fits, ofImage_encodeHeader _ (lt_of_le_of_lt short (by decide))]
  · rw [receivedHeader, body, ProxyDataHeader.ofImage_image]
  · rw [receivedPayload, ← List.drop_drop, body]
    exact List.drop_left' (ProxyDataHeader.length_image header)

theorem isPacket_length {packet : List UInt8} (whole : IsPacket packet) :
    packet.length = headerSize + sizeOf32 (LdnHeader.ofImage packet).dataSize := by
  rw [isPacket_iff, packetHead_frame, checkCompletePacket_success] at whole
  obtain ⟨accepted, size, _⟩ := whole
  have long := headerSize_le_of_success accepted
  rw [decodeHeader_of_length long] at accepted size
  have inRange : ¬ ((LdnHeader.ofImage packet).dataSize < 0 ∨
      (LdnHeader.ofImage packet).dataSize.toNat > maxPacketSize) := by
    intro outside
    simp only [LdnHeader.check, if_pos outside] at accepted
    split_ifs at accepted
  obtain ⟨nonneg, small⟩ := not_or.mp inRange
  have same : sizeOf32 (LdnHeader.ofImage packet).dataSize =
      (LdnHeader.ofImage packet).dataSize.toNat := by
    rw [sizeOf32, Int.emod_eq_of_lt (by omega)]
    simp only [maxPacketSize] at small
    omega
  rw [same, ← size]

theorem processData_proxyData {packet : List UInt8} (whole : IsPacket packet)
    (type : (LdnHeader.ofImage packet).type = PacketId.proxyData.toByte)
    (long : headerSize + proxyDataHeaderSize ≤ packet.length) :
    processData packet = some (.proxyData (receivedHeader packet) (receivedPayload packet)) := by
  have size := isPacket_length whole
  have data : (receivedPayload packet).take
      (sizeOf32 (LdnHeader.ofImage packet).dataSize - proxyDataHeaderSize) =
        receivedPayload packet := by
    apply List.take_of_length_le
    rw [receivedPayload, List.length_drop]
    omega
  rw [processData, if_neg (by omega)]
  dsimp only
  rw [type, PacketId.ofByte_toByte]
  dsimp only
  rw [if_pos (by omega), List.drop_drop]
  exact congrArg (fun data => some (SessionMessage.proxyData (receivedHeader packet) data)) data

theorem countP_isSendTo_map (targets : List SessionId) (bytes : List UInt8) (s : SessionId) :
    (targets.map (fun target => Delivery.send target bytes)).countP (Delivery.isSendTo s) =
      targets.count s := by
  rw [List.countP_map]
  rfl

/-- A `ProxyData` packet from an authenticated session, under its own address or
none, reaches exactly the sessions and the host it is meant for, unchanged but for
the two addresses. -/
theorem proxyData_deliveredExactly {server : Server} {config : ProxyConfig} {sender : SessionId}
    {packet : List UInt8}
    (configured : server.broadcastAddress = config.proxyIp ||| ~~~config.proxySubnetMask)
    (distinct : ((authenticatedSessions server).map
      (fun s => (server.session s).virtualIp)).Nodup)
    (authenticated : (server.session sender).authenticated = true)
    (whole : IsPacket packet)
    (type : (LdnHeader.ofImage packet).type = PacketId.proxyData.toByte)
    (long : headerSize + proxyDataHeaderSize ≤ packet.length) (small : packet.length ≤ 4096)
    (own : (receivedHeader packet).info.sourceIpv4 = 0 ∨
      (receivedHeader packet).info.sourceIpv4 = (server.session sender).virtualIp) :
    DeliveredExactly server config sender packet (deliveries server server sender packet) := by
  have routed := routeMessage_eq configured distinct own
  have reaches := hostShouldReceive_iff configured (server.session sender).virtualIp
    (receivedHeader packet)
  have fits : headerSize + proxyDataHeaderSize + (receivedPayload packet).length ≤ 4096 := by
    rw [receivedPayload, List.length_drop]
    omega
  have once : (authenticatedSessions server).Nodup := List.Nodup.of_map _ distinct
  rw [deliveries, processData_proxyData whole type long]
  simp only [handleMessage, authenticated, if_true, handleProxyData, routed]
  refine ⟨?_, ?_, ?_⟩
  · intro s
    have noSend : ∀ (reached : Prop) [Decidable reached] (info : ProxyInfo) (data : List UInt8),
        (if reached then [Delivery.hostCallback info data] else []).countP
          (Delivery.isSendTo s) = 0 := by
      intro reached _ info data
      split <;> rfl
    rw [List.countP_append, noSend, countP_isSendTo_map, (once.filter _).count]
    simp only [List.mem_filter, Bool.or_eq_true, decide_eq_true_eq, beq_iff_eq, Nat.add_zero]
  · have noCallback : ∀ (targets : List SessionId) (bytes : List UInt8),
        (targets.map (fun target => Delivery.send target bytes)).countP
          Delivery.isHostCallback = 0 := by
      intro targets bytes
      rw [List.countP_eq_zero]
      intro delivery member
      obtain ⟨target, _, rfl⟩ := List.mem_map.mp member
      exact Bool.false_ne_true
    rw [List.countP_append, noCallback, Nat.zero_add]
    simp only [reaches, and_comm (a := server.hostDataCallback = true)]
    split <;> rfl
  · intro delivery member
    rcases List.mem_append.mp member with sent | called
    · obtain ⟨target, _, rfl⟩ := List.mem_map.mp sent
      exact carries_proxyDataPacket fits target
    · split at called
      · rw [List.mem_singleton.mp called]
        exact ⟨rfl, rfl⟩
      · cases called

/-- The joiners 10.114.0.2 and 10.114.0.3 and the host each get the first joiner's
packet to 192.168.0.255. -/
theorem proxyData_deliveredExactly_two_joiners :
    let server : Server := { Server.start false with
      sessions := some 0 :: some 1 :: List.replicate 6 none
      sessionCount := 2
      session := fun s => ⟨0xC0A80105, if s = 0 then 0x0A720002 else 0x0A720003, some s, true, true,
        false, some s, false⟩
      allocated := 2
      broadcastAddress := 0x0A72FFFF
      hostVirtualIp := 0x0A720001
      hostDataCallback := true }
    let packet := proxyDataPacket ⟨⟨0, 5000, legacyBroadcast, 5000, 17⟩, 1⟩ [42]
    (deliveries server server 0 packet).length = 3 ∧
      DeliveredExactly server ⟨0x0A720002, 0xFFFF0000⟩ 0 packet
        (deliveries server server 0 packet) := by
  intro server packet
  have three : (deliveries server server 0 packet).length = 3 := by decide +kernel
  have distinct : ((authenticatedSessions server).map
      (fun s => (server.session s).virtualIp)).Nodup := by decide +kernel
  have whole : IsPacket packet := by decide +kernel
  have type : (LdnHeader.ofImage packet).type = PacketId.proxyData.toByte := by decide +kernel
  have long : headerSize + proxyDataHeaderSize ≤ packet.length := by decide +kernel
  have small : packet.length ≤ 4096 := by decide +kernel
  have own : (receivedHeader packet).info.sourceIpv4 = 0 := by decide +kernel
  exact ⟨three, proxyData_deliveredExactly (by decide) distinct rfl whole type long small (.inl own)⟩

end RyuLdn.P2pRouting
