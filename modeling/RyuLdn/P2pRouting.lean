import RyuLdn.P2pServer

/-! `ProxyData` at the P2P host. `RouteMessage` canonicalises the addresses, or
returns early for a packet that names somebody else as its source, and the caller
cannot tell which; the in-process path to the host's own game is decided after it,
in a second critical section. The two sections are given the server each of them
finds. -/
namespace RyuLdn.P2pRouting

open LittleEndian ProtocolCodec ProtocolTypes P2pServer

def legacyBroadcast : UInt32 := 0xc0a800ff

def translateBroadcast (destIp broadcastAddress : UInt32) : UInt32 :=
  if destIp = legacyBroadcast then broadcastAddress else destIp

/-- The sessions of `m_sessions` that are authenticated, in slot order. -/
def authenticatedSessions (server : Server) : List SessionId :=
  server.sessions.reduceOption.filter (fun s => (server.session s).authenticated)

/-- `info` as `RouteMessage` leaves it and the sessions `send_func` is called for. -/
def routeMessage (server : Server) (sender : SessionId) (info : ProxyInfo) :
    ProxyInfo × List SessionId :=
  let virtualIp := (server.session sender).virtualIp
  if info.sourceIpv4 ≠ 0 ∧ info.sourceIpv4 ≠ virtualIp then (info, [])
  else
    let destIp := translateBroadcast info.destIpv4 server.broadcastAddress
    let routed := { info with sourceIpv4 := virtualIp, destIpv4 := destIp }
    if destIp = server.broadcastAddress then (routed, authenticatedSessions server)
    else
      (routed, ((authenticatedSessions server).find?
        (fun s => (server.session s).virtualIp == destIp)).toList)

def hostShouldReceive (destIp hostVip broadcastAddress : UInt32) : Bool :=
  let destIp := translateBroadcast destIp broadcastAddress
  destIp == broadcastAddress || (hostVip != 0 && destIp == hostVip)

inductive Delivery where
  | send (target : SessionId) (packet : List UInt8)
  | hostCallback (info : ProxyInfo) (data : List UInt8)
  deriving DecidableEq

/-- A packet too large for the 4096-byte buffer is refused by the encoder, and `Send`
is called with length zero. -/
def proxyDataPacket (header : ProxyDataHeader) (data : List UInt8) : List UInt8 :=
  (encodeWithData 4096 .proxyData header.image data).2

/-- `routing` is the server `RouteMessage` locks, `callback` the one the second section locks. -/
def handleProxyData (routing callback : Server) (sender : SessionId) (header : ProxyDataHeader)
    (data : List UInt8) : List Delivery :=
  let (info, targets) := routeMessage routing sender header.info
  let header := { header with info := info }
  targets.map (fun target => Delivery.send target (proxyDataPacket header data)) ++
    if hostShouldReceive info.destIpv4 callback.hostVirtualIp callback.broadcastAddress ∧
        callback.hostDataCallback then
      [.hostCallback info data]
    else []

/-- The delivery names `virtualIp` as its source; an empty send carries no packet. -/
def Delivery.HasSource (virtualIp : UInt32) : Delivery → Prop
  | .send _ packet => packet = [] ∨ field packet headerSize 4 = virtualIp.toNat
  | .hostCallback info _ => info.sourceIpv4 = virtualIp

/-- No delivery under a foreign source, and none at all for a packet that claims one. -/
def NoSpoofedDelivery (routing callback : Server) (sender : SessionId) (header : ProxyDataHeader)
    (data : List UInt8) : Prop :=
  let virtualIp := (routing.session sender).virtualIp
  let deliveries := handleProxyData routing callback sender header data
  (∀ delivery ∈ deliveries, delivery.HasSource virtualIp) ∧
    (header.info.sourceIpv4 ≠ 0 → header.info.sourceIpv4 ≠ virtualIp → deliveries = [])

theorem field_proxyDataPacket (header : ProxyDataHeader) (data : List UInt8) :
    proxyDataPacket header data = [] ∨
      field (proxyDataPacket header data) headerSize 4 = header.info.sourceIpv4.toNat := by
  rw [proxyDataPacket, encodeWithData]
  split
  · exact .inl rfl
  · right
    have front : (encodeHeader .proxyData (header.image.length + data.length) ++ header.image ++
        data).drop headerSize = header.image ++ data := by
      rw [List.append_assoc, List.drop_left' (encodeHeader_length _ _)]
    have source : (header.image ++ data).take 4 = bytes 4 header.info.sourceIpv4.toNat := by
      rw [ProxyDataHeader.image, ProxyInfo.image]
      simp only [List.append_assoc]
      exact List.take_left' (bytes_length _ _)
    rw [field, front, source]
    exact value_bytes_of_lt header.info.sourceIpv4.toNat_lt

theorem routeMessage_of_spoofed {server : Server} {sender : SessionId} {info : ProxyInfo}
    (nonzero : info.sourceIpv4 ≠ 0) (foreign : info.sourceIpv4 ≠ (server.session sender).virtualIp) :
    routeMessage server sender info = (info, []) := by
  rw [routeMessage, if_pos ⟨nonzero, foreign⟩]

theorem routeMessage_sourceIpv4 {server : Server} {sender : SessionId} {info : ProxyInfo}
    (own : info.sourceIpv4 = 0 ∨ info.sourceIpv4 = (server.session sender).virtualIp) :
    (routeMessage server sender info).1.sourceIpv4 = (server.session sender).virtualIp := by
  rw [routeMessage, if_neg (by tauto)]
  dsimp only
  split <;> rfl

theorem handleProxyData_of_spoofed {routing callback : Server} {sender : SessionId}
    {header : ProxyDataHeader} (data : List UInt8) (nonzero : header.info.sourceIpv4 ≠ 0)
    (foreign : header.info.sourceIpv4 ≠ (routing.session sender).virtualIp) :
    handleProxyData routing callback sender header data =
      if hostShouldReceive header.info.destIpv4 callback.hostVirtualIp callback.broadcastAddress ∧
          callback.hostDataCallback then
        [.hostCallback header.info data]
      else [] := by
  rw [handleProxyData, routeMessage_of_spoofed nonzero foreign]
  rfl

theorem handleProxyData_hasSource {routing callback : Server} {sender : SessionId}
    {header : ProxyDataHeader} (data : List UInt8)
    (own : header.info.sourceIpv4 = 0 ∨
      header.info.sourceIpv4 = (routing.session sender).virtualIp) :
    ∀ delivery ∈ handleProxyData routing callback sender header data,
      delivery.HasSource (routing.session sender).virtualIp := by
  have source := routeMessage_sourceIpv4 own
  intro delivery member
  rw [handleProxyData, List.mem_append] at member
  rcases member with routed | host
  · obtain ⟨target, _, rfl⟩ := List.mem_map.mp routed
    have carried := field_proxyDataPacket
      { header with info := (routeMessage routing sender header.info).1 } data
    rw [← source]
    exact carried
  · split at host
    · rw [List.mem_singleton.mp host]
      exact source
    · cases host

/-- The host delivers nothing spoofed exactly when the packet's source is zero or the
sender's own, or the in-process path is not open to its destination. -/
theorem no_spoofed_delivery_iff (routing callback : Server) (sender : SessionId)
    (header : ProxyDataHeader) (data : List UInt8) :
    NoSpoofedDelivery routing callback sender header data ↔
      header.info.sourceIpv4 = 0 ∨
        header.info.sourceIpv4 = (routing.session sender).virtualIp ∨
        callback.hostDataCallback = false ∨
        hostShouldReceive header.info.destIpv4 callback.hostVirtualIp
          callback.broadcastAddress = false := by
  by_cases own : header.info.sourceIpv4 = 0 ∨
      header.info.sourceIpv4 = (routing.session sender).virtualIp
  · refine iff_of_true ⟨handleProxyData_hasSource data own, ?_⟩ (by tauto)
    intro nonzero foreign
    tauto
  · obtain ⟨nonzero, foreign⟩ := not_or.mp own
    have deliveries : handleProxyData routing callback sender header data = _ :=
      handleProxyData_of_spoofed data nonzero foreign
    constructor
    · rintro ⟨_, silent⟩
      rw [deliveries] at silent
      by_contra reachable
      have reaches : hostShouldReceive header.info.destIpv4 callback.hostVirtualIp
          callback.broadcastAddress = true ∧ callback.hostDataCallback = true := by
        simp only [not_or, Bool.not_eq_false] at reachable
        exact ⟨reachable.2.2.2, reachable.2.2.1⟩
      have empty := silent nonzero foreign
      rw [if_pos reaches] at empty
      cases empty
    · intro shut
      have nothing : handleProxyData routing callback sender header data = [] := by
        rw [deliveries, if_neg]
        rintro ⟨reaches, registered⟩
        rcases shut with zero | same | noCallback | notHost
        · exact nonzero zero
        · exact foreign same
        · rw [noCallback] at registered
          cases registered
        · rw [notHost] at reaches
          cases reaches
      rw [NoSpoofedDelivery, nothing]
      exact ⟨by simp, fun _ _ => rfl⟩

/-- The session at 10.114.0.2 sends to the host at 10.114.0.1 in the name of 10.114.0.3. -/
theorem spoofed_packet_reaches_host :
    let server : Server := { Server.start false with
      sessions := some 0 :: List.replicate 7 none
      sessionCount := 1
      session := fun _ => ⟨0xC0A80105, 0x0A720002, some 7, true, true, false, some 0, false⟩
      allocated := 1
      broadcastAddress := 0x0A72FFFF
      hostVirtualIp := 0x0A720001
      hostDataCallback := true }
    let header : ProxyDataHeader := ⟨⟨0x0A720003, 5000, 0x0A720001, 5000, 17⟩, 1⟩
    handleProxyData server server 0 header [42] = [.hostCallback header.info [42]] ∧
      ¬ NoSpoofedDelivery server server 0 header [42] := by
  intro server header
  have spoofed : handleProxyData server server 0 header [42] =
      [.hostCallback header.info [42]] := by
    rw [handleProxyData_of_spoofed [42] (by decide) (by decide)]
    exact if_pos (by decide)
  refine ⟨spoofed, ?_⟩
  rintro ⟨_, silent⟩
  have nothing := silent (by decide) (by decide)
  rw [spoofed] at nothing
  cases nothing

end RyuLdn.P2pRouting
