import RyuLdn.LdnClient
import RyuLdn.P2pDelivery
import RyuLdn.ProxySocketManager

/-! The data plane of `ICommunicationService`: a datagram of the game leaves
through the hosted P2P server, the P2P client or the master connection, and comes
back through one of three receivers that all end in `RouteIncomingData`. -/
namespace RyuLdn.LdnDataPath

open BsdTypes LdnClient LockedProgram P2pRouting P2pServer ProtocolCodec ProtocolTypes
open ProxySocketManager

def setHostVirtualIp (server : Server) (virtualIp : UInt32) : Server :=
  { server with hostVirtualIp := virtualIp }

def hostTargets (server : Server) (destIp : UInt32) : List SessionId :=
  if destIp = server.broadcastAddress then authenticatedSessions server
  else ((authenticatedSessions server).find?
    (fun s => (server.session s).virtualIp == destIp)).toList

def hostHeader (server : Server) (header : ProxyDataHeader) : ProxyDataHeader :=
  { header with info := { header.info with
      sourceIpv4 := server.hostVirtualIp
      destIpv4 := translateBroadcast header.info.destIpv4 server.broadcastAddress } }

structure HostSend where
  anySent : Bool
  header : ProxyDataHeader
  sends : List Delivery

/-- `BroadcastFromHost`; `written` tells which sockets take the whole packet. -/
def broadcastFromHost (server : Server) (written : SessionId → Bool) (header : ProxyDataHeader)
    (data : List UInt8) : HostSend :=
  if server.hostVirtualIp = 0 then ⟨false, header, []⟩
  else if header.info.sourceIpv4 ≠ 0 ∧ header.info.sourceIpv4 ≠ server.hostVirtualIp then
    ⟨false, header, []⟩
  else
    let header := hostHeader server header
    match encodeWithData 4096 .proxyData header.image data with
    | (.success, packet) =>
        let targets := hostTargets server header.info.destIpv4
        ⟨targets.any (fun s => (server.session s).canSend && written s), header,
          targets.map (fun s => .send s packet)⟩
    | _ => ⟨false, header, []⟩

def isBroadcastDestination (destIp : UInt32) : Bool :=
  destIp == 0x0A72FFFF || destIp == 0xc0a800ff || destIp == 0xFFFFFFFF

/-- The members of `ICommunicationService` that `SendProxyDataToServer` reads. -/
structure DataPath where
  serverConnected : Bool
  p2pServer : Option Server
  p2pClientReady : Bool

structure Answers where
  session : SessionId → Bool
  p2pClient : Bool
  master : OpResult

structure Handed where
  result : OpResult
  sends : List Delivery
  p2pClient : Option (List UInt8)
  master : Option ProxyDataHeader

def hostSend (path : DataPath) (answers : Answers) (header : ProxyDataHeader)
    (data : List UInt8) : HostSend :=
  match path.p2pServer with
  | some server =>
      if server.running then broadcastFromHost server answers.session header data
      else ⟨false, header, []⟩
  | none => ⟨false, header, []⟩

def sendProxyDataToServer (path : DataPath) (answers : Answers) (header : ProxyDataHeader)
    (data : List UInt8) : Handed :=
  if !path.serverConnected then ⟨.notConnected, [], none, none⟩
  else
    let sent := hostSend path answers header data
    if sent.anySent && !isBroadcastDestination sent.header.info.destIpv4 then
      ⟨.success, sent.sends, none, none⟩
    else if path.p2pClientReady then
      let packet := proxyDataPacket sent.header data
      if answers.p2pClient then ⟨.success, sent.sends, some packet, none⟩
      else ⟨answers.master, sent.sends, some packet, some sent.header⟩
    else ⟨answers.master, sent.sends, none, some sent.header⟩

def protocolOf (protocol : UInt32) : Option ProtocolType :=
  if protocol = 6 then some .tcp else if protocol = 17 then some .udp else none

/-- `SendProxyDataCallback` of a registered service; `none` is an unsupported protocol. -/
def sendProxyDataCallback (path : DataPath) (answers : Answers) (info : ProxyInfo)
    (data : List UInt8) : Option Handed :=
  (protocolOf info.protocol).map fun _ =>
    sendProxyDataToServer path answers ⟨info, UInt32.ofNat data.length⟩ data

def callbackSucceeds (path : DataPath) (answers : Answers) (info : ProxyInfo)
    (data : List UInt8) : Bool :=
  match sendProxyDataCallback path answers info data with
  | some handed => handed.result = .success
  | none => false

/-- `RouteIncomingData` with the fields of a header; `now` is the clock. -/
def routeProxyData (now : Nat) (info : ProxyInfo) (data : List UInt8) : Program Manager Unit :=
  match protocolOf info.protocol with
  | some protocol => (routeIncomingData info.sourceIpv4 info.sourcePort info.destIpv4
      info.destPort protocol data now).discard
  | none => pure ()

/-- `HandleProxyDataPacket`; the callback of the P2P client is the same text. -/
def handleProxyDataPacket (now : Nat) (data : List UInt8) : Program Manager Unit :=
  if data.length ≥ proxyDataHeaderSize then
    let header := ProxyDataHeader.ofImage data
    let payload := data.drop proxyDataHeaderSize
    if payload.length ≥ header.dataLength.toNat then
      routeProxyData now header.info (payload.take header.dataLength.toNat)
    else pure ()
  else pure ()

def hostP2pInboundDataCallback (now : Nat) (info : ProxyInfo) (data : List UInt8) :
    Program Manager Unit :=
  routeProxyData now info data

/-- `P2pProxyClient::HandleProxyData` and the callback: header and data pass through a
4096-byte buffer. -/
def p2pClientHandleProxyData (now : Nat) (header : ProxyDataHeader) (data : List UInt8) :
    Program Manager Unit :=
  if proxyDataHeaderSize + data.length ≤ 4096 then handleProxyDataPacket now (header.image ++ data)
  else pure ()

def p2pClientProcessProxyData (now : Nat) (packet : List UInt8) : Program Manager Unit :=
  match processData packet with
  | some (.proxyData header data) => p2pClientHandleProxyData now header data
  | _ => pure ()

end RyuLdn.LdnDataPath
