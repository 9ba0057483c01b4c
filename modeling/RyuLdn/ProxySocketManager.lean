import Mathlib.Data.List.AList
import RyuLdn.LockedProgram
import RyuLdn.EphemeralPortPool
import RyuLdn.ProxySocket

/-! `ProxySocketManager`: the registry of proxy sockets by file descriptor, the
port pool, the callbacks towards the LDN server and the packets that arrived
before their socket. The operations are programs over the one `m_mutex`; the
methods of `ProxySocket` that call back into the manager are programs too.

The registry is an association list: its order stands for the unspecified
iteration order of the unordered map. -/
namespace RyuLdn.ProxySocketManager

open BsdTypes ProtocolTypes ProxySocket EphemeralPortPool LockedProgram

def maxProxySockets : Nat := 64
def maxPendingPackets : Nat := 32
def pendingPayloadMax : Nat := 1400
def maxPendingPacketAgeMs : Nat := 500

structure PendingPacket where
  sourceIp : UInt32
  sourcePort : UInt16
  destIp : UInt32
  destPort : UInt16
  protocol : ProtocolType
  enqueueTimeMs : Nat
  data : List UInt8
  deriving DecidableEq

inductive Outgoing where
  | data (info : ProxyInfo) (bytes : List UInt8)
  | connect (info : ProxyInfo)
  | connectReply (info : ProxyInfo)
  | disconnect (info : ProxyInfo)
  deriving DecidableEq

abbrev Registry := AList fun _ : Int => Socket

/-- The fields of the manager. A callback answers whether the send succeeded; `sent`
is the log of what the callbacks were given. -/
structure Manager where
  sockets : Registry
  portPool : Pool
  localIp : UInt32
  sendCallback : Option (ProxyInfo → List UInt8 → Bool)
  proxyConnectCallback : Option (ProxyInfo → Bool)
  proxyConnectReplyCallback : Option (ProxyInfo → Bool)
  proxyDisconnectCallback : Option (ProxyInfo → Bool)
  pending : List PendingPacket
  sent : List Outgoing

namespace Manager

def init : Manager where
  sockets := ∅
  portPool := .init
  localIp := 0
  sendCallback := none
  proxyConnectCallback := none
  proxyConnectReplyCallback := none
  proxyDisconnectCallback := none
  pending := []
  sent := []

def setSocket (m : Manager) (fd : Int) (s : Socket) : Manager :=
  { m with sockets := m.sockets.insert fd s }

@[simp] theorem setSocket_portPool (m : Manager) (fd : Int) (s : Socket) :
    (m.setSocket fd s).portPool = m.portPool := rfl

@[simp] theorem setSocket_proxyConnectCallback (m : Manager) (fd : Int) (s : Socket) :
    (m.setSocket fd s).proxyConnectCallback = m.proxyConnectCallback := rfl

@[simp] theorem lookup_setSocket (m : Manager) (fd : Int) (s : Socket) :
    (m.setSocket fd s).sockets.lookup fd = some s := AList.lookup_insert _

theorem lookup_setSocket_ne {m : Manager} {fd j : Int} (s : Socket) (apart : j ≠ fd) :
    (m.setSocket fd s).sockets.lookup j = m.sockets.lookup j := AList.lookup_insert_ne apart

end Manager

open Program

/-- The shape of the `SendProxy…` functions: the callback is read under the mutex and
called outside of it. -/
def sendVia (callback : Manager → Option (ProxyInfo → Bool)) (message : ProxyInfo → Outgoing)
    (info : ProxyInfo) : Program Manager Bool := do
  let registered ← withLock (read callback)
  match registered with
  | none => pure false
  | some send => do
      update fun m => { m with sent := m.sent ++ [message info] }
      pure (send info)

def sendProxyConnect (info : ProxyInfo) : Program Manager Bool :=
  sendVia (·.proxyConnectCallback) .connect info

def sendProxyConnectReply (info : ProxyInfo) : Program Manager Bool :=
  sendVia (·.proxyConnectReplyCallback) .connectReply info

def sendProxyDisconnect (info : ProxyInfo) : Program Manager Bool :=
  sendVia (·.proxyDisconnectCallback) .disconnect info

def sendProxyData (info : ProxyInfo) (bytes : List UInt8) : Program Manager Bool :=
  sendVia (fun m => m.sendCallback.map fun send info => send info bytes) (.data · bytes) info

/-- `ProxySocket::Close`. -/
def closeSocket (s : Socket) : Program Manager Socket :=
  match s.disconnectInfo with
  | some info => do
      let _ ← sendProxyDisconnect info
      pure s.closed
  | none => pure s.closed

/-- `ProxySocket::IncomingConnection` on the registered socket `fd`. -/
def incomingConnection (fd : Int) (s : Socket) (request : ProxyInfo) : Program Manager Unit := do
  update (·.setSocket fd (s.incomingConnection request).1)
  match (s.incomingConnection request).2 with
  | some info => do
      let _ ← sendProxyConnectReply info
      pure ()
  | none => pure ()

def bind (fd : Int) (s : Socket) (addr : SockAddrIn) : Program Manager (Except Errno Unit) :=
  match s.bind addr with
  | .error errno => pure (.error errno)
  | .ok bound => do
      update (·.setSocket fd bound)
      pure (.ok ())

/-- `ProxySocket::Listen` on the registered socket `fd`. -/
def listen (fd : Int) (s : Socket) : Program Manager (Except Errno Unit) :=
  match s.listen with
  | .error errno => pure (.error errno)
  | .ok listening => do
      update (·.setSocket fd listening)
      pure (.ok ())

/-- `ProxySocket::SendTo` on a socket; the answer is the number of bytes. -/
def sendTo (s : Socket) (bytes : List UInt8) (dest : SockAddrIn) :
    Program Manager (Except Errno Nat) :=
  match s.sendToCheck true bytes.length with
  | some errno => pure (.error errno)
  | none => do
      let sent ← sendProxyData (s.sendInfo dest) bytes
      pure (if sent then .ok bytes.length else .error .netUnreach)

/-- `ProxySocket::Connect` on the registered socket `fd`; `reply` is the response
that `HandleConnectResponse` stores while a blocking connect waits. -/
def connect (fd : Int) (s : Socket) (addr : SockAddrIn) (reply : Option ProxyInfo) :
    Program Manager (Except Errno Unit) :=
  match s.beginConnect addr with
  | .error errno => pure (.error errno)
  | .ok started => do
      update (·.setSocket fd started)
      if s.type = .stream then do
        let sent ← sendProxyConnect (s.connectInfo addr)
        if sent then do
          let waited := match reply with
            | some response => started.handleConnectResponse response
            | none => started
          update (·.setSocket fd waited.endConnect.2)
          pure waited.endConnect.1
        else do
          update (·.setSocket fd { started with state := .bound })
          pure (.error .netUnreach)
      else pure (.ok ())

/-- `true` is a pointer to the new or existing socket, `false` a null pointer. -/
def createProxySocket (fd : Int) (type : SocketType) (protocol : ProtocolType) :
    Program Manager Bool :=
  withLock do
    let m ← read id
    if fd ∈ m.sockets then pure true
    else if m.sockets.keys.length ≥ maxProxySockets then pure false
    else do
      update (·.setSocket fd (Socket.new type protocol))
      pure true

def getProxySocket (fd : Int) : Program Manager (Option Socket) :=
  withLock (read (·.sockets.lookup fd))

def sharesEndpoint (m : Manager) (fd : Int) (port : UInt16) (protocol : ProtocolType) : Bool :=
  m.sockets.entries.any fun e =>
    e.1 ≠ fd && e.2.protocol = protocol && e.2.localAddr.getPort = port

def purgePending (m : Manager) (fd : Int) (port : UInt16) (protocol : ProtocolType) : Manager :=
  if port ≠ 0 ∧ m.pending ≠ [] ∧ !sharesEndpoint m fd port protocol then
    { m with pending := m.pending.filter fun p => !(p.protocol = protocol && p.destPort = port) }
  else m

def closeProxySocket (fd : Int) : Program Manager Bool :=
  withLock do
    let found ← read (·.sockets.lookup fd)
    match found with
    | none => pure false
    | some s => do
        let port := s.localAddr.getPort
        if port ≠ 0 then
          update fun m => { m with portPool := m.portPool.releasePort port s.protocol }
        let closed ← closeSocket s
        update (·.setSocket fd closed)
        update (purgePending · fd port s.protocol)
        update fun m => { m with sockets := m.sockets.erase fd }
        pure true

def closeEach : List (Sigma fun _ : Int => Socket) → Program Manager Unit
  | [] => pure ()
  | entry :: entries => do
      let closed ← closeSocket entry.2
      update (·.setSocket entry.1 closed)
      closeEach entries

def closeAllProxySockets : Program Manager Unit :=
  withLock do
    let entries ← read (·.sockets.entries)
    closeEach entries
    update fun m => { m with sockets := ∅, portPool := m.portPool.releaseAll }

def reset : Program Manager Unit :=
  withLock do
    let entries ← read (·.sockets.entries)
    closeEach entries
    update fun m =>
      { m with
        sockets := ∅
        portPool := m.portPool.releaseAll
        pending := []
        localIp := 0
        sendCallback := none
        proxyConnectCallback := none
        proxyConnectReplyCallback := none
        proxyDisconnectCallback := none }

/-- What a caller does through the pointer it got for `fd`. -/
def withSocket (fd : Int) (body : Socket → Program Manager Unit) : Program Manager Unit := do
  let found ← getProxySocket fd
  match found with
  | some s => body s
  | none => pure ()

def allocatePort (protocol : ProtocolType) : Program Manager UInt16 := do
  let m ← read id
  update fun m => { m with portPool := (m.portPool.allocatePort protocol).2 }
  pure (m.portPool.allocatePort protocol).1

def reservePort (port : UInt16) (protocol : ProtocolType) : Program Manager Bool := do
  let m ← read id
  update fun m => { m with portPool := (m.portPool.allocateSpecificPort port protocol).2 }
  pure (m.portPool.allocateSpecificPort port protocol).1

def releasePort (port : UInt16) (protocol : ProtocolType) : Program Manager Unit :=
  update fun m => { m with portPool := m.portPool.releasePort port protocol }

def getLocalIp : Program Manager UInt32 := withLock (read (·.localIp))

def setLocalIp (ip : UInt32) : Program Manager Unit :=
  withLock do
    update fun m =>
      { m with
        pending := if m.localIp ≠ 0 ∧ m.localIp ≠ ip ∧ m.pending ≠ [] then [] else m.pending
        localIp := ip }

def awaits (response : ProxyInfo) (s : Socket) : Bool :=
  s.state = .connecting && s.localAddr.getAddr = response.sourceIpv4 &&
    s.localAddr.getPort = response.sourcePort

def routeConnectResponse (response : ProxyInfo) : Program Manager Bool :=
  withLock do
    let found ← read (·.sockets.entries.find? fun e => awaits response e.2)
    match found with
    | some e => do
        update (·.setSocket e.1 (e.2.handleConnectResponse response))
        pure true
    | none => pure false

def listensFor (request : ProxyInfo) (s : Socket) : Bool :=
  s.state = .listening && s.protocol = .tcp && s.localAddr.getPort = request.destPort &&
    (s.localAddr.getAddr = 0 || s.localAddr.getAddr = request.destIpv4)

def routeConnectRequest (request : ProxyInfo) : Program Manager Bool :=
  withLock do
    let found ← read (·.sockets.entries.find? fun e => listensFor request e.2)
    match found with
    | some e => do
        incomingConnection e.1 e.2 request
        pure true
    | none => pure false

def isMulticast (ip : UInt32) : Bool := ip &&& (0xF0000000 : UInt32) = 0xE0000000

def isBroadcast (ip : UInt32) : Bool :=
  ip = 0xFFFFFFFF || ip &&& (0x000000FF : UInt32) = 0x000000FF ||
    ip &&& (0x0000FFFF : UInt32) = 0x0000FFFF || isMulticast ip

def sameSubnet (a b : UInt32) : Bool := a &&& ldnNetworkMask = b &&& ldnNetworkMask

/-- `FindAllSocketsByDestination`, as the list of the sockets found. -/
def findAllSocketsByDestination (m : Manager) (destIp : UInt32) (destPort : UInt16)
    (protocol : ProtocolType) (maxSockets : Nat) : List (Sigma fun _ : Int => Socket) :=
  let candidates := m.sockets.entries.filter fun e =>
    e.2.protocol = protocol && e.2.localAddr.getPort = destPort
  if maxSockets = 0 then []
  else if !isBroadcast destIp then
    match candidates.find? fun e => e.2.localAddr.getAddr = destIp with
    | some e => [e]
    | none => (candidates.find? fun e => e.2.localAddr.getAddr = 0).toList
  else
    (candidates.filter fun e =>
      e.2.localAddr.getAddr = 0 || destIp = 0xFFFFFFFF || isMulticast destIp ||
        e.2.localAddr.getAddr = destIp || sameSubnet e.2.localAddr.getAddr destIp).take maxSockets

/-- `targets[i]->IncomingData(...)` for each target. -/
def deliverTo (m : Manager) (data : List UInt8) (source : SockAddrIn) :
    List (Sigma fun _ : Int => Socket) → Manager
  | [] => m
  | e :: targets =>
      deliverTo (m.setSocket e.1 (e.2.incomingData data source)) data source targets

/-- Packets for no socket wait in a ring of bounded size; UDP packets do not. -/
def bufferPending (m : Manager) (packet : PendingPacket) : Manager :=
  { m with
    pending :=
      (if m.pending.length ≥ maxPendingPackets then m.pending.tail else m.pending) ++ [packet] }

def routeIncomingData (sourceIp : UInt32) (sourcePort : UInt16) (destIp : UInt32)
    (destPort : UInt16) (protocol : ProtocolType) (data : List UInt8) (now : Nat) :
    Program Manager Bool :=
  withLock do
    let m ← read id
    if m.localIp ≠ 0 ∧ sourceIp = m.localIp then pure true
    else
      match findAllSocketsByDestination m destIp destPort protocol 8 with
      | [] =>
          if protocol = .udp then pure false
          else do
            update (bufferPending ·
              ⟨sourceIp, sourcePort, destIp, destPort, protocol, now, data.take pendingPayloadMax⟩)
            pure false
      | target :: targets => do
          update (deliverTo · data (.ofHost sourceIp sourcePort) (target :: targets))
          pure true

def isBroadcastDestinationIp (ip : UInt32) : Bool :=
  ip &&& (0x000000FF : UInt32) = 0x000000FF || ip &&& (0x0000FFFF : UInt32) = 0x0000FFFF

def packetMatchesSocketDestination (s : Socket) (destIp : UInt32) : Bool :=
  s.localAddr.getAddr = 0 || s.localAddr.getAddr = destIp ||
    isBroadcastDestinationIp destIp && sameSubnet s.localAddr.getAddr destIp

def isStale (now : Nat) (packet : PendingPacket) : Bool :=
  now > packet.enqueueTimeMs && now - packet.enqueueTimeMs > maxPendingPacketAgeMs

/-- The packets a newly bound socket takes over, oldest first; matched and stale
packets leave the ring. -/
def deliverPendingPackets (fd : Int) (port : UInt16) (protocol : ProtocolType) (now : Nat) :
    Program Manager Unit :=
  withLock do
    let m ← read id
    match m.sockets.lookup fd with
    | none => pure ()
    | some s =>
        let matched (p : PendingPacket) : Bool :=
          p.protocol = protocol && p.destPort = port && packetMatchesSocketDestination s p.destIp
        let fresh := m.pending.filter (!isStale now ·)
        let delivered := (fresh.filter matched).foldl
          (fun s p => s.incomingData p.data (.ofHost p.sourceIp p.sourcePort)) s
        update fun m =>
          { m.setSocket fd delivered with pending := fresh.filter (!matched ·) }

end RyuLdn.ProxySocketManager
