import RyuLdn.RingBuffer
import RyuLdn.BsdTypes

/-! `ProxySocket`: the part of each method that works on the socket itself. Calls
into the manager (`SendProxyConnect`, `SendProxyData`, `SendProxyConnectReply`,
`SendProxyDisconnect`) are made where the manager is modelled; here a method
that makes one says with which addresses. Events are manual-clear flags. -/
namespace RyuLdn.ProxySocket

open RingBuffer BsdTypes ProtocolTypes

inductive State where
  | created | bound | connecting | connected | listening | closed
  deriving DecidableEq, Repr

def maxQueueSize : Nat := 64
def maxPayload : Nat := 2000

/-- A slot of the receive ring; `len` is the length of `data`. -/
structure ReceivedPacket where
  source : SockAddrIn
  data : List UInt8
  deriving DecidableEq, Inhabited

structure Endpoint where
  type : SocketType
  protocol : ProtocolType
  state : State
  nonBlocking : Bool
  shutdownRead : Bool
  shutdownWrite : Bool
  localAddr : SockAddrIn
  remoteAddr : SockAddrIn
  rxRing : Ring ReceivedPacket maxQueueSize
  receiveEvent : Bool
  acceptEvent : Bool
  connectResponseReceived : Bool
  connectResponse : ProxyInfo
  connectEvent : Bool
  broadcast : Bool
  deriving DecidableEq

structure Socket extends Endpoint where
  acceptQueue : List Endpoint
  deriving DecidableEq

def Endpoint.new (type : SocketType) (protocol : ProtocolType) : Endpoint where
  type := type
  protocol := protocol
  state := .created
  nonBlocking := false
  shutdownRead := false
  shutdownWrite := false
  localAddr := .ofHost 0 0
  remoteAddr := .ofHost 0 0
  rxRing := Ring.fill default (by decide)
  receiveEvent := false
  acceptEvent := false
  connectResponseReceived := false
  connectResponse := default
  connectEvent := false
  broadcast := false

namespace Socket

def new (type : SocketType) (protocol : ProtocolType) : Socket :=
  { Endpoint.new type protocol with acceptQueue := [] }

def bind (s : Socket) (addr : SockAddrIn) : Except Errno Socket :=
  if s.state ≠ .created then .error .inval
  else if addr.sinFamily ≠ inet then .error .afNoSupport
  else .ok { s with localAddr := addr, state := .bound }

/-- `Connect` up to the `SendProxyConnect` of a stream socket; the whole of it for
the others. -/
def beginConnect (s : Socket) (addr : SockAddrIn) : Except Errno Socket :=
  if s.state = .closed then .error .badF
  else if addr.sinFamily ≠ inet then .error .afNoSupport
  else if s.type = .stream then
    .ok { s with remoteAddr := addr, state := .connecting, connectResponseReceived := false,
                 connectEvent := false }
  else .ok { s with remoteAddr := addr, state := .connected }

def connectInfo (s : Socket) (addr : SockAddrIn) : ProxyInfo :=
  ⟨s.localAddr.getAddr, s.localAddr.getPort, addr.getAddr, addr.getPort, s.protocol.toField⟩

/-- `Connect` from the end of the wait on: the event tells whether a response came. -/
def endConnect (s : Socket) : Except Errno Unit × Socket :=
  if s.nonBlocking then (.error .inProgress, s)
  else if !s.connectEvent || !s.connectResponseReceived then
    (.error .timedOut, { s with state := .bound })
  else if s.connectResponse.protocol ≠ ProtocolType.unspecified.toField then
    (.error .connRefused, { s with state := .bound })
  else (.ok (), { s with state := .connected })

def handleConnectResponse (s : Socket) (response : ProxyInfo) : Socket :=
  { s with connectResponse := response, connectResponseReceived := true, connectEvent := true }

/-- `IncomingData`: clamp, drop the oldest packet of a full ring, write the tail slot. -/
def incomingData (s : Socket) (data : List UInt8) (source : SockAddrIn) : Socket :=
  { s with rxRing := s.rxRing.pushDropping ⟨source, data.take maxPayload⟩, receiveEvent := true }

inductive Received where
  | data (bytes : List UInt8) (source : Option SockAddrIn)
  | failed (errno : Errno)
  | blocked
  deriving DecidableEq

/-- `consume_front` on the packet at the head of the ring. -/
def consumeFront (s : Socket) (packet : ReceivedPacket) (len : Nat) (peek wantSource : Bool) :
    Received × Socket :=
  let rest := if peek then s.rxRing else s.rxRing.pop
  (.data (packet.data.take len) (if wantSource then some packet.source else none),
    { s with rxRing := rest, receiveEvent := if rest.count = 0 then false else s.receiveEvent })

def msgPeek : UInt32 := 0x2
def msgDontWait : UInt32 := 0x80

/-- `buffer` tells a buffer from a null pointer. A call that waits resumes when the
event is set; it then takes the front packet or reports `Again`. -/
def recvFrom (s : Socket) (buffer : Bool) (len : Nat) (flags : UInt32) (wantSource : Bool) :
    Received × Socket :=
  if s.shutdownRead then (.data [] none, s)
  else if s.state = .closed then (.failed .badF, s)
  else if !buffer && decide (len > 0) then (.failed .fault, s)
  else
    let peek := flags &&& msgPeek ≠ 0
    let dontWait := flags &&& msgDontWait ≠ 0 ∨ s.nonBlocking
    match s.rxRing.front with
    | some packet => consumeFront s packet len (decide peek) wantSource
    | none =>
        if dontWait then (.failed .again, s)
        else if s.receiveEvent then (.failed .again, s)
        else (.blocked, s)

def recv (s : Socket) (buffer : Bool) (len : Nat) (flags : UInt32) : Received × Socket :=
  if s.state = .connected then s.recvFrom buffer len flags false else (.failed .notConn, s)

/-- `RecvFrom` after its wait: the ring is looked at once more. -/
def resumeRecvFrom (s : Socket) (len : Nat) (flags : UInt32) (wantSource : Bool) :
    Received × Socket :=
  match s.rxRing.front with
  | some packet => consumeFront s packet len (decide (flags &&& msgPeek ≠ 0)) wantSource
  | none => (.failed .again, s)

def hasPendingData (s : Socket) : Bool := s.rxRing.count > 0

def getPendingDataSize (s : Socket) : Nat :=
  s.rxRing.foldl (fun total slot => total + slot.data.length) 0

/-- The checks of `SendTo` before the manager is called. -/
def sendToCheck (s : Socket) (data : Bool) (len : Nat) : Option Errno :=
  if s.shutdownWrite then some .inval
  else if s.state = .closed then some .badF
  else if s.state = .created then some .destAddrReq
  else if !data && decide (len > 0) then some .fault
  else if len > maxPayload then some .msgSize
  else none

def sendInfo (s : Socket) (dest : SockAddrIn) : ProxyInfo :=
  ⟨s.localAddr.getAddr, s.localAddr.getPort, dest.getAddr, dest.getPort, s.protocol.toField⟩

def listen (s : Socket) : Except Errno Socket :=
  if s.type ≠ .stream then .error .opNotSupp
  else if s.state = .created then .error .inval
  else .ok { s with state := .listening }

/-- The socket `IncomingConnection` queues for a request. -/
def acceptedFor (s : Socket) (request : ProxyInfo) : Endpoint :=
  { Endpoint.new s.type s.protocol with
    localAddr := s.localAddr
    remoteAddr := .ofHost request.sourceIpv4 request.sourcePort
    state := .connected }

/-- `IncomingConnection`, with the arguments of its `SendProxyConnectReply`. -/
def incomingConnection (s : Socket) (request : ProxyInfo) : Socket × Option ProxyInfo :=
  if s.state ≠ .listening then (s, none)
  else
    ({ s with acceptQueue := s.acceptQueue ++ [s.acceptedFor request], acceptEvent := true },
      some ⟨s.localAddr.getAddr, s.localAddr.getPort, request.sourceIpv4, request.sourcePort,
        ProtocolType.tcp.toField⟩)

/-- `Close` without its `SendProxyDisconnect`. -/
def closed (s : Socket) : Socket :=
  { s with state := .closed, shutdownRead := true, shutdownWrite := true, receiveEvent := true,
           rxRing := s.rxRing.clear }

/-- The arguments of the `SendProxyDisconnect` that `Close` makes, if it makes one. -/
def disconnectInfo (s : Socket) : Option ProxyInfo :=
  if s.protocol = .tcp ∧ s.remoteAddr.getPort ≠ 0 then
    some ⟨s.localAddr.getAddr, s.localAddr.getPort, s.remoteAddr.getAddr, s.remoteAddr.getPort,
      ProtocolType.tcp.toField⟩
  else none

end Socket

end RyuLdn.ProxySocket
