import RyuLdn.P2pDelivery
import RyuLdn.StreamReassembly
import RyuLdn.TransitionSystem

/-! `P2pProxyClient`, the joiner's end of a P2P connection. A step is one critical
section of `m_mutex`, or what a thread does between two of them: `Connect` gives the
mutex away during `select`, `Disconnect` while it waits for the receive thread, and
`EnsureProxyReady` while it waits for the host.

What the operating system answers is an argument of the action. `opened`, `closed`,
`made`, `destroyed`, `written` and `processed` are not in the source: they record the
descriptors, the thread objects, the bytes `send` took and the `ProcessData` calls.
Callers are numbered; one that has let go of the mutex is in `pending` with its call. -/
namespace RyuLdn.P2pClient

open LittleEndian ProtocolCodec ProtocolTypes StreamReassembly

def recvBufferSize : Nat := 0x4000

inductive HostMessage where
  | proxyConfig (config : ProxyConfig)
  | proxyData (header : ProxyDataHeader) (data : List UInt8)
  | proxyConnect (request : ProxyInfo)
  | proxyConnectReply (response : ProxyInfo)
  | proxyDisconnect (message : ProxyDisconnectMessage)
  deriving DecidableEq

def proxyConfigOfImage (buffer : List UInt8) : ProxyConfig where
  proxyIp := UInt32.ofNat (field buffer 0 4)
  proxySubnetMask := UInt32.ofNat (field buffer 4 4)

/-- The switch of `ProcessData`; a packet that names no handler, or is too short for
its structure, is dropped. -/
def processData (packet : List UInt8) : Option HostMessage :=
  if packet.length < headerSize then none
  else
    let header := LdnHeader.ofImage packet
    let dataSize := P2pRouting.sizeOf32 header.dataSize
    let payload := packet.drop headerSize
    match PacketId.ofByte header.type with
    | some .proxyConfig =>
        if dataSize ≥ 8 then some (.proxyConfig (proxyConfigOfImage payload)) else none
    | some .proxyData =>
        if dataSize ≥ proxyDataHeaderSize then
          some (.proxyData (.ofImage payload)
            ((payload.drop proxyDataHeaderSize).take (dataSize - proxyDataHeaderSize)))
        else none
    | some .proxyConnect =>
        if dataSize ≥ proxyInfoSize then some (.proxyConnect (.ofImage payload)) else none
    | some .proxyConnectReply =>
        if dataSize ≥ proxyInfoSize then some (.proxyConnectReply (.ofImage payload)) else none
    | some .proxyDisconnect =>
        if dataSize ≥ 20 then some (.proxyDisconnect (.ofImage payload)) else none
    | _ => none

def configOf (packet : List UInt8) : Option ProxyConfig :=
  match processData packet with
  | some (.proxyConfig config) => some config
  | _ => none

structure Client where
  socketFd : Option Nat
  connected : Bool
  disposed : Bool
  ready : Bool
  proxyConfig : ProxyConfig
  recvThreadCreated : Bool
  recvThreadRunning : Bool
  recvBuffer : PacketBuffer recvBufferSize

inductive RecvThread where
  | absent
  | looping
  | receiving (fd : Option Nat)
  | processing
  | leaving
  | done
  deriving DecidableEq

inductive PendingCall where
  | connecting (fdToPoll : Nat)
  | joining
  | joined
  | awaitingReady
  deriving DecidableEq

structure State where
  client : Client
  thread : RecvThread
  pending : List (Nat × PendingCall)
  opened : List Nat
  closed : List Nat
  made : Nat
  destroyed : Nat
  written : List UInt8
  processed : List (List UInt8)
  readyAnswers : List Bool

def init : State where
  client := ⟨none, false, false, false, ⟨0, 0⟩, false, false, PacketBuffer.reset⟩
  thread := .absent
  pending := []
  opened := []
  closed := []
  made := 0
  destroyed := 0
  written := []
  processed := []
  readyAnswers := []

inductive Handshake where
  | failed
  | established
  | inProgress
  deriving DecidableEq

inductive Action where
  /-- `Connect` with an address of `ipLen` bytes, or a null one; `fd` is what `socket`
  returned. -/
  | connect (caller : Nat) (ipLen : Option Nat) (fd : Option Nat) (handshake : Handshake)
      (threadCreated : Bool)
  /-- `select` is over; `established` is whether it and `SO_ERROR` report a connection. -/
  | connectResumes (caller fdToPoll : Nat) (established threadCreated : Bool)
  | disconnect (caller : Nat)
  /-- `m_disposed = true` of the destructor, which then calls `Disconnect`. -/
  | dispose
  | threadJoined (caller : Nat)
  | disconnectResumes (caller : Nat)
  | performAuth (config : ExternalProxyConfig) (taken : Option Nat)
  | send (packet : List UInt8) (taken : Option Nat)
  | ensureProxyReady (caller : Nat)
  | readyWaitEnds (caller : Nat)
  | recvLoop
  /-- `recv` returned these bytes; `none` is an error or the end of the stream. -/
  | recv (chunk : Option (List UInt8))
  | process
  | recvThreadExits
  deriving DecidableEq

def State.withClient (st : State) (change : Client → Client) : State :=
  { st with client := change st.client }

def State.closeSocket (st : State) : State :=
  { st with
    client := { st.client with socketFd := none }
    closed := st.closed ++ st.client.socketFd.toList }

/-- Steps 5 and 6 of `Connect`. A thread can only be created on a free thread object. -/
def State.startReceiving (st : State) (threadCreated : Bool) : State :=
  if threadCreated && st.thread = .absent then
    { st with
      client := { st.client with
        connected := true
        recvThreadRunning := true
        recvThreadCreated := true }
      thread := .looping
      made := st.made + 1 }
  else
    { st.closeSocket with
      client := { st.closeSocket.client with
        connected := false
        recvThreadRunning := false
        recvThreadCreated := false } }

def passesChecks (st : State) (ipLen : Option Nat) : Bool :=
  !st.client.connected && ipLen.any (4 ≤ ·)

def State.openSocket (st : State) (fd : Option Nat) : State :=
  { st with
    client := { st.client with socketFd := fd }
    opened := st.opened ++ fd.toList }

def State.isFree (st : State) (caller : Nat) : Bool := st.pending.all (·.1 ≠ caller)

def State.await (st : State) (caller : Nat) (call : PendingCall) : State :=
  { st with pending := (caller, call) :: st.pending }

def State.resume (st : State) (caller : Nat) : State :=
  { st with pending := st.pending.filter (·.1 ≠ caller) }

def State.connect (st : State) (caller : Nat) (ipLen fd : Option Nat) (handshake : Handshake)
    (threadCreated : Bool) : State :=
  if passesChecks st ipLen then
    let socketed := st.openSocket fd
    match fd with
    | none => socketed
    | some fdToPoll =>
        match handshake with
        | .failed => socketed.closeSocket
        | .established => socketed.startReceiving threadCreated
        | .inProgress => socketed.await caller (.connecting fdToPoll)
  else st

def State.finishConnect (st : State) (fdToPoll : Nat) (established threadCreated : Bool) : State :=
  if st.client.socketFd ≠ some fdToPoll then st
  else if established then st.startReceiving threadCreated
  else st.closeSocket

def State.finishDisconnect (st : State) : State :=
  st.withClient fun client => { client with connected := false, ready := false }

def State.disconnect (st : State) (caller : Nat) : State :=
  if !st.client.connected && st.client.socketFd.isNone then st
  else
    let stopped := (st.withClient ({ · with recvThreadRunning := false })).closeSocket
    if stopped.client.recvThreadCreated then stopped.await caller .joining
    else stopped.finishDisconnect

/-- `send` on `m_socket_fd`; nothing can be written without a descriptor. -/
def State.write (st : State) (packet : List UInt8) (taken : Option Nat) : State :=
  if st.client.socketFd.isSome then { st with written := st.written ++ packet.take (taken.getD 0) }
  else st

def authPacket (config : ExternalProxyConfig) : List UInt8 :=
  (encode 256 .externalProxy (config.proxyIp.bytes ++ bytes 4 config.addressFamily.toNat ++
    bytes 2 config.proxyPort.toNat ++ config.token.bytes)).2

inductive Outgoing where
  | proxyData (header : ProxyDataHeader) (data : List UInt8)
  | proxyConnect (request : ProxyInfo)
  | proxyConnectReply (response : ProxyInfo)
  | proxyDisconnect (message : ProxyDisconnectMessage)
  deriving DecidableEq

/-- `SendProxyData`, `SendProxyConnect`, `SendProxyConnectReply` and
`SendProxyDisconnect`; what does not fit the local array leaves an empty packet. -/
def Outgoing.packet : Outgoing → List UInt8
  | .proxyData header data => (encodeWithData 4096 .proxyData header.image data).2
  | .proxyConnect request => (encode 256 .proxyConnect request.image).2
  | .proxyConnectReply response => (encode 256 .proxyConnectReply response.image).2
  | .proxyDisconnect message => (encode 256 .proxyDisconnect message.image).2

def Client.handle (client : Client) (packet : List UInt8) : Client :=
  match configOf packet with
  | some config => { client with proxyConfig := config, ready := true }
  | none => client

def State.processTurn (st : State) : State :=
  if st.client.recvThreadRunning && !st.client.disposed then
    match st.client.recvBuffer.peekPacket with
    | none =>
        if st.client.recvBuffer.peekPacketInfo.1 = .invalidPacket then
          { st.withClient ({ · with recvThreadRunning := false }) with thread := .looping }
        else { st with thread := .looping }
    | some packetSize =>
        let packet := st.client.recvBuffer.bytes.take packetSize
        { st with
          client := { st.client.handle packet with
            recvBuffer := st.client.recvBuffer.consume packetSize }
          processed := st.processed ++ [packet] }
  else { st with thread := .looping }

/-- `m_recv_buffer.append`, which a full buffer answers with a reset. -/
def State.receive (st : State) (chunk : List UInt8) : State :=
  match st.client.recvBuffer.append chunk with
  | (.success, buffer) =>
      { st.withClient ({ · with recvBuffer := buffer }) with thread := .processing }
  | _ => { st.withClient ({ · with recvBuffer := PacketBuffer.reset }) with thread := .looping }

def State.exitReceiving (st : State) : State :=
  { st with
    client :=
      if st.client.connected && !st.client.disposed then
        { st.client with connected := false, ready := false }
      else st.client
    thread := .done }

def step (st : State) : Action → Option State
  | .connect caller ipLen fd handshake threadCreated =>
      if st.isFree caller then some (st.connect caller ipLen fd handshake threadCreated) else none
  | .connectResumes caller fdToPoll established threadCreated =>
      if (caller, .connecting fdToPoll) ∈ st.pending then
        some ((st.resume caller).finishConnect fdToPoll established threadCreated)
      else none
  | .disconnect caller => if st.isFree caller then some (st.disconnect caller) else none
  | .dispose => some (st.withClient ({ · with disposed := true }))
  | .threadJoined caller =>
      if (caller, .joining) ∈ st.pending ∧ (st.thread = .done ∨ st.thread = .absent) then
        some (State.await { st.resume caller with
          thread := .absent
          destroyed := st.destroyed + 1 } caller .joined)
      else none
  | .disconnectResumes caller =>
      if (caller, .joined) ∈ st.pending then
        some ((st.resume caller).withClient
          ({ · with recvThreadCreated := false })).finishDisconnect
      else none
  | .performAuth config taken =>
      some (if st.client.connected then st.write (authPacket config) taken else st)
  | .send packet taken => some (if st.client.connected then st.write packet taken else st)
  | .ensureProxyReady caller =>
      if st.isFree caller then
        if st.client.ready then some { st with readyAnswers := st.readyAnswers ++ [true] }
        else if st.client.connected then some (st.await caller .awaitingReady)
        else some { st with readyAnswers := st.readyAnswers ++ [false] }
      else none
  | .readyWaitEnds caller =>
      if (caller, .awaitingReady) ∈ st.pending then
        some { st.resume caller with readyAnswers := st.readyAnswers ++ [st.client.ready] }
      else none
  | .recvLoop =>
      if st.thread = .looping then
        some { st with
          thread :=
            if st.client.recvThreadRunning && !st.client.disposed then
              .receiving st.client.socketFd
            else .leaving }
      else none
  | .recv chunk =>
      match st.thread, chunk with
      | .receiving (some _), some chunk =>
          if chunk ≠ [] ∧ chunk.length ≤ recvBufferSize then some (st.receive chunk) else none
      | .receiving _, none => some { st with thread := .leaving }
      | _, _ => none
  | .process => if st.thread = .processing then some st.processTurn else none
  | .recvThreadExits => if st.thread = .leaving then some st.exitReceiving else none

end RyuLdn.P2pClient
