import RyuLdn.ConnectionState
import RyuLdn.Reconnect
import RyuLdn.TcpClient

/-! `RyuLdnClient` of `client.cpp`. A public call is a function from the client
before it to the client after it, given the answers the system makes on the way
(`Replies`). What leaves the client is the list `log`: callbacks, TCP connection
attempts and packets handed to the TCP client, in order.

`m_last_rtt_ms` is never written after construction and is left out. -/
namespace RyuLdn.LdnClient

open ConnectionState ProtocolCodec ProtocolTypes Reconnect TcpSocket
open TcpClient (ClientResult)
open TcpClient.Client (Blob Lost ReadTurn)
open TcpSocket.Socket (WriteTurn)

inductive OpResult where
  | success | notConnected | notReady | alreadyConnected | connectionFailed | sendFailed
  | invalidState | timeout | protocolError | internalError
  deriving DecidableEq, Repr

def maxHostLength : Nat := 128

structure Config where
  host : List UInt8
  port : UInt16
  connectTimeoutMs : UInt32
  recvTimeoutMs : UInt32
  pingIntervalMs : UInt32
  reconnect : ReconnectConfig
  autoReconnect : Bool
  passphrase : List UInt8
  useTls : Bool
  deriving DecidableEq

def Config.default : Config where
  host := [49, 50, 55, 46, 48, 46, 48, 46, 49]
  port := 30456
  connectTimeoutMs := 5000
  recvTimeoutMs := 20
  pingIntervalMs := 0
  reconnect := ReconnectConfig.default
  autoReconnect := true
  passphrase := []
  useTls := false

/-! The values of `NetworkErrorCode` that the client compares with or stores. -/

def errorNone : UInt32 := 0
def errorVersionMismatch : UInt32 := 1
def errorInvalidSessionId : UInt32 := 3
def errorHandshakeTimeout : UInt32 := 4
def errorConnectionRejected : UInt32 := 202
def errorInternal : UInt32 := 900

/-- A call of one of the `TcpClient::send_*`, with its arguments. -/
inductive Request where
  | passphrase (text : List UInt8)
  | initializeMessage (msg : Octets 0x16)
  | ping (requester id : UInt8)
  | disconnect (disconnectIp : UInt32)
  | scan (filter : Octets 0x60)
  | createAccessPoint (request : Octets 0xBC) (advertise : Blob)
  | connect (request : Octets 0x500)
  | createAccessPointPrivate (request : Octets 0x13C) (advertise : Blob)
  | connectPrivate (request : Octets 0xBC)
  | proxyData (header : ProxyDataHeader) (data : List UInt8)
  | setAcceptPolicy (policy : UInt8)
  | setAdvertiseData (data : Blob)
  | reject (nodeId disconnectReason : UInt32)
  | raw (data : Blob)
  deriving DecidableEq

def Request.send (t : TcpClient.Client) (turns : List WriteTurn) :
    Request → ClientResult × TcpClient.Client
  | .passphrase text => t.sendPassphrase text turns
  | .initializeMessage msg => t.sendInitialize msg turns
  | .ping requester id => t.sendPing requester id turns
  | .disconnect disconnectIp => t.sendDisconnect disconnectIp turns
  | .scan filter => t.sendScan filter turns
  | .createAccessPoint request advertise => t.sendCreateAccessPoint request advertise turns
  | .connect request => t.sendConnect request turns
  | .createAccessPointPrivate request advertise =>
      t.sendCreateAccessPointPrivate request advertise turns
  | .connectPrivate request => t.sendConnectPrivate request turns
  | .proxyData header data => t.sendProxyData header data
  | .setAcceptPolicy policy => t.sendSetAcceptPolicy policy turns
  | .setAdvertiseData data => t.sendSetAdvertiseData data turns
  | .reject nodeId disconnectReason => t.sendReject nodeId disconnectReason turns
  | .raw data => t.sendRaw data turns

theorem Request.send_lost (request : Request) (t : TcpClient.Client) (turns : List WriteTurn)
    (lost : Lost (request.send t turns).1) :
    (request.send t turns).2.socket.connected = false := by
  cases request
  case proxyData header data => exact TcpClient.Client.sendProxyData_lost lost
  all_goals exact TcpClient.Client.sendPrepared_lost lost

theorem Request.send_recvBuffer (request : Request) (t : TcpClient.Client)
    (turns : List WriteTurn) : (request.send t turns).2.recvBuffer = t.recvBuffer := by
  cases request
  case proxyData header data => exact t.sendProxyData_recvBuffer header data
  all_goals exact t.sendPrepared_recvBuffer _ turns

inductive LogEntry where
  | stateChanged (old new : State)
  | packetReceived (type : UInt8) (data : List UInt8)
  | packetDelivered (type : UInt8) (payload : List UInt8)
  | tcpConnect (host : List UInt8) (port : UInt16) (timeoutMs : UInt32) (result : ClientResult)
  | tcpSend (request : Request) (result : ClientResult)
  deriving DecidableEq

/-- The answers of the system during one public call. Each packet delivered by
`process_packets` takes one entry of `echoes`, for the ping it may have to echo. -/
structure Replies where
  connect : ConnectReply
  threadStarted : Bool
  passphrase : List WriteTurn
  initializeMessage : List WriteTurn
  reads : List ReadTurn
  echoes : List (List WriteTurn)
  ping : List WriteTurn
  sessionId : Octets 16

def Replies.quiet : Replies := ⟨.established, true, [], [], [], [], [], default⟩

structure Client where
  config : Config
  tcp : TcpClient.Client
  machine : Machine
  reconnect : ReconnectManager
  stateCallback : Bool
  packetCallback : Bool
  lastPingTimeMs : UInt64
  backoffStartTimeMs : UInt64
  currentBackoffDelayMs : UInt32
  lastUpdateTimeMs : UInt64
  sessionId : Octets 16
  macAddress : Octets 6
  handshakeSent : Bool
  initialized : Bool
  handshakeStartTimeMs : UInt64
  handshakeTimeoutMs : UInt32
  lastErrorCode : UInt32
  lastPongTimeMs : UInt64
  pingTimeoutMs : UInt32
  pendingPingCount : UInt32
  pingId : UInt8
  backoffCounter : UInt32
  log : List LogEntry

namespace Client

def generateMacAddress : Octets 6 := ⟨[0x02, 0x00, 0x5e, 0x00, 0x53, 0x01], rfl⟩

def new (config : Config) (stateCallback packetCallback : Bool) (sessionId : Octets 16) :
    Client where
  config := config
  tcp := TcpClient.Client.new
  machine := Machine.new
  reconnect := ReconnectManager.new config.reconnect
  stateCallback := stateCallback
  packetCallback := packetCallback
  lastPingTimeMs := 0
  backoffStartTimeMs := 0
  currentBackoffDelayMs := 0
  lastUpdateTimeMs := 0
  sessionId := sessionId
  macAddress := generateMacAddress
  handshakeSent := false
  initialized := false
  handshakeStartTimeMs := 0
  handshakeTimeoutMs := 5000
  lastErrorCode := errorNone
  lastPongTimeMs := 0
  pingTimeoutMs := 10000
  pendingPingCount := 0
  pingId := 0
  backoffCounter := 0
  log := []

def state (c : Client) : State := c.machine.state

def setConfig (c : Client) (config : Config) : Client :=
  { c with
    config := config
    reconnect := c.reconnect.setConfig config.reconnect }

def setTcp (c : Client) (tcp : TcpClient.Client) : Client := { c with tcp := tcp }

def setReconnect (c : Client) (reconnect : ReconnectManager) : Client :=
  { c with reconnect := reconnect }

def setHandshakeSent (c : Client) (handshakeSent : Bool) : Client :=
  { c with handshakeSent := handshakeSent }

def setErrorCode (c : Client) (code : UInt32) : Client := { c with lastErrorCode := code }

def note (c : Client) (entry : LogEntry) : Client := { c with log := c.log ++ [entry] }

def notifyState (c : Client) (old new : State) : Client :=
  if c.stateCallback then c.note (.stateChanged old new) else c

def notifyChange (c : Client) (old : State) : Client :=
  if old ≠ c.state then c.notifyState old c.state else c

def notifyPacket (c : Client) (type : UInt8) (data : List UInt8) : Client :=
  if c.packetCallback then c.note (.packetReceived type data) else c

def processEvent (c : Client) (event : Event) : Client :=
  { c with machine := (c.machine.processEvent event).2 }

def callTcp (c : Client) (request : Request) (turns : List WriteTurn) : ClientResult × Client :=
  match request.send c.tcp turns with
  | (result, tcp) => (result, (c.setTcp tcp).note (.tcpSend request result))

def startBackoff (c : Client) : Client :=
  let backoffCounter := c.backoffCounter + 1
  let seed := (c.reconnect.retryCount + 1) * 2654435761 + backoffCounter * 40503
  { c with
    backoffStartTimeMs := c.lastUpdateTimeMs
    backoffCounter := backoffCounter
    currentBackoffDelayMs := c.reconnect.getNextDelayMsWithJitter seed }

def startBackoffIfAuto (c : Client) : Client :=
  if c.config.autoReconnect then c.startBackoff else c

def isBackoffExpired (c : Client) (currentTimeMs : UInt64) : Bool × Client :=
  if c.backoffStartTimeMs = 0 then (false, { c with backoffStartTimeMs := currentTimeMs })
  else (currentTimeMs - c.backoffStartTimeMs ≥ c.currentBackoffDelayMs.toUInt64, c)

def isHandshakeTimeout (c : Client) (currentTimeMs : UInt64) : Bool :=
  if c.handshakeStartTimeMs = 0 then false
  else currentTimeMs - c.handshakeStartTimeMs ≥ c.handshakeTimeoutMs.toUInt64

def tryConnect (c : Client) (os : Replies) : Client :=
  match c.tcp.connect c.config.host c.config.useTls os.connect os.threadStarted with
  | (result, tcp) =>
      let c := (c.setTcp tcp).note
        (.tcpConnect c.config.host c.config.port c.config.connectTimeoutMs result)
      if result = .success then
        let after := (c.processEvent .connectSuccess).setReconnect c.reconnect.reset
        after.notifyState c.state after.state
      else
        let after := (c.processEvent .connectFailed).setReconnect c.reconnect.recordFailure
        let after := after.startBackoffIfAuto
        after.notifyState c.state after.state

def setEndpoint (c : Client) (host : Option (List UInt8)) (port : UInt16) : Client :=
  { c with config := { c.config with
      host := (host.map (·.take maxHostLength)).getD c.config.host
      port := port } }

/-- The result of `TcpClient::initialize`, which is called once. -/
def ensureInitialized (c : Client) : Bool × Client :=
  if c.initialized then (true, c)
  else
    match c.tcp.startUp with
    | (true, tcp) => (true, { c.setTcp tcp with initialized := true })
    | (false, tcp) => (false, c.setTcp tcp)

def connectTo (c : Client) (host : Option (List UInt8)) (port : UInt16) (os : Replies) :
    OpResult × Client :=
  if (c.machine.isConnected ∨ c.machine.isTransitioning) ∧ c.state ≠ .backoff then
    (.alreadyConnected, c)
  else
    match (c.setEndpoint host port).ensureInitialized with
    | (false, c) => (.internalError, c)
    | (true, c) =>
        let c := c.setHandshakeSent false
        if (c.machine.processEvent .connect).1 = .success then
          let after := (c.processEvent .connect).tryConnect os
          (.success, after.notifyState .disconnected after.state)
        else (.invalidState, c.processEvent .connect)

def connect (c : Client) (os : Replies) : OpResult × Client :=
  c.connectTo (some c.config.host) c.config.port os

/-- The two events of `disconnect`: `Disconnecting` is left at once. -/
def leave (c : Client) : Client :=
  let after := c.processEvent .disconnect
  if after.state = .disconnecting then after.processEvent .connectionLost else after

def disconnect (c : Client) (turns : List WriteTurn) : Client :=
  let c := if c.machine.isReady then (c.callTcp (.disconnect 0) turns).2 else c
  let c := c.setTcp c.tcp.disconnect
  let after := (c.leave.setReconnect c.reconnect.reset).setHandshakeSent false
  after.notifyState c.state after.state

def isConnectionLost (result : ClientResult) : Bool := result = .connectionLost

/-- The shape of every `send_*`; `lost` are the results that end the connection. -/
def sendWhenReady (c : Client) (lost : ClientResult → Bool) (request : Request)
    (turns : List WriteTurn) : OpResult × Client :=
  if !c.machine.isReady then (.notReady, c)
  else
    match c.callTcp request turns with
    | (.success, c) => (.success, c)
    | (result, c) =>
        (.sendFailed, if lost result then (c.processEvent .connectionLost).notifyChange c.state
          else c)

def sendScan (c : Client) (filter : Octets 0x60) :=
  c.sendWhenReady isConnectionLost (.scan filter)

def sendCreateAccessPoint (c : Client) (request : Octets 0xBC) (advertise : Blob) :=
  c.sendWhenReady isConnectionLost (.createAccessPoint request advertise)

def sendConnect (c : Client) (request : Octets 0x500) :=
  c.sendWhenReady isConnectionLost (.connect request)

def sendCreateAccessPointPrivate (c : Client) (request : Octets 0x13C) :=
  c.sendWhenReady isConnectionLost (.createAccessPointPrivate request (.null 0))

def sendConnectPrivate (c : Client) (request : Octets 0xBC) :=
  c.sendWhenReady isConnectionLost (.connectPrivate request)

/-- The only one that also takes `NotConnected` for a lost connection. -/
def sendProxyData (c : Client) (header : ProxyDataHeader) (data : List UInt8) :=
  c.sendWhenReady (fun result => result = .connectionLost ∨ result = .notConnected)
    (.proxyData header data)

def sendPing (c : Client) (turns : List WriteTurn) : OpResult × Client :=
  if !c.machine.isReady then (.notReady, c)
  else
    { c with pingId := c.pingId + 1 }.sendWhenReady isConnectionLost (.ping 1 c.pingId) turns

def sendPingResponse (c : Client) (pingId : UInt8) :=
  c.sendWhenReady isConnectionLost (.ping 0 pingId)

def sendDisconnectNetwork (c : Client) :=
  c.sendWhenReady isConnectionLost (.disconnect 0)

def sendSetAcceptPolicy (c : Client) (policy : UInt8) :=
  c.sendWhenReady isConnectionLost (.setAcceptPolicy policy)

def sendSetAdvertiseData (c : Client) (data : Blob) :=
  c.sendWhenReady isConnectionLost (.setAdvertiseData data)

def sendReject (c : Client) (nodeId reason : UInt32) :=
  c.sendWhenReady isConnectionLost (.reject nodeId reason)

def sendRawPacket (c : Client) (data : Blob) :=
  c.sendWhenReady isConnectionLost (.raw data)

def connectionLostInHandshake (c : Client) : Client :=
  (c.processEvent .connectionLost).startBackoffIfAuto.notifyChange c.state

/-- The `InitializeMessage`: our session identifier and MAC address. -/
def initializeImage (c : Client) : Octets 0x16 :=
  ⟨c.sessionId.bytes ++ c.macAddress.bytes, by
    rw [List.length_append, c.sessionId.length_eq, c.macAddress.length_eq]⟩

def sendInHandshake (c : Client) (request : Request) (turns : List WriteTurn) :
    OpResult × Client :=
  match c.callTcp request turns with
  | (.connectionLost, c) => (.sendFailed, c.connectionLostInHandshake)
  | (.success, c) => (.success, c)
  | (_, c) => (.sendFailed, c)

def sendInitialize (c : Client) (os : Replies) : OpResult × Client :=
  match c.sendInHandshake (.passphrase c.config.passphrase) os.passphrase with
  | (.success, c) => c.sendInHandshake (.initializeMessage c.initializeImage) os.initializeMessage
  | failed => failed

def beginHandshake (c : Client) (currentTimeMs : UInt64) : Client :=
  { c with handshakeSent := true, handshakeStartTimeMs := currentTimeMs }

def updateConnected (c : Client) (currentTimeMs : UInt64) (os : Replies) : Client :=
  if c.handshakeSent then c
  else
    match c.sendInitialize os with
    | (.success, c) =>
        ((c.beginHandshake currentTimeMs).processEvent .handshakeStarted).notifyState
          .connected .handshaking
    | (_, c) => (c.processEvent .handshakeFailed).startBackoffIfAuto.notifyChange c.state

/-- `HandshakeFailed` with the callback that is made in any case. -/
def handshakeRejected (c : Client) : Client :=
  let failed := (c.processEvent .handshakeFailed).startBackoffIfAuto
  failed.notifyState c.state failed.state

def handshakeAccepted (c : Client) : Client :=
  let accepted := (c.setErrorCode errorNone).processEvent .handshakeSuccess
  accepted.notifyState c.state accepted.state

def storeAssigned (c : Client) (data : List UInt8) : Client :=
  if h : 0x16 ≤ data.length then
    { c with
      sessionId := ⟨data.take 16, by rw [List.length_take]; omega⟩
      macAddress := ⟨(data.drop 16).take 6, by rw [List.length_take, List.length_drop]; omega⟩ }
  else c

def networkErrorCode (data : List UInt8) : UInt32 :=
  if data.length ≥ 4 then UInt32.ofNat (field data 0 4) else errorInternal

def processHandshakeResponse (c : Client) (type : UInt8) (data : List UInt8)
    (freshSessionId : Octets 16) : Bool × Client :=
  match PacketId.ofByte type with
  | some .initializeMessage => (true, (c.storeAssigned data).handshakeAccepted)
  | some .networkError =>
      let code := networkErrorCode data
      let c := c.setErrorCode code
      if code = errorVersionMismatch then
        let fatal := c.processEvent .fatalError
        (true, fatal.notifyState c.state fatal.state)
      else
        let c := if code = errorInvalidSessionId then { c with sessionId := freshSessionId } else c
        (true, c.handshakeRejected)
  | some .syncNetwork => (true, c.handshakeAccepted)
  | some .disconnect =>
      (true, (c.setErrorCode errorConnectionRejected).handshakeRejected)
  | _ => (false, c.notifyPacket type data)

/-- `sizeof(recv_buffer)` of both callers of `receive_packet`. -/
def payloadBufferSize : Nat := 2048

/-- `recv_timeout_ms` as the `int32_t` that `receive_packet` takes. -/
def recvTimeout (c : Client) : Int := signed32 c.config.recvTimeoutMs.toNat

def receive (c : Client) (reads : List ReadTurn) :
    TcpClient.Client.Received × TcpClient.Client × List ReadTurn :=
  c.tcp.receivePacket payloadBufferSize c.recvTimeout reads

def handleHandshakingState (c : Client) (currentTimeMs : UInt64) (os : Replies) : Client :=
  if c.isHandshakeTimeout currentTimeMs then
    let c := c.setErrorCode errorHandshakeTimeout
    (c.processEvent .handshakeFailed).startBackoffIfAuto.notifyChange c.state
  else
    match c.receive os.reads with
    | (received, tcp, _) =>
        let c := c.setTcp tcp
        if received.result = .success then
          match c.processHandshakeResponse received.type received.payload os.sessionId with
          | (true, after) => after.notifyChange c.state
          | (false, after) => after
        else if received.result = .connectionLost then
          let lost := (c.processEvent .connectionLost).startBackoffIfAuto
          lost.notifyState c.state lost.state
        else c

def handlePacket (c : Client) (type : UInt8) (data : List UInt8) (echo : List WriteTurn) :
    Client :=
  match PacketId.ofByte type with
  | some .ping =>
      match data with
      | requester :: id :: _ =>
          if requester = 0 then (c.callTcp (.ping requester id) echo).2
          else { c with pendingPingCount := 0, lastPongTimeMs := c.lastPingTimeMs }
      | _ => c
  | some .disconnect => c.processEvent .disconnect
  | _ => c.notifyPacket type data

/-- The loop of `process_packets`, with a bound on the packets it delivers. -/
def processPacketsLoop : Nat → Client → List ReadTurn → List (List WriteTurn) → Client
  | 0, c, _, _ => c
  | rounds + 1, c, reads, echoes =>
      match c.receive reads with
      | (received, tcp, reads) =>
          let c := c.setTcp tcp
          match received.result with
          | .success =>
              let c := c.note (.packetDelivered received.type received.payload)
              processPacketsLoop rounds
                (c.handlePacket received.type received.payload (echoes.headD [])) reads echoes.tail
          | .connectionLost | .notConnected =>
              (c.processEvent .connectionLost).startBackoffIfAuto.notifyChange c.state
          | _ => c

def readSize : ReadTurn → Nat
  | (_, .data bytes) => bytes.length
  | (_, .failed _) => 0

def packetBound (c : Client) (reads : List ReadTurn) : Nat :=
  c.tcp.recvBuffer.size + (reads.map readSize).sum + 1

def processPackets (c : Client) (os : Replies) : Client :=
  if !c.tcp.isConnected then c
  else processPacketsLoop (c.packetBound os.reads) c os.reads os.echoes

def pingTimedOut (c : Client) (currentTimeMs : UInt64) : Bool :=
  c.pendingPingCount > 0 ∧ c.pingTimeoutMs > 0 ∧
    currentTimeMs - c.lastPingTimeMs ≥ c.pingTimeoutMs.toUInt64

def keepAlive (c : Client) (currentTimeMs : UInt64) (os : Replies) : Client :=
  if c.config.pingIntervalMs > 0 ∧
      currentTimeMs - c.lastPingTimeMs ≥ c.config.pingIntervalMs.toUInt64 then
    match c.sendPing os.ping with
    | (.success, c) =>
        { c with
          lastPingTimeMs := currentTimeMs
          pendingPingCount := c.pendingPingCount + 1 }
    | (_, c) => c
  else c

def handleReadyState (c : Client) (currentTimeMs : UInt64) (os : Replies) : Client :=
  let c := c.processPackets os
  if c.pingTimedOut currentTimeMs then
    let lost := (c.processEvent .connectionLost).startBackoffIfAuto
    lost.notifyState c.state lost.state
  else c.keepAlive currentTimeMs os

def updateBackoff (c : Client) (currentTimeMs : UInt64) (os : Replies) : Client :=
  match c.isBackoffExpired currentTimeMs with
  | (true, c) =>
      let c := c.processEvent .backoffExpired
      (c.tryConnect os).notifyChange c.state
  | (false, c) => c

def tick (c : Client) (currentTimeMs : UInt64) : Client :=
  { c with lastUpdateTimeMs := currentTimeMs }

def update (c : Client) (currentTimeMs : UInt64) (os : Replies) : Client :=
  let c := c.tick currentTimeMs
  match c.state with
  | .disconnected | .connecting | .retrying | .error => c
  | .connected => c.updateConnected currentTimeMs os
  | .handshaking => c.handleHandshakingState currentTimeMs os
  | .ready => c.handleReadyState currentTimeMs os
  | .backoff => c.updateBackoff currentTimeMs os
  | .disconnecting =>
      let after := c.processEvent .connectionLost
      after.notifyState c.state after.state

end Client

end RyuLdn.LdnClient
