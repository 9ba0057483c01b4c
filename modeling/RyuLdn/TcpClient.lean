import RyuLdn.ProtocolRoundTrip
import RyuLdn.StreamReassembly
import RyuLdn.TcpSocket

/-! `TcpClient` of `tcp_client.cpp`: the connection to the master server, its
direct sends and its receive side. A message structure is its byte image. Every
`send_*` fills the send buffer and hands `send_all` some of its bytes; `Prepared`
is what stands between the two. The send queue behind `send_proxy_data` has its
own module, which knows about threads. -/
namespace RyuLdn.TcpClient

open ProtocolCodec ProtocolTypes StreamReassembly TcpSocket

inductive ClientResult where
  | success | notConnected | alreadyConnected | connectionFailed | connectionLost | timeout
  | invalidPacket | protocolError | bufferTooSmall | encodingError
  | notInitialized | internalError
  deriving DecidableEq, Repr

/-- `WouldBlock` counts as a success: "not an error in async context". -/
def socketToClientResult : SocketResult → ClientResult
  | .success => .success
  | .wouldBlock => .success
  | .timeout => .timeout
  | .notConnected => .notConnected
  | .alreadyConnected => .alreadyConnected
  | .notInitialized => .notInitialized
  | .closed | .connectionReset => .connectionLost
  | .connectionRefused | .hostUnreachable | .networkDown | .invalidAddress => .connectionFailed
  | .socketError => .internalError

/-- `sizeof(m_send_buffer)`. -/
def sendBufferSize : Nat := 2048

def recvSize : Nat := 4096

structure Client where
  socket : Socket
  recvBuffer : PacketBuffer 0x2000
  sendBuffer : List UInt8

namespace Client

def new : Client := ⟨Socket.new, PacketBuffer.reset, List.replicate sendBufferSize 0⟩

def isConnected (t : Client) : Bool := t.socket.connected

/-- `TcpClient::initialize`; `socket_init` never fails. -/
def startUp (t : Client) : Bool × Client :=
  (true, { t with socket := { t.socket with initialized := true } })

def disconnect (t : Client) : Client where
  socket := if t.socket.connected then t.socket.close else t.socket
  recvBuffer := PacketBuffer.reset
  sendBuffer := t.sendBuffer

def connect (t : Client) (host : List UInt8) (useTls : Bool) (reply : ConnectReply)
    (threadStarted : Bool) : ClientResult × Client :=
  if t.socket.connected then (.alreadyConnected, t)
  else
    let idle := t.disconnect
    match idle.socket.connect host useTls reply with
    | (.success, socket) =>
        if threadStarted then
          (.success, { idle with socket := socket, recvBuffer := PacketBuffer.reset })
        else
          (.connectionLost, { idle with
            socket := socket.close
            recvBuffer := PacketBuffer.reset })
    | (result, socket) => (socketToClientResult result, { idle with socket := socket })

/-- What a `send_*` has done before `send_all`: given up, or filled the send buffer
and chosen the bytes to send. -/
inductive Prepared where
  | encodingError
  | bufferTooSmall
  | ready (sendBuffer data : List UInt8)

def sendPrepared (t : Client) (prepare : List UInt8 → Prepared) (turns : List Socket.WriteTurn) :
    ClientResult × Client :=
  if !t.socket.connected then (.notConnected, t)
  else
    match prepare t.sendBuffer with
    | .encodingError => (.encodingError, t)
    | .bufferTooSmall => (.bufferTooSmall, t)
    | .ready sendBuffer data =>
        match t.socket.sendAll data.length turns with
        | (result, _, socket) =>
            (socketToClientResult result, { t with socket := socket, sendBuffer := sendBuffer })

/-- `memcpy` to the start of the buffer. -/
def overwrite (buffer image : List UInt8) : List UInt8 := image ++ buffer.drop image.length

def encoded (result : EncodeResult × List UInt8) (buffer : List UInt8) : Prepared :=
  match result with
  | (.success, wire) => .ready (overwrite buffer wire) wire
  | _ => .encodingError

def message (type : PacketId) (image : List UInt8) : List UInt8 → Prepared :=
  encoded (encode sendBufferSize type image)

/-- A pointer and a size; the null pointer comes with any size. -/
inductive Blob where
  | null (size : Nat)
  | bytes (data : List UInt8)
  deriving DecidableEq

def Blob.size : Blob → Nat
  | .null size => size
  | .bytes data => data.length

def Blob.data : Blob → List UInt8
  | .null _ => []
  | .bytes data => data

/-- The hand-built packet of the two access point requests: its header announces
`advertise.size` bytes, and a null pointer supplies none of them. -/
def accessPoint (type : PacketId) (request : List UInt8) (advertise : Blob)
    (buffer : List UInt8) : Prepared :=
  let totalPayloadSize := request.length + advertise.size
  if totalPayloadSize > sendBufferSize - headerSize then .bufferTooSmall
  else
    let wire := encodeHeader type totalPayloadSize ++ request ++ advertise.data
    .ready (overwrite buffer wire) wire

def sendRaw (t : Client) (data : Blob) :=
  t.sendPrepared fun buffer => if data.data = [] then .encodingError else .ready buffer data.data

def sendInitialize (t : Client) (msg : Octets 0x16) :=
  t.sendPrepared (message .initializeMessage msg.bytes)

/-- `send_passphrase(const char*)`: at most 127 bytes, padded with zeros. -/
def sendPassphrase (t : Client) (passphrase : List UInt8) :=
  let text := passphrase.take 127
  t.sendPrepared (message .passphrase (text ++ List.replicate (0x80 - text.length) 0))

def sendPing (t : Client) (requester id : UInt8) :=
  t.sendPrepared (message .ping [requester, id])

def sendDisconnect (t : Client) (disconnectIp : UInt32) :=
  t.sendPrepared (message .disconnect (LittleEndian.bytes 4 disconnectIp.toNat))

def sendCreateAccessPoint (t : Client) (request : Octets 0xBC) (advertise : Blob) :=
  t.sendPrepared (accessPoint .createAccessPoint request.bytes advertise)

def sendConnect (t : Client) (request : Octets 0x500) :=
  t.sendPrepared (message .connect request.bytes)

def sendCreateAccessPointPrivate (t : Client) (request : Octets 0x13C) (advertise : Blob) :=
  t.sendPrepared (accessPoint .createAccessPointPrivate request.bytes advertise)

def sendConnectPrivate (t : Client) (request : Octets 0xBC) :=
  t.sendPrepared (message .connectPrivate request.bytes)

def sendScan (t : Client) (filter : Octets 0x60) :=
  t.sendPrepared (message .scan filter.bytes)

def sendSetAcceptPolicy (t : Client) (policy : UInt8) :=
  t.sendPrepared (message .setAcceptPolicy [policy])

/-- At most 384 bytes; a null pointer sends what an earlier packet left in the buffer. -/
def setAdvertiseData (data : Blob) (buffer : List UInt8) : Prepared :=
  let size := min data.size 384
  let filled := overwrite buffer (encodeHeader .setAdvertiseData size ++ data.data.take size)
  .ready filled (filled.take (headerSize + size))

def sendSetAdvertiseData (t : Client) (data : Blob) := t.sendPrepared (setAdvertiseData data)

def sendReject (t : Client) (nodeId disconnectReason : UInt32) :=
  t.sendPrepared (message .reject
    (LittleEndian.bytes 4 nodeId.toNat ++ LittleEndian.bytes 4 disconnectReason.toNat))

def encodeProxyData (info : ProxyInfo) (data : List UInt8) : EncodeResult × List UInt8 :=
  ProtocolRoundTrip.encodeProxyData sendBufferSize info data

/-- The caller's side of `send_proxy_data`: the packet goes to the send queue. -/
def sendProxyData (t : Client) (header : ProxyDataHeader) (data : List UInt8) :
    ClientResult × Client :=
  if !t.socket.connected then (.notConnected, t)
  else
    match encodeProxyData header.info data with
    | (.success, wire) =>
        (.success, { t with sendBuffer := overwrite t.sendBuffer wire })
    | _ => (.encodingError, t)

/-- The answers of one `recv`; the poll is made when the timeout is positive. -/
abbrev ReadTurn := PollReply × ReadReply

def receiveIntoBuffer (t : Client) (timeoutMs : Int) (turn : ReadTurn) : ClientResult × Client :=
  match t.socket.recv recvSize timeoutMs turn.1 turn.2 with
  | (.wouldBlock, _, socket) => (.timeout, { t with socket := socket })
  | (.timeout, _, socket) => (.timeout, { t with socket := socket })
  | (.closed, _, socket) => (.connectionLost, { t with socket := socket })
  | (.success, received, socket) =>
      if received = [] then (.connectionLost, { t with socket := socket })
      else
        match t.recvBuffer.append received with
        | (.success, recvBuffer) =>
            (.success, { t with socket := socket, recvBuffer := recvBuffer })
        | _ => (.invalidPacket, { t with socket := socket })
  | (result, _, socket) => (socketToClientResult result, { t with socket := socket })

/-- The loop of `receive_packet`; it ends in success with a complete packet at the
front. The answers it did not need are returned. -/
def receiveUntilComplete (timeoutMs : Int) : Client → List ReadTurn →
    ClientResult × Client × List ReadTurn
  | t, [] => if t.recvBuffer.hasCompletePacket then (.success, t, []) else (.timeout, t, [])
  | t, turn :: turns =>
      if t.recvBuffer.hasCompletePacket then (.success, t, turn :: turns)
      else
        match t.receiveIntoBuffer timeoutMs turn with
        | (.success, t) => receiveUntilComplete timeoutMs t turns
        | (result, t) => (result, t, turns)

structure Received where
  result : ClientResult
  type : UInt8
  payload : List UInt8
  deriving DecidableEq, Repr

def Received.failure (result : ClientResult) : Received := ⟨result, 0, []⟩

/-- The end of `receive_packet`: the packet at the front is copied out and consumed. -/
def takePacket (t : Client) (payloadBufferSize : Nat) : Received × Client :=
  match t.recvBuffer.peekPacketInfo with
  | (.success, packetSize) =>
      match decodeHeader t.recvBuffer.bytes with
      | (.success, header) =>
          let payloadSize := header.dataSize.toNat
          if payloadSize > payloadBufferSize then (.failure .bufferTooSmall, t)
          else
            (⟨.success, header.type, (t.recvBuffer.bytes.drop headerSize).take payloadSize⟩,
              { t with recvBuffer := t.recvBuffer.consume packetSize })
      | _ => (.failure .invalidPacket, t)
  | _ => (.failure .invalidPacket, t)

def receivePacket (t : Client) (payloadBufferSize : Nat) (timeoutMs : Int)
    (turns : List ReadTurn) : Received × Client × List ReadTurn :=
  if !t.socket.connected then (.failure .notConnected, t, turns)
  else
    match t.receiveUntilComplete timeoutMs turns with
    | (.success, t, turns) =>
        match t.takePacket payloadBufferSize with
        | (received, t) => (received, t, turns)
    | (result, t, turns) => (.failure result, t, turns)

def Lost (result : ClientResult) : Prop := result = .connectionLost ∨ result = .notConnected

theorem lost_socketToClientResult {result : SocketResult} {s : Socket}
    (gone : Socket.GoneWhenLost result s) (lost : Lost (socketToClientResult result)) :
    s.connected = false := by
  apply gone
  cases result <;> simp_all [Lost, socketToClientResult]

theorem disconnect_connected (t : Client) : t.disconnect.socket.connected = false := by
  unfold disconnect
  cases up : t.socket.connected <;> simp [up, Socket.close]

theorem connect_connected {t : Client} (idle : t.socket.connected = false) (host : List UInt8)
    (useTls : Bool) (reply : ConnectReply) (threadStarted : Bool)
    (failed : (t.connect host useTls reply threadStarted).1 ≠ .success) :
    (t.connect host useTls reply threadStarted).2.socket.connected = false := by
  have ends := Socket.connect_connected host useTls reply (disconnect_connected t)
  revert failed
  unfold connect
  simp only [idle, Bool.false_eq_true, if_false]
  generalize t.disconnect.socket.connect host useTls reply = outcome at ends
  obtain ⟨result, socket⟩ := outcome
  cases result <;> cases threadStarted <;> simp_all [Socket.close]

theorem connect_alreadyConnected {t : Client} (idle : t.socket.connected = false)
    {host : List UInt8} {useTls : Bool} {reply : ConnectReply} {threadStarted : Bool}
    (refused : (t.connect host useTls reply threadStarted).1 = .alreadyConnected) :
    reply = .failed .eisconn := by
  revert refused
  unfold connect
  simp only [idle, Bool.false_eq_true, if_false]
  have idle' := disconnect_connected t
  generalize t.disconnect = t' at idle'
  unfold Socket.connect
  by_cases early : t'.socket.initialized = true
  · by_cases empty : host = []
    · simp [early, empty, socketToClientResult]
    · simp only [early, empty, idle', Bool.not_true, Bool.false_eq_true, if_false]
      cases reply with
      | failed errno => cases errno <;> cases threadStarted <;>
          simp [errnoToResult, socketToClientResult]
      | tlsFailed => cases useTls <;> cases threadStarted <;> simp [socketToClientResult]
      | _ => cases threadStarted <;> simp [socketToClientResult]
  · simp [early, socketToClientResult]

theorem sendPrepared_lost {t : Client} {prepare : List UInt8 → Prepared}
    {turns : List Socket.WriteTurn} (lost : Lost (t.sendPrepared prepare turns).1) :
    (t.sendPrepared prepare turns).2.socket.connected = false := by
  revert lost
  unfold sendPrepared
  by_cases up : t.socket.connected = true
  · simp only [up, Bool.not_true, Bool.false_eq_true, if_false]
    cases prepare t.sendBuffer with
    | encodingError => simp [Lost]
    | bufferTooSmall => simp [Lost]
    | ready sendBuffer data =>
        intro lost
        exact lost_socketToClientResult
          (Socket.sendAllFrom_goneWhenLost 5000 data.length turns 0 t.socket) lost
  · simp [up]

theorem sendPrepared_recvBuffer (t : Client) (prepare : List UInt8 → Prepared)
    (turns : List Socket.WriteTurn) : (t.sendPrepared prepare turns).2.recvBuffer = t.recvBuffer := by
  unfold sendPrepared
  split
  · rfl
  · cases prepare t.sendBuffer <;> rfl

theorem sendProxyData_recvBuffer (t : Client) (header : ProxyDataHeader) (data : List UInt8) :
    (t.sendProxyData header data).2.recvBuffer = t.recvBuffer := by
  unfold sendProxyData
  split
  · rfl
  · obtain ⟨result, wire⟩ := encodeProxyData header.info data
    cases result <;> rfl

theorem sendProxyData_lost {t : Client} {header : ProxyDataHeader} {data : List UInt8}
    (lost : Lost (t.sendProxyData header data).1) :
    (t.sendProxyData header data).2.socket.connected = false := by
  revert lost
  unfold sendProxyData
  by_cases up : t.socket.connected = true
  · simp only [up, Bool.not_true, Bool.false_eq_true, if_false]
    obtain ⟨result, wire⟩ := encodeProxyData header.info data
    cases result <;> simp [Lost]
  · simp [up]

theorem receiveIntoBuffer_lost (t : Client) (timeoutMs : Int) (turn : ReadTurn)
    (lost : Lost (t.receiveIntoBuffer timeoutMs turn).1) :
    (t.receiveIntoBuffer timeoutMs turn).2.socket.connected = false := by
  revert lost
  unfold receiveIntoBuffer
  rcases t.socket.recv_cases recvSize timeoutMs turn.1 turn.2 with
    ⟨bytes, some, read⟩ | ⟨result, after, failed, unread, gone⟩
  · rw [read]
    simp only [some, if_false]
    generalize t.recvBuffer.append bytes = appended
    obtain ⟨result, recvBuffer⟩ := appended
    cases result <;> simp [Lost]
  · rw [failed]
    cases result <;> simp_all [Lost, socketToClientResult, Socket.GoneWhenLost]

theorem receiveUntilComplete_lost (timeoutMs : Int) (turns : List ReadTurn) (t : Client)
    (lost : Lost (t.receiveUntilComplete timeoutMs turns).1) :
    (t.receiveUntilComplete timeoutMs turns).2.1.socket.connected = false := by
  induction turns generalizing t with
  | nil =>
      revert lost
      unfold receiveUntilComplete
      split <;> simp [Lost]
  | cons turn turns ih =>
      have one := receiveIntoBuffer_lost t timeoutMs turn
      revert lost
      unfold receiveUntilComplete
      by_cases complete : t.recvBuffer.hasCompletePacket = true
      · simp [complete, Lost]
      · simp only [complete, Bool.false_eq_true, if_false]
        generalize t.receiveIntoBuffer timeoutMs turn = outcome at one
        obtain ⟨result, after⟩ := outcome
        cases result
        case success => exact ih after
        all_goals exact one

theorem takePacket_lost (t : Client) (payloadBufferSize : Nat) :
    ¬ Lost (t.takePacket payloadBufferSize).1.result := by
  unfold takePacket
  generalize t.recvBuffer.peekPacketInfo = peeked
  generalize decodeHeader t.recvBuffer.bytes = decoded
  obtain ⟨peek, packetSize⟩ := peeked
  obtain ⟨decode, header⟩ := decoded
  cases peek
  case success =>
    cases decode
    case success =>
      dsimp only
      split <;> simp [Lost, Received.failure]
    all_goals simp [Lost, Received.failure]
  all_goals simp [Lost, Received.failure]

theorem receivePacket_lost {t : Client} {payloadBufferSize : Nat} {timeoutMs : Int}
    {turns : List ReadTurn}
    (lost : Lost (t.receivePacket payloadBufferSize timeoutMs turns).1.result) :
    (t.receivePacket payloadBufferSize timeoutMs turns).2.1.socket.connected = false := by
  have loop := receiveUntilComplete_lost timeoutMs turns t
  revert lost
  unfold receivePacket
  by_cases up : t.socket.connected = true
  · simp only [up, Bool.not_true, Bool.false_eq_true, if_false]
    generalize t.receiveUntilComplete timeoutMs turns = outcome at loop
    obtain ⟨result, after, rest⟩ := outcome
    cases result
    case success =>
      intro lost
      exact absurd lost (takePacket_lost after payloadBufferSize)
    all_goals exact loop
  · simp [up]

theorem receiveIntoBuffer_socket (t : Client) (timeoutMs : Int) (turn : ReadTurn)
    (ok : (t.receiveIntoBuffer timeoutMs turn).1 = .success) :
    (t.receiveIntoBuffer timeoutMs turn).2.socket = t.socket := by
  revert ok
  unfold receiveIntoBuffer
  rcases t.socket.recv_cases recvSize timeoutMs turn.1 turn.2 with
    ⟨bytes, some, read⟩ | ⟨result, after, failed, unread, -⟩
  · rw [read]
    simp only [some, if_false]
    generalize t.recvBuffer.append bytes = appended
    obtain ⟨result, recvBuffer⟩ := appended
    cases result <;> simp
  · rw [failed]
    cases result <;> simp_all [socketToClientResult]

theorem receiveUntilComplete_socket (timeoutMs : Int) (turns : List ReadTurn) (t : Client)
    (ok : (t.receiveUntilComplete timeoutMs turns).1 = .success) :
    (t.receiveUntilComplete timeoutMs turns).2.1.socket = t.socket := by
  induction turns generalizing t with
  | nil =>
      revert ok
      unfold receiveUntilComplete
      split <;> simp
  | cons turn turns ih =>
      have one := receiveIntoBuffer_socket t timeoutMs turn
      revert ok
      unfold receiveUntilComplete
      split
      · simp
      · generalize t.receiveIntoBuffer timeoutMs turn = outcome at one
        obtain ⟨result, after⟩ := outcome
        cases result
        case success =>
          intro ok
          exact (ih after ok).trans (one rfl)
        all_goals simp

theorem takePacket_socket (t : Client) (payloadBufferSize : Nat) :
    (t.takePacket payloadBufferSize).2.socket = t.socket := by
  unfold takePacket
  generalize t.recvBuffer.peekPacketInfo = peeked
  generalize decodeHeader t.recvBuffer.bytes = decoded
  obtain ⟨peek, packetSize⟩ := peeked
  obtain ⟨decode, header⟩ := decoded
  cases peek
  case success =>
    cases decode
    case success =>
      dsimp only
      split <;> rfl
    all_goals rfl
  all_goals rfl

theorem receivePacket_connected {t : Client} {payloadBufferSize : Nat} {timeoutMs : Int}
    {turns : List ReadTurn}
    (ok : (t.receivePacket payloadBufferSize timeoutMs turns).1.result = .success) :
    (t.receivePacket payloadBufferSize timeoutMs turns).2.1.socket.connected = true := by
  have loop := receiveUntilComplete_socket timeoutMs turns t
  revert ok
  unfold receivePacket
  by_cases up : t.socket.connected = true
  · simp only [up, Bool.not_true, Bool.false_eq_true, if_false]
    generalize t.receiveUntilComplete timeoutMs turns = outcome at loop
    obtain ⟨result, after, rest⟩ := outcome
    cases result
    case success =>
      intro _
      have same : after.socket = t.socket := loop rfl
      exact (congrArg Socket.connected (takePacket_socket after payloadBufferSize)).trans
        ((congrArg Socket.connected same).trans up)
    all_goals simp [Received.failure]
  · simp [up, Received.failure]

end Client

end RyuLdn.TcpClient
