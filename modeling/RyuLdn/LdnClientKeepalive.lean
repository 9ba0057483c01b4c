import RyuLdn.LdnClientBackoff

/-! The keepalive of `RyuLdnClient`. `Keepalive` is the part of the client these results
speak about; a record beside the client puts times to what the log has of it: the
connections made, the pings sent and the pongs that came. -/
namespace RyuLdn.LdnClient

open ConnectionState ProtocolCodec ProtocolTypes TcpSocket
open TcpClient (ClientResult)
open TcpClient.Client (ReadTurn)
open TcpSocket.Socket (WriteTurn)

inductive Beat where
  | connected | ping | pong
  deriving DecidableEq, Repr

def isPong (type : UInt8) : List UInt8 → Bool
  | requester :: _ :: _ => PacketId.ofByte type = some .ping && requester != 0
  | _ => false

def beat : LogEntry → Option Beat
  | .tcpConnect _ _ _ .success => some .connected
  | .tcpSend (.ping requester _) .success => if requester = 0 then none else some .ping
  | .packetDelivered type payload => if isPong type payload then some .pong else none
  | _ => none

@[ext] structure Keepalive where
  pending : UInt32
  lastPingMs : UInt64
  limitMs : UInt32
  beats : List Beat

def Keepalive.add (v : Keepalive) (new : List Beat) : Keepalive :=
  { v with beats := v.beats ++ new }

@[simp] theorem Keepalive.add_nil (v : Keepalive) : v.add [] = v := by
  simp [Keepalive.add]

namespace Client

def keepalive (c : Client) : Keepalive :=
  ⟨c.pendingPingCount, c.lastPingTimeMs, c.pingTimeoutMs, c.log.filterMap beat⟩

section View

variable (c : Client)

@[simp] theorem keepalive_setTcp (tcp : TcpClient.Client) :
    (c.setTcp tcp).keepalive = c.keepalive := rfl

@[simp] theorem keepalive_setReconnect (manager : Reconnect.ReconnectManager) :
    (c.setReconnect manager).keepalive = c.keepalive := rfl

@[simp] theorem keepalive_setHandshakeSent (sent : Bool) :
    (c.setHandshakeSent sent).keepalive = c.keepalive := rfl

@[simp] theorem keepalive_beginHandshake (currentTimeMs : UInt64) :
    (c.beginHandshake currentTimeMs).keepalive = c.keepalive := rfl

@[simp] theorem keepalive_setErrorCode (code : UInt32) :
    (c.setErrorCode code).keepalive = c.keepalive := rfl

@[simp] theorem keepalive_processEvent (e : Event) :
    (c.processEvent e).keepalive = c.keepalive := rfl

@[simp] theorem keepalive_note (entry : LogEntry) :
    (c.note entry).keepalive = c.keepalive.add (beat entry).toList := by
  have beats : (c.note entry).log.filterMap beat =
      c.log.filterMap beat ++ (beat entry).toList := by
    unfold note
    rw [List.filterMap_append]
    cases noted : beat entry <;> simp [noted]
  exact Keepalive.ext rfl rfl rfl beats

@[simp] theorem keepalive_notifyState (old new : State) :
    (c.notifyState old new).keepalive = c.keepalive := by
  unfold notifyState
  split
  · rw [keepalive_note]
    exact c.keepalive.add_nil
  · rfl

@[simp] theorem keepalive_notifyChange (old : State) :
    (c.notifyChange old).keepalive = c.keepalive := by
  unfold notifyChange
  split
  · exact c.keepalive_notifyState old c.state
  · rfl

@[simp] theorem keepalive_notifyPacket (type : UInt8) (data : List UInt8) :
    (c.notifyPacket type data).keepalive = c.keepalive := by
  unfold notifyPacket
  split
  · rw [keepalive_note]
    exact c.keepalive.add_nil
  · rfl

@[simp] theorem keepalive_startBackoffIfAuto : c.startBackoffIfAuto.keepalive = c.keepalive := by
  unfold startBackoffIfAuto
  split <;> rfl

theorem keepalive_callTcp (request : Request) (turns : List WriteTurn) :
    (c.callTcp request turns).2.keepalive =
      if (c.callTcp request turns).1 = .success then
        c.keepalive.add (beat (.tcpSend request .success)).toList
      else c.keepalive := by
  have noted : (c.callTcp request turns).2.keepalive =
      c.keepalive.add (beat (.tcpSend request (c.callTcp request turns).1)).toList :=
    (c.setTcp (request.send c.tcp turns).2).keepalive_note _
  rw [noted]
  generalize (c.callTcp request turns).1 = result
  split
  · rename_i sent
    rw [sent]
  · rename_i failed
    have none : beat (.tcpSend request result) = none := by
      cases request <;> cases result <;> first | rfl | contradiction
    rw [none]
    exact c.keepalive.add_nil

theorem keepalive_sendWhenReady (lost : ClientResult → Bool) (request : Request)
    (turns : List WriteTurn) :
    (c.sendWhenReady lost request turns).2.keepalive =
      if (c.sendWhenReady lost request turns).1 = .success then
        c.keepalive.add (beat (.tcpSend request .success)).toList
      else c.keepalive := by
  unfold sendWhenReady
  split
  · simp
  · have called := c.keepalive_callTcp request turns
    generalize c.callTcp request turns = sent at called
    obtain ⟨result, d⟩ := sent
    dsimp only at called
    cases result
    case success =>
      rw [if_pos rfl] at called
      rw [if_pos rfl]
      exact called
    all_goals
      rw [if_neg (by simp)] at called
      rw [if_neg (by simp)]
      dsimp only
      split
      · rw [keepalive_notifyChange, keepalive_processEvent]
        exact called
      · exact called

theorem keepalive_sendPing (turns : List WriteTurn) :
    (c.sendPing turns).2.keepalive =
      if (c.sendPing turns).1 = .success then c.keepalive.add [.ping] else c.keepalive := by
  unfold sendPing
  split
  · simp
  · exact keepalive_sendWhenReady { c with pingId := c.pingId + 1 } isConnectionLost _ turns

theorem keepalive_sendCall (call : SendCall) (turns : List WriteTurn) :
    ∃ pings, (call.run c turns).2.keepalive = c.keepalive.add (List.replicate pings .ping) := by
  have plain : ∀ (lost : ClientResult → Bool) (request : Request),
      beat (.tcpSend request .success) = none →
        (c.sendWhenReady lost request turns).2.keepalive = c.keepalive := by
    intro lost request none
    rw [keepalive_sendWhenReady, none]
    simp
  cases call
  case ping =>
    have sent := c.keepalive_sendPing turns
    unfold SendCall.run
    dsimp only
    rw [sent]
    split
    · exact ⟨1, rfl⟩
    · exact ⟨0, by simp⟩
  all_goals exact ⟨0, (plain _ _ rfl).trans (by simp)⟩

def Connects (c d : Client) : Prop :=
  d.keepalive = c.keepalive ∨ d.keepalive = c.keepalive.add [.connected]

theorem connects_tryConnect (os : Replies) : Connects c (c.tryConnect os) := by
  unfold Connects tryConnect
  generalize c.tcp.connect c.config.host c.config.useTls os.connect os.threadStarted = dialled
  obtain ⟨result, tcp⟩ := dialled
  cases result
  case success =>
    right
    simp [beat]
  all_goals
    left
    simp [beat]

theorem keepalive_ensureInitialized : c.ensureInitialized.2.keepalive = c.keepalive := by
  unfold ensureInitialized
  split <;> rfl

theorem connects_connectTo (host : Option (List UInt8)) (port : UInt16) (os : Replies) :
    Connects c (c.connectTo host port os).2 := by
  have kept := (c.setEndpoint host port).keepalive_ensureInitialized
  obtain ⟨d, initialized, _⟩ := (c.setEndpoint host port).ensureInitialized_eq
  rw [initialized] at kept
  have same : d.keepalive = c.keepalive := kept
  unfold connectTo
  rw [initialized]
  split
  · exact Or.inl rfl
  · dsimp only
    split
    · have dialled := ((d.setHandshakeSent false).processEvent .connect).connects_tryConnect os
      unfold Connects at dialled ⊢
      rw [keepalive_processEvent, keepalive_setHandshakeSent, same] at dialled
      rw [keepalive_notifyState]
      exact dialled
    · exact Or.inl same

theorem keepalive_disconnect (turns : List WriteTurn) :
    (c.disconnect turns).keepalive = c.keepalive := by
  have left : ∀ d : Client, d.leave.keepalive = d.keepalive := by
    intro d
    unfold leave
    dsimp only
    split <;> rfl
  have announced : (c.callTcp (.disconnect 0) turns).2.keepalive = c.keepalive := by
    rw [keepalive_callTcp]
    split <;> simp [beat]
  unfold disconnect
  split <;>
    simp only [keepalive_notifyState, keepalive_setHandshakeSent, keepalive_setReconnect, left,
      keepalive_setTcp, announced]

theorem keepalive_sendInHandshake (request : Request) (turns : List WriteTurn)
    (none : beat (.tcpSend request .success) = none) :
    (c.sendInHandshake request turns).2.keepalive = c.keepalive := by
  have called : (c.callTcp request turns).2.keepalive = c.keepalive := by
    rw [keepalive_callTcp, none]
    split <;> simp
  unfold sendInHandshake
  generalize c.callTcp request turns = sent at called
  obtain ⟨result, d⟩ := sent
  dsimp only at called
  cases result
  case connectionLost =>
    unfold connectionLostInHandshake
    rw [keepalive_notifyChange, keepalive_startBackoffIfAuto, keepalive_processEvent]
    exact called
  all_goals exact called

theorem keepalive_sendInitialize (os : Replies) :
    (c.sendInitialize os).2.keepalive = c.keepalive := by
  have first := c.keepalive_sendInHandshake (.passphrase c.config.passphrase) os.passphrase rfl
  unfold sendInitialize
  generalize c.sendInHandshake (.passphrase c.config.passphrase) os.passphrase = sent at first
  obtain ⟨result, d⟩ := sent
  cases result
  case success =>
    have second := d.keepalive_sendInHandshake (.initializeMessage d.initializeImage)
      os.initializeMessage rfl
    exact second.trans first
  all_goals exact first

theorem keepalive_updateConnected (currentTimeMs : UInt64) (os : Replies) :
    (c.updateConnected currentTimeMs os).keepalive = c.keepalive := by
  have sent := c.keepalive_sendInitialize os
  unfold updateConnected
  split
  · rfl
  · generalize c.sendInitialize os = outcome at sent
    obtain ⟨result, d⟩ := outcome
    cases result
    case success => simpa using sent
    all_goals simpa using sent

theorem keepalive_processHandshakeResponse (type : UInt8) (data : List UInt8)
    (freshSessionId : Octets 16) :
    (c.processHandshakeResponse type data freshSessionId).2.keepalive = c.keepalive := by
  have accepted : ∀ d : Client, d.handshakeAccepted.keepalive = d.keepalive := by
    intro d
    unfold handshakeAccepted
    simp
  have rejected : ∀ d : Client, d.handshakeRejected.keepalive = d.keepalive := by
    intro d
    unfold handshakeRejected
    simp
  unfold processHandshakeResponse
  cases PacketId.ofByte type with
  | none => simp
  | some id =>
      cases id
      case initializeMessage =>
        dsimp only
        rw [accepted]
        unfold storeAssigned
        split <;> rfl
      case networkError =>
        dsimp only
        split
        · simp
        · rw [rejected]
          split <;> rfl
      case syncNetwork => exact accepted c
      case disconnect => exact rejected _
      all_goals simp

theorem keepalive_handleHandshakingState (currentTimeMs : UInt64) (os : Replies) :
    (c.handleHandshakingState currentTimeMs os).keepalive = c.keepalive := by
  unfold handleHandshakingState
  split
  · simp
  · generalize c.receive os.reads = outcome
    obtain ⟨received, tcp, rest⟩ := outcome
    dsimp only
    have response := (c.setTcp tcp).keepalive_processHandshakeResponse received.type
      received.payload os.sessionId
    generalize (c.setTcp tcp).processHandshakeResponse received.type received.payload
      os.sessionId = answered at response
    obtain ⟨finished, d⟩ := answered
    split
    · cases finished
      case true => exact (d.keepalive_notifyChange _).trans response
      case false => exact response
    · split
      · simp
      · rfl

theorem keepalive_handlePacket (type : UInt8) (data : List UInt8) (echo : List WriteTurn) :
    (c.handlePacket type data echo).keepalive =
      if isPong type data then { c.keepalive with pending := 0 } else c.keepalive := by
  unfold handlePacket
  by_cases ping : PacketId.ofByte type = some .ping
  · rw [ping]
    dsimp only
    split
    · rename_i requester id rest
      by_cases echoed : requester = 0
      · have none : isPong type (requester :: id :: rest) = false := by simp [isPong, echoed]
        rw [if_pos echoed, none, keepalive_callTcp]
        split <;> simp [beat, echoed]
      · have pong : isPong type (requester :: id :: rest) = true := by simp [isPong, ping, echoed]
        rw [if_neg echoed, pong]
        rfl
    · rename_i short
      have none : isPong type data = false := by
        unfold isPong
        split
        · rename_i requester id rest
          exact absurd rfl (short requester id rest)
        · rfl
      rw [none]
      rfl
  · have none : isPong type data = false := by
      unfold isPong
      split <;> simp [ping]
    rw [none]
    cases named : PacketId.ofByte type with
    | none => simp
    | some id => cases id <;> first | contradiction | simp

end View

end Client

/-- The pongs of one `update`: any one answers all pings. -/
def Keepalive.answer (v : Keepalive) (pongs : Nat) : Keepalive :=
  { v.add (List.replicate pongs .pong) with pending := if pongs = 0 then v.pending else 0 }

def Keepalive.sendPing (v : Keepalive) (currentTimeMs : UInt64) : Keepalive :=
  { v.add [.ping] with pending := v.pending + 1, lastPingMs := currentTimeMs }

@[simp] theorem Keepalive.answer_zero (v : Keepalive) : v.answer 0 = v := by
  simp [Keepalive.answer, Keepalive.add]

theorem Keepalive.answer_succ (v : Keepalive) (pongs : Nat) :
    ({ v.add [.pong] with pending := 0 } : Keepalive).answer pongs = v.answer (pongs + 1) := by
  unfold Keepalive.answer Keepalive.add
  simp [List.replicate_succ]

namespace Client

theorem keepalive_processPacketsLoop (rounds : Nat) (c : Client) (reads : List ReadTurn)
    (echoes : List (List WriteTurn)) :
    ∃ pongs, (processPacketsLoop rounds c reads echoes).keepalive = c.keepalive.answer pongs := by
  induction rounds generalizing c reads echoes with
  | zero => exact ⟨0, by simp [processPacketsLoop]⟩
  | succ rounds ih =>
      unfold processPacketsLoop
      generalize c.receive reads = outcome
      obtain ⟨received, tcp, rest⟩ := outcome
      dsimp only
      cases received.result
      case success =>
        dsimp only
        have handled := keepalive_handlePacket
          ((c.setTcp tcp).note (.packetDelivered received.type received.payload))
          received.type received.payload (echoes.headD [])
        obtain ⟨pongs, later⟩ := ih (((c.setTcp tcp).note
          (.packetDelivered received.type received.payload)).handlePacket received.type
            received.payload (echoes.headD [])) rest echoes.tail
        rw [keepalive_note, keepalive_setTcp] at handled
        rw [handled] at later
        rw [later]
        by_cases pong : isPong received.type received.payload = true
        · refine ⟨pongs + 1, ?_⟩
          rw [if_pos pong, ← Keepalive.answer_succ]
          simp [beat, pong]
        · refine ⟨pongs, ?_⟩
          rw [if_neg pong]
          simp [beat, pong]
      case connectionLost | notConnected => exact ⟨0, by simp⟩
      all_goals exact ⟨0, by simp⟩

theorem keepalive_processPackets (c : Client) (os : Replies) :
    ∃ pongs, (c.processPackets os).keepalive = c.keepalive.answer pongs := by
  unfold processPackets
  split
  · exact ⟨0, by simp⟩
  · exact keepalive_processPacketsLoop _ c os.reads os.echoes

theorem keepalive_keepAlive (c : Client) (currentTimeMs : UInt64) (os : Replies) :
    (c.keepAlive currentTimeMs os).keepalive = c.keepalive ∨
      (c.keepAlive currentTimeMs os).keepalive = c.keepalive.sendPing currentTimeMs := by
  have sent := c.keepalive_sendPing os.ping
  unfold keepAlive
  split
  · generalize c.sendPing os.ping = outcome at sent
    obtain ⟨result, d⟩ := outcome
    cases result
    case success =>
      right
      rw [if_pos rfl] at sent
      have counted : keepalive { d with
          lastPingTimeMs := currentTimeMs
          pendingPingCount := d.pendingPingCount + 1 } =
            { d.keepalive with pending := d.keepalive.pending + 1, lastPingMs := currentTimeMs } :=
        rfl
      rw [counted, sent]
      rfl
    all_goals
      left
      simpa using sent
  · exact Or.inl rfl

theorem keepalive_handleReadyState (c : Client) (currentTimeMs : UInt64) (os : Replies) :
    ∃ pongs, (c.processPackets os).keepalive = c.keepalive.answer pongs ∧
      ((c.handleReadyState currentTimeMs os).keepalive = c.keepalive.answer pongs ∨
        (c.processPackets os).pingTimedOut currentTimeMs = false ∧
          (c.handleReadyState currentTimeMs os).keepalive =
            (c.keepalive.answer pongs).sendPing currentTimeMs) := by
  obtain ⟨pongs, served⟩ := c.keepalive_processPackets os
  refine ⟨pongs, served, ?_⟩
  have kept := (c.processPackets os).keepalive_keepAlive currentTimeMs os
  rw [served] at kept
  unfold handleReadyState
  dsimp only
  split
  · left
    rw [keepalive_notifyState, keepalive_startBackoffIfAuto, keepalive_processEvent]
    exact served
  · rename_i inTime
    rcases kept with same | pinged
    · exact Or.inl same
    · exact Or.inr ⟨by simpa using inTime, pinged⟩

theorem connects_updateBackoff (c : Client) (currentTimeMs : UInt64) (os : Replies) :
    Connects c (c.updateBackoff currentTimeMs os) := by
  have kept : (c.isBackoffExpired currentTimeMs).2.keepalive = c.keepalive := by
    unfold isBackoffExpired
    split <;> rfl
  unfold updateBackoff
  generalize c.isBackoffExpired currentTimeMs = outcome at kept
  obtain ⟨expired, d⟩ := outcome
  have same : d.keepalive = c.keepalive := kept
  cases expired with
  | false => exact Or.inl same
  | true =>
      have dialled := (d.processEvent .backoffExpired).connects_tryConnect os
      unfold Connects at dialled ⊢
      dsimp only
      rw [keepalive_processEvent, same] at dialled
      rw [keepalive_notifyChange]
      exact dialled

theorem connects_update {c : Client} (away : c.state ≠ .ready) (currentTimeMs : UInt64)
    (os : Replies) : Connects c (c.update currentTimeMs os) := by
  have same : (c.tick currentTimeMs).state = c.state := rfl
  unfold update
  dsimp only
  rw [same]
  cases here : c.state with
  | disconnected | connecting | retrying | error => exact Or.inl rfl
  | connected => exact Or.inl ((c.tick currentTimeMs).keepalive_updateConnected currentTimeMs os)
  | handshaking =>
      exact Or.inl ((c.tick currentTimeMs).keepalive_handleHandshakingState currentTimeMs os)
  | ready => exact absurd here away
  | backoff => exact (c.tick currentTimeMs).connects_updateBackoff currentTimeMs os
  | disconnecting =>
      left
      rw [keepalive_notifyState, keepalive_processEvent]
      rfl

theorem connects_step {c : Client} (away : c.state ≠ .ready) (a : Action) :
    Connects c (step c a) := by
  cases a with
  | connect os => exact c.connects_connectTo _ _ os
  | connectTo host port os => exact c.connects_connectTo host port os
  | disconnect turns => exact Or.inl (c.keepalive_disconnect turns)
  | update currentTimeMs os => exact connects_update away currentTimeMs os
  | send call turns =>
      have idle : c.machine.isReady = false := decide_eq_false away
      left
      unfold step
      dsimp only
      rw [sendCall_notReady idle]
  | setConfig config => exact Or.inl rfl
  | socketLost => exact Or.inl rfl

theorem keepalive_step_ready {c : Client} (here : c.state = .ready) {a : Action}
    (explicit : LdnClientBackoff.isUpdate a = false) :
    ∃ pings, (step c a).keepalive = c.keepalive.add (List.replicate pings .ping) := by
  have refused : ∀ host port os, c.connectTo host port os = (.alreadyConnected, c) := by
    intro host port os
    have busy : (c.machine.isConnected ∨ c.machine.isTransitioning) ∧ c.state ≠ .backoff := by
      have ready : c.machine.state = .ready := here
      simp [here, Machine.isConnected, ready]
    unfold connectTo
    rw [if_pos busy]
  cases a with
  | connect os =>
      refine ⟨0, ?_⟩
      unfold step connect
      dsimp only
      rw [refused]
      simp
  | connectTo host port os =>
      refine ⟨0, ?_⟩
      unfold step
      dsimp only
      rw [refused]
      simp
  | disconnect turns => exact ⟨0, (c.keepalive_disconnect turns).trans (by simp)⟩
  | update currentTimeMs os => cases explicit
  | send call turns => exact c.keepalive_sendCall call turns
  | setConfig config => exact ⟨0, by simp [step, setConfig, keepalive]⟩
  | socketLost => exact ⟨0, by simp [step, loseSocket, keepalive]⟩

end Client

end RyuLdn.LdnClient
