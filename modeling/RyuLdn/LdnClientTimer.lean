import RyuLdn.LdnClientRuns

/-! The backoff timer of `RyuLdnClient` and its connection attempts. `Timer` is the
part of the client these results speak about; as with `Core`, each function of the
client has one lemma that says what it can do to it. -/
namespace RyuLdn.LdnClient

open ConnectionState ProtocolCodec ProtocolTypes Reconnect TcpSocket
open TcpClient (ClientResult)
open TcpClient.Client (ReadTurn)
open TcpSocket.Socket (WriteTurn)

@[ext] structure Timer where
  startTimeMs : UInt64
  delayMs : UInt32
  counter : UInt32
  lastUpdateMs : UInt64
  auto : Bool
  manager : ReconnectManager
  attempts : List ClientResult

namespace Timer

/-- The delay `start_backoff` asks for when its counter has reached `counter`. -/
def delayAt (manager : ReconnectManager) (counter : UInt32) : UInt32 :=
  manager.getNextDelayMsWithJitter ((manager.retryCount + 1) * 2654435761 + counter * 40503)

def arm (v : Timer) : Timer :=
  { v with
    startTimeMs := v.lastUpdateMs
    counter := v.counter + 1
    delayMs := delayAt v.manager (v.counter + 1) }

def armIfAuto (v : Timer) : Timer := if v.auto then v.arm else v

/-- The timer after one or two calls of `start_backoff` guarded by `auto_reconnect`. -/
def Rearmed (v v' : Timer) : Prop := v' = v.armIfAuto ∨ v' = v.armIfAuto.armIfAuto

structure SameManager (v v' : Timer) : Prop where
  auto : v'.auto = v.auto
  manager : v'.manager = v.manager
  attempts : v'.attempts = v.attempts
  lastUpdate : v'.lastUpdateMs = v.lastUpdateMs

theorem SameManager.refl (v : Timer) : SameManager v v := ⟨rfl, rfl, rfl, rfl⟩

theorem sameManager_armIfAuto (v : Timer) : SameManager v v.armIfAuto := by
  unfold armIfAuto
  split <;> exact ⟨rfl, rfl, rfl, rfl⟩

theorem SameManager.trans {u v w : Timer} (first : SameManager u v) (second : SameManager v w) :
    SameManager u w :=
  ⟨second.auto.trans first.auto, second.manager.trans first.manager,
    second.attempts.trans first.attempts, second.lastUpdate.trans first.lastUpdate⟩

theorem Rearmed.sameManager {v v' : Timer} (rearmed : Rearmed v v') : SameManager v v' := by
  rcases rearmed with rfl | rfl
  · exact sameManager_armIfAuto v
  · exact (sameManager_armIfAuto v).trans (sameManager_armIfAuto v.armIfAuto)

end Timer

namespace Client

def attempts (c : Client) : List ClientResult :=
  c.log.filterMap fun
    | .tcpConnect _ _ _ result => some result
    | _ => none

def timer (c : Client) : Timer :=
  ⟨c.backoffStartTimeMs, c.currentBackoffDelayMs, c.backoffCounter, c.lastUpdateTimeMs,
    c.config.autoReconnect, c.reconnect, c.attempts⟩

section View

variable (c : Client)

@[simp] theorem timer_setTcp (tcp : TcpClient.Client) : (c.setTcp tcp).timer = c.timer := rfl

@[simp] theorem timer_setReconnect (manager : ReconnectManager) :
    (c.setReconnect manager).timer = { c.timer with manager := manager } := rfl

@[simp] theorem timer_setHandshakeSent (sent : Bool) :
    (c.setHandshakeSent sent).timer = c.timer := rfl

@[simp] theorem timer_beginHandshake (currentTimeMs : UInt64) :
    (c.beginHandshake currentTimeMs).timer = c.timer := rfl

@[simp] theorem timer_setErrorCode (code : UInt32) : (c.setErrorCode code).timer = c.timer := rfl

@[simp] theorem timer_processEvent (e : Event) : (c.processEvent e).timer = c.timer := rfl

theorem timer_note {entry : LogEntry} (other : ∀ host port timeout result,
    entry ≠ .tcpConnect host port timeout result) : (c.note entry).timer = c.timer := by
  have same : (c.note entry).attempts = c.attempts := by
    cases entry with
    | tcpConnect host port timeout result => exact absurd rfl (other host port timeout result)
    | _ => simp [attempts, note]
  simp only [timer, same]
  rfl

@[simp] theorem timer_notifyState (old new : State) :
    (c.notifyState old new).timer = c.timer := by
  unfold notifyState
  split
  · exact c.timer_note (by simp)
  · rfl

@[simp] theorem timer_notifyChange (old : State) : (c.notifyChange old).timer = c.timer := by
  unfold notifyChange
  split
  · exact c.timer_notifyState old c.state
  · rfl

@[simp] theorem timer_notifyPacket (type : UInt8) (data : List UInt8) :
    (c.notifyPacket type data).timer = c.timer := by
  unfold notifyPacket
  split
  · exact c.timer_note (by simp)
  · rfl

@[simp] theorem timer_startBackoffIfAuto : c.startBackoffIfAuto.timer = c.timer.armIfAuto := by
  unfold startBackoffIfAuto Timer.armIfAuto
  have auto : c.timer.auto = c.config.autoReconnect := rfl
  rw [auto]
  split <;> rfl

@[simp] theorem timer_callTcp (request : Request) (turns : List WriteTurn) :
    (c.callTcp request turns).2.timer = c.timer :=
  (c.setTcp (request.send c.tcp turns).2).timer_note (by simp)

@[simp] theorem timer_sendWhenReady (lost : ClientResult → Bool) (request : Request)
    (turns : List WriteTurn) : (c.sendWhenReady lost request turns).2.timer = c.timer := by
  unfold sendWhenReady
  split
  · rfl
  · have called := c.timer_callTcp request turns
    generalize c.callTcp request turns = sent at called
    obtain ⟨result, d⟩ := sent
    cases result
    case success => exact called
    all_goals
      dsimp only at called ⊢
      split
      · rw [timer_notifyChange, timer_processEvent]
        exact called
      · exact called

@[simp] theorem timer_sendPing (turns : List WriteTurn) :
    (c.sendPing turns).2.timer = c.timer := by
  unfold sendPing
  split
  · rfl
  · exact timer_sendWhenReady { c with pingId := c.pingId + 1 } isConnectionLost _ turns

theorem timer_sendCall (call : SendCall) (turns : List WriteTurn) :
    (call.run c turns).2.timer = c.timer := by
  cases call
  case ping => exact c.timer_sendPing turns
  all_goals exact c.timer_sendWhenReady _ _ turns

def afterAttempt (v : Timer) (result : ClientResult) : Timer :=
  if result = .success then
    { v with manager := v.manager.reset, attempts := v.attempts ++ [result] }
  else
    Timer.armIfAuto
      { v with manager := v.manager.recordFailure, attempts := v.attempts ++ [result] }

theorem attempts_afterAttempt (v : Timer) (result : ClientResult) :
    (afterAttempt v result).attempts = v.attempts ++ [result] := by
  unfold afterAttempt
  split
  · rfl
  · exact (Timer.sameManager_armIfAuto _).attempts

theorem manager_afterAttempt (v : Timer) (result : ClientResult) :
    (afterAttempt v result).manager =
      if result = .success then v.manager.reset else v.manager.recordFailure := by
  unfold afterAttempt
  split
  · rfl
  · exact (Timer.sameManager_armIfAuto _).manager

theorem timer_tryConnect (os : Replies) :
    (c.tryConnect os).timer = afterAttempt c.timer (c.dial os).1 := by
  unfold tryConnect dial afterAttempt
  generalize c.tcp.connect c.config.host c.config.useTls os.connect os.threadStarted = dialled
  obtain ⟨result, tcp⟩ := dialled
  dsimp only
  have noted : ((c.setTcp tcp).note (.tcpConnect c.config.host c.config.port
      c.config.connectTimeoutMs result)).timer =
        { c.timer with attempts := c.timer.attempts ++ [result] } := by
    simp [timer, attempts, note, setTcp]
  split
  · rw [timer_notifyState, timer_setReconnect, timer_processEvent, noted]
    rfl
  · rw [timer_notifyState, timer_startBackoffIfAuto, timer_setReconnect, timer_processEvent, noted]
    rfl

theorem timer_ensureInitialized : c.ensureInitialized.2.timer = c.timer := by
  unfold ensureInitialized
  split <;> rfl

theorem timer_disconnect (turns : List WriteTurn) :
    (c.disconnect turns).timer = { c.timer with manager := c.timer.manager.reset } := by
  have left : ∀ d : Client, d.leave.timer = d.timer := by
    intro d
    unfold leave
    dsimp only
    split <;> rfl
  unfold disconnect
  split
  · simp only [timer_notifyState, timer_setHandshakeSent, timer_setReconnect, left, timer_setTcp,
      timer_callTcp]
    rfl
  · simp only [timer_notifyState, timer_setHandshakeSent, timer_setReconnect, left, timer_setTcp]
    rfl

theorem timer_connectTo (host : Option (List UInt8)) (port : UInt16) (os : Replies) :
    (c.connectTo host port os).2.timer = c.timer ∧
        (c.connectTo host port os).2.core.state = c.core.state ∨
      c.core.state = .disconnected ∧ ∃ result,
        (c.connectTo host port os).2.timer = afterAttempt c.timer result ∧
          (c.connectTo host port os).2.core.state =
            if result = .success then .connected else .backoff := by
  unfold connectTo
  obtain ⟨d, initialized, same⟩ := (c.setEndpoint host port).ensureInitialized_eq
  have timer_d : d.timer = c.timer := by
    have kept := (c.setEndpoint host port).timer_ensureInitialized
    rw [initialized] at kept
    exact kept
  rw [initialized]
  split
  · exact Or.inl ⟨rfl, rfl⟩
  · dsimp only
    have core_e : (d.setHandshakeSent false).core.state = c.core.state := by
      rw [core_setHandshakeSent, same]
      rfl
    have timer_e : (d.setHandshakeSent false).timer = c.timer := timer_d
    generalize d.setHandshakeSent false = e at core_e timer_e
    have accepted := Machine.processEvent_success e.machine .connect
    have moved := congrArg Core.state (core_processEvent e .connect)
    have here : e.machine.state = c.core.state := core_e
    rw [here] at accepted
    split
    · rename_i ok
      right
      have idle := disconnected_of_connect (accepted.mp ok)
      have dialling : (e.processEvent .connect).core.state = .connecting := by
        rw [moved]
        exact Core.event_state (core_e.trans idle) .connect
      refine ⟨idle, ((e.processEvent .connect).dial os).1, ?_, ?_⟩
      · rw [timer_notifyState, timer_tryConnect, timer_processEvent, timer_e]
      · rw [core_notifyState, core_tryConnect os (Or.inl dialling)]
    · rename_i refused
      left
      have invalid := Option.not_isSome_iff_eq_none.mp (mt accepted.mpr refused)
      refine ⟨timer_e, ?_⟩
      rw [moved, Core.event, core_e, invalid]
      rfl

/-- Either nothing happens to the timer and the client is not in `Backoff` after it,
or the timer is started. -/
def Settles (c d : Client) : Prop :=
  d.timer = c.timer ∧ d.core.state ≠ .backoff ∨ Timer.Rearmed c.timer d.timer

theorem timer_connectionLostInHandshake :
    c.connectionLostInHandshake.timer = c.timer.armIfAuto := by
  unfold connectionLostInHandshake
  rw [timer_notifyChange, timer_startBackoffIfAuto, timer_processEvent]

theorem timer_sendInHandshake (request : Request) (turns : List WriteTurn) :
    (c.sendInHandshake request turns).2.timer = c.timer ∨
      (c.sendInHandshake request turns).1 ≠ .success ∧
        (c.sendInHandshake request turns).2.timer = c.timer.armIfAuto := by
  have called := c.timer_callTcp request turns
  unfold sendInHandshake
  generalize c.callTcp request turns = sent at called
  obtain ⟨result, d⟩ := sent
  dsimp only at called
  cases result
  case connectionLost =>
    refine Or.inr ⟨by simp, ?_⟩
    rw [timer_connectionLostInHandshake, called]
  all_goals exact Or.inl called

theorem timer_sendInitialize (os : Replies) :
    (c.sendInitialize os).2.timer = c.timer ∨
      (c.sendInitialize os).1 ≠ .success ∧
        (c.sendInitialize os).2.timer = c.timer.armIfAuto := by
  have first := c.timer_sendInHandshake (.passphrase c.config.passphrase) os.passphrase
  unfold sendInitialize
  generalize c.sendInHandshake (.passphrase c.config.passphrase) os.passphrase = sent at first
  obtain ⟨result, d⟩ := sent
  cases result
  case success =>
    have same : d.timer = c.timer := by
      rcases first with same | ⟨failed, _⟩
      · exact same
      · exact absurd rfl failed
    rw [← same]
    exact d.timer_sendInHandshake _ os.initializeMessage
  all_goals exact first

theorem settles_updateConnected (currentTimeMs : UInt64) (os : Replies)
    (here : c.core.state = .connected) : Settles c (c.updateConnected currentTimeMs os) := by
  by_cases sent : c.handshakeSent = true
  · have same : c.updateConnected currentTimeMs os = c := by
      rw [updateConnected, if_pos sent]
    rw [same]
    exact Or.inl ⟨rfl, by rw [here]; decide⟩
  · have unsent : c.core.handshakeSent = false := by
      change c.handshakeSent = false
      simpa using sent
    have state := congrArg Core.state (core_updateConnected currentTimeMs os here unsent)
    have started := c.timer_sendInitialize os
    have outcome := (sendInitialize_spec os here).1
    unfold updateConnected at state ⊢
    rw [if_neg sent] at state ⊢
    generalize c.sendInitialize os = sent at started outcome state
    obtain ⟨result, d⟩ := sent
    cases result
    case success =>
      left
      have same : d.timer = c.timer := by
        rcases started with same | ⟨failed, _⟩
        · exact same
        · exact absurd rfl failed
      refine ⟨by simpa using same, ?_⟩
      rw [state, if_pos (outcome.mp rfl)]
      simp
    all_goals
      right
      dsimp only at started
      rw [timer_notifyChange, timer_startBackoffIfAuto, timer_processEvent]
      rcases started with same | ⟨_, armed⟩
      · exact Or.inl (by rw [same])
      · exact Or.inr (by rw [armed])

theorem timer_processHandshakeResponse (type : UInt8) (data : List UInt8)
    (freshSessionId : Octets 16) :
    (c.processHandshakeResponse type data freshSessionId).2.timer = c.timer ∧
        handshakeOutcome type data ≠ .backoff ∨
      (c.processHandshakeResponse type data freshSessionId).2.timer = c.timer.armIfAuto := by
  have accepted : ∀ d : Client, d.timer = c.timer → d.handshakeAccepted.timer = c.timer := by
    intro d same
    unfold handshakeAccepted
    simpa using same
  have rejected : ∀ d : Client, d.timer = c.timer →
      d.handshakeRejected.timer = c.timer.armIfAuto := by
    intro d same
    unfold handshakeRejected
    simp [same]
  unfold processHandshakeResponse handshakeOutcome
  cases PacketId.ofByte type with
  | none => exact Or.inl ⟨by simp, by simp⟩
  | some id =>
      cases id
      case initializeMessage =>
        refine Or.inl ⟨accepted _ ?_, by simp⟩
        unfold storeAssigned
        split <;> rfl
      case networkError =>
        dsimp only
        split
        · exact Or.inl ⟨by simp, by simp⟩
        · refine Or.inr (rejected _ ?_)
          split <;> rfl
      case syncNetwork => exact Or.inl ⟨accepted c rfl, by simp⟩
      case disconnect => exact Or.inr (rejected _ rfl)
      all_goals exact Or.inl ⟨by simp, by simp⟩

theorem settles_handleHandshakingState (currentTimeMs : UInt64) (os : Replies)
    (here : c.core.state = .handshaking) :
    Settles c (c.handleHandshakingState currentTimeMs os) := by
  have state := congrArg Core.state (core_handleHandshakingState currentTimeMs os here)
  unfold handleHandshakingState at state ⊢
  split
  · exact Or.inr (Or.inl (by simp))
  · rename_i inTime
    rw [if_neg inTime, if_neg inTime] at state
    generalize c.receive os.reads = outcome at state
    obtain ⟨received, tcp, rest⟩ := outcome
    dsimp only at state ⊢
    have response := (c.setTcp tcp).timer_processHandshakeResponse received.type received.payload
      os.sessionId
    generalize (c.setTcp tcp).processHandshakeResponse received.type received.payload
      os.sessionId = answered at response state
    obtain ⟨finished, d⟩ := answered
    unfold handshakeNext at state
    by_cases ok : received.result = .success
    · rw [if_pos ok, if_pos ok] at state
      rw [if_pos ok]
      rcases response with ⟨same, elsewhere⟩ | armed
      · refine Or.inl ⟨?_, by rw [state]; exact elsewhere⟩
        cases finished
        case true => exact (d.timer_notifyChange _).trans same
        case false => exact same
      · refine Or.inr (Or.inl ?_)
        cases finished
        case true => exact (d.timer_notifyChange _).trans armed
        case false => exact armed
    · rw [if_neg ok, if_neg ok] at state
      rw [if_neg ok]
      by_cases lost : received.result = .connectionLost
      · rw [if_pos lost]
        exact Or.inr (Or.inl (by simp))
      · rw [if_neg lost, if_neg lost] at state
        rw [if_neg lost]
        exact Or.inl ⟨rfl, by rw [state]; simp⟩

theorem timer_handlePacket (type : UInt8) (data : List UInt8) (echo : List WriteTurn) :
    (c.handlePacket type data echo).timer = c.timer := by
  unfold handlePacket
  cases PacketId.ofByte type with
  | none => simp
  | some id =>
      cases id
      case ping =>
        dsimp only
        split
        · split
          · exact c.timer_callTcp _ echo
          · rfl
        · rfl
      case disconnect => rfl
      all_goals simp

end View

theorem timer_processPacketsLoop (rounds : Nat) {c : Client} (reads : List ReadTurn)
    (echoes : List (List WriteTurn)) (serving : c.core.Serving) :
    (processPacketsLoop rounds c reads echoes).timer = c.timer ∧
        (processPacketsLoop rounds c reads echoes).core.Serving ∨
      (processPacketsLoop rounds c reads echoes).timer = c.timer.armIfAuto ∧
        ¬ (processPacketsLoop rounds c reads echoes).core.Serving := by
  induction rounds generalizing c reads echoes with
  | zero => exact Or.inl ⟨rfl, serving⟩
  | succ rounds ih =>
      unfold processPacketsLoop
      generalize c.receive reads = outcome
      obtain ⟨received, tcp, rest⟩ := outcome
      dsimp only
      have serving' : (c.setTcp tcp).core.Serving := serving
      have lost : (((c.setTcp tcp).processEvent .connectionLost).startBackoffIfAuto.notifyChange
            (c.setTcp tcp).state).timer = c.timer.armIfAuto ∧
          ¬ (((c.setTcp tcp).processEvent .connectionLost).startBackoffIfAuto.notifyChange
            (c.setTcp tcp).state).core.Serving := by
        refine ⟨by simp, ?_⟩
        rw [core_notifyChange, core_startBackoffIfAuto, core_processEvent]
        unfold Core.Serving
        rcases serving' with here | here
        · rw [Core.event_state here]
          decide
        · rw [Core.event_state here]
          decide
      cases received.result
      case success =>
        obtain ⟨still, _⟩ := handlePacket_effect
          (c := (c.setTcp tcp).note (.packetDelivered received.type received.payload))
          received.type received.payload (echoes.headD []) serving'
        have later := ih rest echoes.tail still
        have same := timer_handlePacket
          ((c.setTcp tcp).note (.packetDelivered received.type received.payload))
          received.type received.payload (echoes.headD [])
        rw [timer_note _ (by simp), timer_setTcp] at same
        rw [same] at later
        exact later
      case connectionLost => exact Or.inr lost
      case notConnected => exact Or.inr lost
      all_goals exact Or.inl ⟨rfl, serving'⟩

theorem timer_processPackets {c : Client} (os : Replies) (serving : c.core.Serving) :
    (c.processPackets os).timer = c.timer ∧ (c.processPackets os).core.Serving ∨
      (c.processPackets os).timer = c.timer.armIfAuto ∧ ¬ (c.processPackets os).core.Serving := by
  unfold processPackets
  split
  · exact Or.inl ⟨rfl, serving⟩
  · exact timer_processPacketsLoop _ os.reads os.echoes serving

def pingLost (c : Client) (currentTimeMs : UInt64) (os : Replies) : Bool :=
  c.config.pingIntervalMs > 0 ∧
    currentTimeMs - c.lastPingTimeMs ≥ c.config.pingIntervalMs.toUInt64 ∧
    c.machine.isReady ∧ ((Request.ping 1 c.pingId).send c.tcp os.ping).1 = .connectionLost

theorem timer_keepAlive (c : Client) (currentTimeMs : UInt64) (os : Replies) :
    (c.keepAlive currentTimeMs os).timer = c.timer := by
  have sent := c.timer_sendPing os.ping
  unfold keepAlive
  split
  · generalize c.sendPing os.ping = outcome at sent
    obtain ⟨result, d⟩ := outcome
    cases result
    all_goals exact sent
  · rfl

theorem state_keepAlive {c : Client} {currentTimeMs : UInt64} {os : Replies}
    (kept : c.pingLost currentTimeMs os = false) :
    (c.keepAlive currentTimeMs os).core.state = c.core.state := by
  unfold keepAlive
  split
  · rename_i due
    have sent : (c.sendPing os.ping).2.core.state = c.core.state := by
      unfold sendPing
      split
      · rfl
      · rename_i ready
        have isReady : c.machine.isReady = true := by simpa using ready
        have alive : ((Request.ping 1 c.pingId).send c.tcp os.ping).1 ≠ .connectionLost := by
          intro lost
          simp [pingLost, due.1, due.2, isReady, lost] at kept
        unfold sendWhenReady
        have called : ((({ c with pingId := c.pingId + 1 } : Client).callTcp (.ping 1 c.pingId)
            os.ping).1 = ((Request.ping 1 c.pingId).send c.tcp os.ping).1) ∧
            (({ c with pingId := c.pingId + 1 } : Client).callTcp (.ping 1 c.pingId)
              os.ping).2.core.state = c.core.state := ⟨rfl, rfl⟩
        generalize ({ c with pingId := c.pingId + 1 } : Client).callTcp (.ping 1 c.pingId) os.ping =
          outcome at called
        obtain ⟨result, d⟩ := outcome
        simp only [isReady, Bool.not_true, Bool.false_eq_true, if_false]
        dsimp only at called
        rw [← called.1] at alive
        cases result
        case connectionLost => exact absurd rfl alive
        all_goals exact called.2
    generalize c.sendPing os.ping = outcome at sent
    obtain ⟨result, d⟩ := outcome
    cases result
    all_goals exact sent
  · rfl

theorem timer_handleReadyState {c : Client} (currentTimeMs : UInt64) (os : Replies)
    (here : c.core.state = .ready) :
    (c.handleReadyState currentTimeMs os).timer = c.timer ∧
        ((c.processPackets os).pingLost currentTimeMs os = false →
          (c.handleReadyState currentTimeMs os).core.state ≠ .backoff) ∨
      Timer.Rearmed c.timer (c.handleReadyState currentTimeMs os).timer := by
  have served := timer_processPackets os (Or.inl here : c.core.Serving)
  unfold handleReadyState
  dsimp only
  split
  · right
    rw [timer_notifyState, timer_startBackoffIfAuto, timer_processEvent]
    rcases served with ⟨same, _⟩ | ⟨armed, _⟩
    · exact Or.inl (by rw [same])
    · exact Or.inr (by rw [armed])
  · rw [timer_keepAlive]
    rcases served with ⟨same, serving⟩ | ⟨armed, _⟩
    · refine Or.inl ⟨same, ?_⟩
      intro kept
      rw [state_keepAlive kept]
      rcases serving with ready | disconnecting
      · rw [ready]
        decide
      · rw [disconnecting]
        decide
    · exact Or.inr (Or.inl armed)

theorem updateBackoff_expired {c : Client} {currentTimeMs : UInt64} (os : Replies)
    (expired : (c.isBackoffExpired currentTimeMs).1 = true) :
    (c.updateBackoff currentTimeMs os).timer = afterAttempt c.timer (c.dial os).1 := by
  have same : (c.isBackoffExpired currentTimeMs).2 = c := by
    revert expired
    unfold isBackoffExpired
    split <;> simp
  unfold updateBackoff
  generalize c.isBackoffExpired currentTimeMs = outcome at expired same
  obtain ⟨answer, d⟩ := outcome
  cases expired
  cases same
  dsimp only
  rw [timer_notifyChange, timer_tryConnect, timer_processEvent]
  rfl

theorem updateBackoff_waits {c : Client} {currentTimeMs : UInt64} (os : Replies)
    (waits : (c.isBackoffExpired currentTimeMs).1 = false) :
    (c.updateBackoff currentTimeMs os).timer =
      if c.backoffStartTimeMs = 0 then { c.timer with startTimeMs := currentTimeMs }
      else c.timer := by
  have after : (c.updateBackoff currentTimeMs os) = (c.isBackoffExpired currentTimeMs).2 := by
    unfold updateBackoff
    generalize c.isBackoffExpired currentTimeMs = outcome at waits
    obtain ⟨answer, d⟩ := outcome
    cases waits
    rfl
  rw [after]
  unfold isBackoffExpired
  split <;> rfl

theorem isBackoffExpired_tick (c : Client) (currentTimeMs : UInt64) :
    ((c.tick currentTimeMs).isBackoffExpired currentTimeMs).1 =
      (c.isBackoffExpired currentTimeMs).1 := by
  unfold isBackoffExpired tick
  split <;> rfl

theorem timer_update_expired {c : Client} (here : c.core.state = .backoff)
    {currentTimeMs : UInt64} (expired : (c.isBackoffExpired currentTimeMs).1 = true)
    (os : Replies) :
    (c.update currentTimeMs os).timer =
      afterAttempt (c.tick currentTimeMs).timer ((c.tick currentTimeMs).dial os).1 := by
  rw [update_of_backoff here]
  exact updateBackoff_expired os ((isBackoffExpired_tick c currentTimeMs).trans expired)

theorem timer_update_waits {c : Client} (here : c.core.state = .backoff)
    {currentTimeMs : UInt64} (waits : (c.isBackoffExpired currentTimeMs).1 = false)
    (os : Replies) :
    (c.update currentTimeMs os).timer =
      if c.backoffStartTimeMs = 0 then
        { (c.tick currentTimeMs).timer with startTimeMs := currentTimeMs }
      else (c.tick currentTimeMs).timer := by
  rw [update_of_backoff here]
  exact updateBackoff_waits os ((isBackoffExpired_tick c currentTimeMs).trans waits)

theorem sameManager_update_waits {c : Client} (here : c.core.state = .backoff)
    {currentTimeMs : UInt64} (waits : (c.isBackoffExpired currentTimeMs).1 = false)
    (os : Replies) :
    Timer.SameManager (c.tick currentTimeMs).timer (c.update currentTimeMs os).timer := by
  rw [timer_update_waits here waits os]
  split <;> exact ⟨rfl, rfl, rfl, rfl⟩

theorem settles_update {c : Client} {currentTimeMs : UInt64} {os : Replies}
    (away : c.core.state ≠ .backoff)
    (kept : c.core.state = .ready →
      ((c.tick currentTimeMs).processPackets os).pingLost currentTimeMs os = false) :
    Settles (c.tick currentTimeMs) (c.update currentTimeMs os) := by
  have same : (c.tick currentTimeMs).state = c.core.state := rfl
  have still : (c.tick currentTimeMs).core.state ≠ .backoff := away
  have idle : ∀ d : Client, d.timer = (c.tick currentTimeMs).timer → d.core.state ≠ .backoff →
      Settles (c.tick currentTimeMs) d := fun d timer state => Or.inl ⟨timer, state⟩
  unfold update
  dsimp only
  rw [same]
  cases here : c.core.state with
  | disconnected | connecting | retrying | error =>
      exact idle _ rfl still
  | connected => exact settles_updateConnected _ currentTimeMs os here
  | handshaking => exact settles_handleHandshakingState _ currentTimeMs os here
  | ready =>
      rcases timer_handleReadyState (c := c.tick currentTimeMs) currentTimeMs os here with
        ⟨same, state⟩ | rearmed
      · exact idle _ same (state (kept here))
      · exact Or.inr rearmed
  | backoff => exact absurd here away
  | disconnecting =>
      refine idle _ (by simp) ?_
      have there : (c.tick currentTimeMs).core.state = .disconnecting := here
      rw [core_notifyState, core_processEvent, Core.event_state there]
      decide

theorem Settles.sameManager {c d : Client} (settles : Settles c d) :
    Timer.SameManager c.timer d.timer := by
  rcases settles with ⟨same, _⟩ | rearmed
  · rw [same]
    exact Timer.SameManager.refl c.timer
  · exact rearmed.sameManager

theorem sameManager_update {c : Client} (away : c.core.state ≠ .backoff) (currentTimeMs : UInt64)
    (os : Replies) :
    Timer.SameManager (c.tick currentTimeMs).timer (c.update currentTimeMs os).timer := by
  by_cases here : c.core.state = .ready
  · rw [update_of_ready here]
    rcases timer_handleReadyState (c := c.tick currentTimeMs) currentTimeMs os here with
      ⟨same, _⟩ | rearmed
    · rw [same]
      exact Timer.SameManager.refl _
    · exact rearmed.sameManager
  · exact (settles_update away (fun ready => absurd ready here)).sameManager

end Client

end RyuLdn.LdnClient
