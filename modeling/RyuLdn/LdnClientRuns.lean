import RyuLdn.LdnClient
import RyuLdn.TransitionSystem

/-! Runs of `RyuLdnClient`: public calls in any order with any answers of the
system, and the sender thread, which may lose the socket between two calls.

`Core` is the part of the client that the connection results speak about. Each
function of the client has one lemma that says what it can do to the core. -/
namespace RyuLdn.LdnClient

open ConnectionState ProtocolCodec ProtocolTypes TcpSocket
open TcpClient (ClientResult)
open TcpClient.Client (Blob Lost ReadTurn)
open TcpSocket.Socket (WriteTurn)

inductive SendCall where
  | scan (filter : Octets 0x60)
  | createAccessPoint (request : Octets 0xBC) (advertise : Blob)
  | connect (request : Octets 0x500)
  | createAccessPointPrivate (request : Octets 0x13C)
  | connectPrivate (request : Octets 0xBC)
  | proxyData (header : ProxyDataHeader) (data : List UInt8)
  | ping
  | pingResponse (pingId : UInt8)
  | disconnectNetwork
  | setAcceptPolicy (policy : UInt8)
  | setAdvertiseData (data : Blob)
  | reject (nodeId reason : UInt32)
  | rawPacket (data : Blob)

def SendCall.run (c : Client) (turns : List WriteTurn) : SendCall → OpResult × Client
  | .scan filter => c.sendScan filter turns
  | .createAccessPoint request advertise => c.sendCreateAccessPoint request advertise turns
  | .connect request => c.sendConnect request turns
  | .createAccessPointPrivate request => c.sendCreateAccessPointPrivate request turns
  | .connectPrivate request => c.sendConnectPrivate request turns
  | .proxyData header data => c.sendProxyData header data turns
  | .ping => c.sendPing turns
  | .pingResponse pingId => c.sendPingResponse pingId turns
  | .disconnectNetwork => c.sendDisconnectNetwork turns
  | .setAcceptPolicy policy => c.sendSetAcceptPolicy policy turns
  | .setAdvertiseData data => c.sendSetAdvertiseData data turns
  | .reject nodeId reason => c.sendReject nodeId reason turns
  | .rawPacket data => c.sendRawPacket data turns

inductive Action where
  | connect (os : Replies)
  | connectTo (host : Option (List UInt8)) (port : UInt16) (os : Replies)
  | disconnect (turns : List WriteTurn)
  | update (currentTimeMs : UInt64) (os : Replies)
  | send (call : SendCall) (turns : List WriteTurn)
  | setConfig (config : Config)
  | socketLost

def Client.loseSocket (c : Client) : Client :=
  { c with tcp := { c.tcp with socket := { c.tcp.socket with connected := false } } }

def step (c : Client) : Action → Client
  | .connect os => (c.connect os).2
  | .connectTo host port os => (c.connectTo host port os).2
  | .disconnect turns => c.disconnect turns
  | .update currentTimeMs os => c.update currentTimeMs os
  | .send call turns => (call.run c turns).2
  | .setConfig config => c.setConfig config
  | .socketLost => c.loseSocket

@[ext] structure Core where
  state : State
  handshakeSent : Bool
  up : Bool

def Core.event (v : Core) (e : Event) : Core :=
  { v with state := (isValidTransition v.state e).getD v.state }

/-- A client in `Ready`, or in `Disconnecting` after a `Disconnect` packet. -/
def Core.Serving (v : Core) : Prop := v.state = .ready ∨ v.state = .disconnecting

@[simp] theorem Core.event_handshakeSent (v : Core) (e : Event) :
    (v.event e).handshakeSent = v.handshakeSent := rfl

@[simp] theorem Core.event_up (v : Core) (e : Event) : (v.event e).up = v.up := rfl

theorem Core.event_state {v : Core} {s : State} (here : v.state = s) (e : Event) :
    (v.event e).state = (isValidTransition s e).getD s := by
  rw [← here]
  rfl

namespace Client

def core (c : Client) : Core := ⟨c.state, c.handshakeSent, c.tcp.socket.connected⟩

@[simp] theorem core_setTcp (c : Client) (tcp : TcpClient.Client) :
    (c.setTcp tcp).core = { c.core with up := tcp.socket.connected } := rfl

@[simp] theorem core_setReconnect (c : Client) (reconnect : Reconnect.ReconnectManager) :
    (c.setReconnect reconnect).core = c.core := rfl

@[simp] theorem core_setHandshakeSent (c : Client) (handshakeSent : Bool) :
    (c.setHandshakeSent handshakeSent).core = { c.core with handshakeSent := handshakeSent } := rfl

@[simp] theorem core_beginHandshake (c : Client) (currentTimeMs : UInt64) :
    (c.beginHandshake currentTimeMs).core = { c.core with handshakeSent := true } := rfl

@[simp] theorem core_setErrorCode (c : Client) (code : UInt32) :
    (c.setErrorCode code).core = c.core := rfl

@[simp] theorem core_note (c : Client) (entry : LogEntry) : (c.note entry).core = c.core := rfl

@[simp] theorem core_notifyState (c : Client) (old new : State) :
    (c.notifyState old new).core = c.core := by
  unfold notifyState
  split <;> rfl

@[simp] theorem core_notifyChange (c : Client) (old : State) :
    (c.notifyChange old).core = c.core := by
  unfold notifyChange
  split
  · exact core_notifyState c old c.state
  · rfl

@[simp] theorem core_notifyPacket (c : Client) (type : UInt8) (data : List UInt8) :
    (c.notifyPacket type data).core = c.core := by
  unfold notifyPacket
  split <;> rfl

@[simp] theorem core_startBackoffIfAuto (c : Client) : c.startBackoffIfAuto.core = c.core := by
  unfold startBackoffIfAuto
  split <;> rfl

@[simp] theorem core_processEvent (c : Client) (e : Event) :
    (c.processEvent e).core = c.core.event e := by
  ext
  · exact Machine.processEvent_state c.machine e
  · rfl
  · rfl

theorem core_callTcp (c : Client) (request : Request) (turns : List WriteTurn) :
    (c.callTcp request turns).2.core =
      { c.core with up := (request.send c.tcp turns).2.socket.connected } := rfl

theorem callTcp_result (c : Client) (request : Request) (turns : List WriteTurn) :
    (c.callTcp request turns).1 = (request.send c.tcp turns).1 := rfl

theorem callTcp_lost (c : Client) (request : Request) (turns : List WriteTurn)
    (lost : Lost (c.callTcp request turns).1) : (c.callTcp request turns).2.core.up = false :=
  request.send_lost c.tcp turns lost

theorem lostOnly_isConnectionLost (result : ClientResult)
    (lost : isConnectionLost result = true) : Lost result :=
  Or.inl (of_decide_eq_true lost)

/-- What a send can do: nothing but touch the socket of a ready client, or take it
to `Backoff` with the socket gone. -/
structure SendEffect (v v' : Core) : Prop where
  handshakeSent : v'.handshakeSent = v.handshakeSent
  outcome : v' = v ∨ v.state = .ready ∧ (v'.state = .ready ∨ v'.state = .backoff ∧ v'.up = false)

theorem sendWhenReady_effect (c : Client) {lost : ClientResult → Bool}
    (lostOnly : ∀ result, lost result = true → Lost result) (request : Request)
    (turns : List WriteTurn) : SendEffect c.core (c.sendWhenReady lost request turns).2.core := by
  unfold sendWhenReady
  by_cases ready : c.machine.isReady = true
  · have inReady : c.core.state = .ready := of_decide_eq_true ready
    simp only [ready, Bool.not_true, Bool.false_eq_true, if_false]
    have gone := callTcp_lost c request turns
    have after := core_callTcp c request turns
    generalize c.callTcp request turns = called at gone after
    obtain ⟨result, d⟩ := called
    have same : d.core.handshakeSent = c.core.handshakeSent ∧ d.core.state = .ready := by
      rw [after]
      exact ⟨rfl, inReady⟩
    have kept : SendEffect c.core d.core :=
      ⟨same.1, Or.inr ⟨inReady, Or.inl same.2⟩⟩
    cases result
    case success => exact kept
    all_goals
      dsimp only
      split
      · rename_i isLost
        have closed := gone (lostOnly _ isLost)
        refine ⟨?_, Or.inr ⟨inReady, Or.inr ?_⟩⟩
        · simpa using same.1
        · simp [Core.event_state same.2, isValidTransition, closed]
      · exact kept
  · simp only [ready, Bool.not_false, if_true]
    exact ⟨rfl, Or.inl rfl⟩

theorem sendPing_effect (c : Client) (turns : List WriteTurn) :
    SendEffect c.core (c.sendPing turns).2.core := by
  unfold sendPing
  split
  · exact ⟨rfl, Or.inl rfl⟩
  · exact sendWhenReady_effect { c with pingId := c.pingId + 1 } lostOnly_isConnectionLost _ turns

theorem sendCall_effect (call : SendCall) (c : Client) (turns : List WriteTurn) :
    SendEffect c.core (call.run c turns).2.core := by
  cases call
  case ping => exact sendPing_effect c turns
  case proxyData header data =>
    apply sendWhenReady_effect
    intro result lost
    simpa [Lost] using lost
  all_goals exact sendWhenReady_effect c lostOnly_isConnectionLost _ turns

theorem sendCall_notReady {c : Client} (idle : c.machine.isReady = false) (call : SendCall)
    (turns : List WriteTurn) : (call.run c turns).2 = c := by
  have plain : ∀ (lost : ClientResult → Bool) (request : Request),
      (c.sendWhenReady lost request turns).2 = c := by
    intro lost request
    simp [sendWhenReady, idle]
  cases call
  case ping => simp [SendCall.run, sendPing, idle]
  all_goals exact plain _ _

/-- The call of `TcpClient::connect` that `try_connect` makes. -/
def dial (c : Client) (os : Replies) : ClientResult × TcpClient.Client :=
  c.tcp.connect c.config.host c.config.useTls os.connect os.threadStarted

theorem core_tryConnect {c : Client} (os : Replies)
    (here : c.core.state = .connecting ∨ c.core.state = .retrying) :
    (c.tryConnect os).core =
      ⟨if (c.dial os).1 = .success then .connected else .backoff, c.core.handshakeSent,
        (c.dial os).2.socket.connected⟩ := by
  unfold tryConnect dial
  generalize c.tcp.connect c.config.host c.config.useTls os.connect os.threadStarted = dialled
  obtain ⟨result, tcp⟩ := dialled
  have moved : ∀ e, (c.core.event e).state = (isValidTransition .connecting e).getD .connecting ∨
      (c.core.event e).state = (isValidTransition .retrying e).getD .retrying := by
    intro e
    exact here.imp (Core.event_state · e) (Core.event_state · e)
  by_cases ok : result = .success
  · simp only [ok, if_true, core_notifyState, core_setReconnect, core_processEvent, core_note,
      core_setTcp]
    refine Core.ext ?_ rfl rfl
    change (c.core.event .connectSuccess).state = .connected
    simpa [isValidTransition] using moved .connectSuccess
  · simp only [ok, if_false, core_notifyState, core_setReconnect, core_processEvent, core_note,
      core_setTcp, core_startBackoffIfAuto]
    refine Core.ext ?_ rfl rfl
    change (c.core.event .connectFailed).state = .backoff
    simpa [isValidTransition] using moved .connectFailed

theorem dial_failed {c : Client} (os : Replies) (idle : c.core.up = false)
    (failed : (c.dial os).1 ≠ .success) : (c.dial os).2.socket.connected = false :=
  TcpClient.Client.connect_connected idle _ _ _ _ failed

theorem ensureInitialized_eq (c : Client) :
    ∃ d, c.ensureInitialized = (true, d) ∧ d.core = c.core := by
  unfold ensureInitialized
  split
  · exact ⟨c, rfl, rfl⟩
  · exact ⟨_, rfl, rfl⟩

theorem connectTo_effect (c : Client) (host : Option (List UInt8)) (port : UInt16)
    (os : Replies) :
    (c.connectTo host port os).2.core = c.core ∨
      (c.connectTo host port os).2.core = { c.core with handshakeSent := false } ∨
      (c.connectTo host port os).2.core.handshakeSent = false ∧ c.core.state = .disconnected ∧
        ((c.connectTo host port os).2.core.state = .connected ∨
          (c.connectTo host port os).2.core.state = .backoff ∧
            (c.core.up = false → (c.connectTo host port os).2.core.up = false)) := by
  unfold connectTo
  obtain ⟨d, initialized, same⟩ := (c.setEndpoint host port).ensureInitialized_eq
  rw [initialized]
  have core_d : (d.setHandshakeSent false).core = { c.core with handshakeSent := false } := by
    rw [core_setHandshakeSent, same]
    rfl
  split
  · exact Or.inl rfl
  · right
    dsimp only
    generalize d.setHandshakeSent false = e at core_d
    have state_e : e.machine.state = c.core.state := congrArg Core.state core_d
    have accepted := Machine.processEvent_success e.machine .connect
    have moved := core_processEvent e .connect
    rw [state_e] at accepted
    rw [core_d] at moved
    split
    · rename_i ok
      right
      have idle := disconnected_of_connect (accepted.mp ok)
      have dialling : (e.processEvent .connect).core.state = .connecting := by
        rw [moved]
        exact Core.event_state idle .connect
      rw [core_notifyState, core_tryConnect os (Or.inl dialling), moved]
      refine ⟨rfl, idle, ?_⟩
      by_cases dialled : ((e.processEvent .connect).dial os).1 = .success
      · exact Or.inl (if_pos dialled)
      · refine Or.inr ⟨if_neg dialled, ?_⟩
        intro down
        exact dial_failed os (by rw [moved]; exact down) dialled
    · rename_i refused
      left
      have invalid := Option.not_isSome_iff_eq_none.mp (mt accepted.mpr refused)
      rw [moved]
      simp [Core.event, invalid]

theorem core_leave (c : Client) :
    c.leave.core = { c.core with state := .disconnected } := by
  unfold leave
  have first := core_processEvent c .disconnect
  generalize c.processEvent .disconnect = d at first
  have moved : d.core.state = (isValidTransition c.core.state .disconnect).getD c.core.state :=
    congrArg Core.state first
  dsimp only
  split
  · rename_i leaving
    rw [core_processEvent]
    have done := Core.event_state (show d.core.state = .disconnecting from leaving) .connectionLost
    exact Core.ext done (by rw [first]; rfl) (by rw [first]; rfl)
  · rename_i left_
    have done : d.core.state = .disconnected := by
      have away : d.core.state ≠ .disconnecting := left_
      revert moved away
      cases c.core.state <;> simp_all [isValidTransition]
    exact Core.ext done (by rw [first]; rfl) (by rw [first]; rfl)

theorem core_disconnect (c : Client) (turns : List WriteTurn) :
    (c.disconnect turns).core = ⟨.disconnected, false, false⟩ := by
  unfold disconnect
  generalize (if c.machine.isReady then (c.callTcp (.disconnect 0) turns).2 else c) = d
  simp [core_leave, TcpClient.Client.disconnect_connected]

def handshakeSend (c : Client) (os : Replies) : ClientResult × TcpClient.Client :=
  match (Request.passphrase c.config.passphrase).send c.tcp os.passphrase with
  | (.success, tcp) => (Request.initializeMessage c.initializeImage).send tcp os.initializeMessage
  | failed => failed

def afterHandshakeSend (v : Core) (sent : ClientResult × TcpClient.Client) : Core :=
  ⟨if sent.1 = .connectionLost then .backoff else .connected, v.handshakeSent,
    sent.2.socket.connected⟩

theorem sendInHandshake_spec {c : Client} (request : Request) (turns : List WriteTurn)
    (here : c.core.state = .connected) :
    ((c.sendInHandshake request turns).1 = .success ↔ (request.send c.tcp turns).1 = .success) ∧
      (c.sendInHandshake request turns).2.core =
        afterHandshakeSend c.core (request.send c.tcp turns) := by
  have result_eq := callTcp_result c request turns
  have after := core_callTcp c request turns
  unfold sendInHandshake afterHandshakeSend
  rw [← result_eq]
  generalize c.callTcp request turns = called at after
  obtain ⟨result, d⟩ := called
  dsimp only at after ⊢
  have plain : d.core = ⟨.connected, c.core.handshakeSent,
      (request.send c.tcp turns).2.socket.connected⟩ := by
    rw [after]
    exact Core.ext here rfl rfl
  cases result
  case connectionLost =>
    refine ⟨by simp, ?_⟩
    unfold connectionLostInHandshake
    rw [core_notifyChange, core_startBackoffIfAuto, core_processEvent, plain]
    rfl
  all_goals exact ⟨by simp, plain⟩

theorem sendInHandshake_success {c : Client} {request : Request} {turns : List WriteTurn}
    (ok : (request.send c.tcp turns).1 = .success) :
    c.sendInHandshake request turns = (.success, (c.callTcp request turns).2) := by
  have result_eq := callTcp_result c request turns
  unfold sendInHandshake
  rw [ok] at result_eq
  generalize c.callTcp request turns = called at result_eq
  obtain ⟨result, d⟩ := called
  cases result_eq
  rfl

theorem sendInitialize_spec {c : Client} (os : Replies) (here : c.core.state = .connected) :
    ((c.sendInitialize os).1 = .success ↔ (c.handshakeSend os).1 = .success) ∧
      (c.sendInitialize os).2.core = afterHandshakeSend c.core (c.handshakeSend os) := by
  have first := sendInHandshake_spec (.passphrase c.config.passphrase) os.passphrase here
  unfold sendInitialize handshakeSend
  by_cases ok : ((Request.passphrase c.config.passphrase).send c.tcp os.passphrase).1 = .success
  · rw [sendInHandshake_success ok]
    have second := sendInHandshake_spec
      (c := (c.callTcp (.passphrase c.config.passphrase) os.passphrase).2)
      (.initializeMessage c.initializeImage) os.initializeMessage here
    revert ok
    generalize sent_eq : (Request.passphrase c.config.passphrase).send c.tcp os.passphrase = sent
    intro ok
    have tcp_eq : (c.callTcp (.passphrase c.config.passphrase) os.passphrase).2.tcp = sent.2 :=
      congrArg Prod.snd sent_eq
    rw [tcp_eq] at second
    obtain ⟨result, tcp⟩ := sent
    cases ok
    exact second
  · revert first ok
    generalize (Request.passphrase c.config.passphrase).send c.tcp os.passphrase = sent
    generalize c.sendInHandshake (.passphrase c.config.passphrase) os.passphrase = outcome
    intro first failed
    obtain ⟨result, tcp⟩ := sent
    obtain ⟨opResult, d⟩ := outcome
    cases opResult
    case success => exact absurd (first.1.mp rfl) failed
    all_goals
      cases result
      case success => exact absurd rfl failed
      all_goals exact first

theorem core_updateConnected {c : Client} (currentTimeMs : UInt64) (os : Replies)
    (here : c.core.state = .connected) (fresh : c.core.handshakeSent = false) :
    (c.updateConnected currentTimeMs os).core =
      if (c.handshakeSend os).1 = .success then
        ⟨.handshaking, true, (c.handshakeSend os).2.socket.connected⟩
      else ⟨.backoff, false, (c.handshakeSend os).2.socket.connected⟩ := by
  obtain ⟨result_iff, after⟩ := sendInitialize_spec os here
  unfold updateConnected
  have unsent : c.handshakeSent = false := fresh
  simp only [unsent, Bool.false_eq_true, if_false]
  generalize c.sendInitialize os = sent at result_iff after
  obtain ⟨result, d⟩ := sent
  dsimp only at result_iff after
  unfold afterHandshakeSend at after
  rw [fresh] at after
  by_cases ok : (c.handshakeSend os).1 = .success
  · cases result_iff.mpr ok
    rw [if_pos ok]
    rw [ok, if_neg (by decide)] at after
    simp only [core_notifyState, core_processEvent, core_beginHandshake, after]
    rfl
  · rw [if_neg ok]
    have failed : (d.processEvent .handshakeFailed).startBackoffIfAuto.core =
        ⟨.backoff, false, (c.handshakeSend os).2.socket.connected⟩ := by
      rw [core_startBackoffIfAuto, core_processEvent, after]
      split <;> rfl
    cases result
    case success => exact absurd (result_iff.mp rfl) ok
    all_goals exact (core_notifyChange _ _).trans failed

def handshakeOutcome (type : UInt8) (data : List UInt8) : State :=
  match PacketId.ofByte type with
  | some .initializeMessage => .ready
  | some .networkError => if networkErrorCode data = errorVersionMismatch then .error else .backoff
  | some .syncNetwork => .ready
  | some .disconnect => .backoff
  | _ => .handshaking

theorem core_processHandshakeResponse {c : Client} (type : UInt8) (data : List UInt8)
    (freshSessionId : Octets 16) (here : c.core.state = .handshaking) :
    (c.processHandshakeResponse type data freshSessionId).2.core =
      { c.core with state := handshakeOutcome type data } := by
  have accepted : ∀ d : Client, d.core = c.core →
      d.handshakeAccepted.core = { c.core with state := .ready } := by
    intro d same
    unfold handshakeAccepted
    simp only [core_notifyState, core_processEvent, core_setErrorCode, same]
    exact Core.ext (Core.event_state here .handshakeSuccess) rfl rfl
  have rejected : ∀ d : Client, d.core = c.core →
      d.handshakeRejected.core = { c.core with state := .backoff } := by
    intro d same
    unfold handshakeRejected
    simp only [core_notifyState, core_processEvent, core_startBackoffIfAuto, same]
    exact Core.ext (Core.event_state here .handshakeFailed) rfl rfl
  unfold processHandshakeResponse handshakeOutcome
  cases PacketId.ofByte type with
  | none => simp [← here]
  | some id =>
      cases id
      case initializeMessage =>
        apply accepted
        unfold storeAssigned
        split <;> rfl
      case networkError =>
        dsimp only
        split
        · simp only [core_notifyState, core_processEvent, core_setErrorCode]
          exact Core.ext (Core.event_state here .fatalError) rfl rfl
        · apply rejected
          split <;> rfl
      case syncNetwork => exact accepted c rfl
      case disconnect => exact rejected _ rfl
      all_goals simp [← here]

/-- The state in which `handle_handshaking_state` leaves a client that has not
timed out. -/
def handshakeNext (received : TcpClient.Client.Received) : State :=
  if received.result = .success then handshakeOutcome received.type received.payload
  else if received.result = .connectionLost then .backoff
  else .handshaking

theorem core_handleHandshakingState {c : Client} (currentTimeMs : UInt64) (os : Replies)
    (here : c.core.state = .handshaking) :
    (c.handleHandshakingState currentTimeMs os).core =
      if c.isHandshakeTimeout currentTimeMs then { c.core with state := .backoff }
      else
        ⟨handshakeNext (c.receive os.reads).1, c.core.handshakeSent,
          (c.receive os.reads).2.1.socket.connected⟩ := by
  unfold handleHandshakingState
  split
  · rw [core_notifyChange, core_startBackoffIfAuto, core_processEvent, core_setErrorCode]
    exact Core.ext (Core.event_state here .handshakeFailed) rfl rfl
  · generalize c.receive os.reads = outcome
    obtain ⟨received, tcp, rest⟩ := outcome
    have there : (c.setTcp tcp).core.state = .handshaking := here
    have response := core_processHandshakeResponse received.type received.payload os.sessionId
      there
    unfold handshakeNext
    dsimp only
    generalize (c.setTcp tcp).processHandshakeResponse received.type received.payload
      os.sessionId = answered at response
    obtain ⟨finished, d⟩ := answered
    by_cases ok : received.result = .success
    · rw [if_pos ok, if_pos ok]
      cases finished
      case true => exact (core_notifyChange d _).trans response
      case false => exact response
    · rw [if_neg ok, if_neg ok]
      by_cases lost : received.result = .connectionLost
      · rw [if_pos lost, if_pos lost, core_notifyState, core_startBackoffIfAuto,
          core_processEvent]
        exact Core.ext (Core.event_state there .connectionLost) rfl rfl
      · rw [if_neg lost, if_neg lost]
        exact Core.ext here rfl rfl

theorem core_handlePacket (c : Client) (type : UInt8) (data : List UInt8)
    (echo : List WriteTurn) :
    (c.handlePacket type data echo).core.handshakeSent = c.core.handshakeSent ∧
      (c.handlePacket type data echo).core.state =
        if PacketId.ofByte type = some .disconnect then (c.core.event .disconnect).state
        else c.core.state := by
  unfold handlePacket
  cases PacketId.ofByte type with
  | none => simp
  | some id =>
      cases id
      case ping =>
        dsimp only
        split
        · split <;> exact ⟨rfl, rfl⟩
        · exact ⟨rfl, rfl⟩
      case disconnect => simp
      all_goals simp

theorem handlePacket_effect {c : Client} (type : UInt8) (data : List UInt8)
    (echo : List WriteTurn) (serving : c.core.Serving) :
    (c.handlePacket type data echo).core.Serving ∧
      (c.handlePacket type data echo).core.handshakeSent = c.core.handshakeSent := by
  obtain ⟨flag, state⟩ := core_handlePacket c type data echo
  refine ⟨?_, flag⟩
  unfold Core.Serving
  rw [state]
  split
  · right
    rcases serving with here | here <;> rw [Core.event_state here] <;> rfl
  · exact serving

/-- `process_packets` stops serving only when the socket is gone. -/
structure ServeEffect (v v' : Core) : Prop where
  handshakeSent : v'.handshakeSent = v.handshakeSent
  outcome : v'.Serving ∨ (v'.state = .backoff ∨ v'.state = .disconnected) ∧ v'.up = false

theorem processPacketsLoop_effect (rounds : Nat) {c : Client} (reads : List ReadTurn)
    (echoes : List (List WriteTurn)) (serving : c.core.Serving) :
    ServeEffect c.core (processPacketsLoop rounds c reads echoes).core := by
  induction rounds generalizing c reads echoes with
  | zero => exact ⟨rfl, Or.inl serving⟩
  | succ rounds ih =>
      unfold processPacketsLoop
      have gone : Lost (c.receive reads).1.result →
          (c.receive reads).2.1.socket.connected = false := TcpClient.Client.receivePacket_lost
      generalize c.receive reads = outcome at gone
      obtain ⟨received, tcp, rest⟩ := outcome
      dsimp only at gone ⊢
      have serving' : (c.setTcp tcp).core.Serving := serving
      have lost : tcp.socket.connected = false → ServeEffect c.core
          (((c.setTcp tcp).processEvent .connectionLost).startBackoffIfAuto.notifyChange
            (c.setTcp tcp).state).core := by
        intro down
        rw [core_notifyChange, core_startBackoffIfAuto, core_processEvent]
        refine ⟨rfl, Or.inr ⟨?_, down⟩⟩
        rcases serving' with here | here
        · exact Or.inl (Core.event_state here .connectionLost)
        · exact Or.inr (Core.event_state here .connectionLost)
      cases result : received.result
      case success =>
        obtain ⟨still, flag⟩ := handlePacket_effect
          (c := (c.setTcp tcp).note (.packetDelivered received.type received.payload))
          received.type received.payload (echoes.headD []) serving'
        have later := ih rest echoes.tail still
        exact ⟨later.handshakeSent.trans flag, later.outcome⟩
      case connectionLost => exact lost (gone (Or.inl result))
      case notConnected => exact lost (gone (Or.inr result))
      all_goals exact ⟨rfl, Or.inl serving'⟩

theorem processPackets_effect {c : Client} (os : Replies) (serving : c.core.Serving) :
    ServeEffect c.core (c.processPackets os).core := by
  unfold processPackets
  split
  · exact ⟨rfl, Or.inl serving⟩
  · exact processPacketsLoop_effect _ os.reads os.echoes serving

theorem keepAlive_effect (c : Client) (currentTimeMs : UInt64) (os : Replies) :
    SendEffect c.core (c.keepAlive currentTimeMs os).core := by
  have sent := sendPing_effect c os.ping
  unfold keepAlive
  split
  · generalize c.sendPing os.ping = outcome at sent
    obtain ⟨result, d⟩ := outcome
    cases result
    all_goals exact sent
  · exact ⟨rfl, Or.inl rfl⟩

theorem core_updateBackoff {c : Client} (currentTimeMs : UInt64) (os : Replies)
    (here : c.core.state = .backoff) :
    (c.updateBackoff currentTimeMs os).core =
      if (c.isBackoffExpired currentTimeMs).1 then
        ⟨if (c.dial os).1 = .success then .connected else .backoff, c.core.handshakeSent,
          (c.dial os).2.socket.connected⟩
      else c.core := by
  unfold updateBackoff isBackoffExpired
  by_cases fresh : c.backoffStartTimeMs = 0
  · simp only [fresh, if_true, Bool.false_eq_true, if_false]
    rfl
  · simp only [fresh, if_false]
    cases decide (currentTimeMs - c.backoffStartTimeMs ≥ c.currentBackoffDelayMs.toUInt64) with
    | true =>
        have retrying : (c.processEvent .backoffExpired).core.state = .retrying := by
          rw [core_processEvent]
          exact Core.event_state here .backoffExpired
        dsimp only
        rw [core_notifyChange, core_tryConnect os (Or.inr retrying), core_processEvent]
        rfl
    | false => rfl

theorem update_of_disconnected {c : Client} (here : c.core.state = .disconnected)
    (currentTimeMs : UInt64) (os : Replies) :
    c.update currentTimeMs os = c.tick currentTimeMs := by
  have there : (c.tick currentTimeMs).state = .disconnected := here
  simp only [update, there]

theorem update_of_ready {c : Client} (here : c.core.state = .ready) (currentTimeMs : UInt64)
    (os : Replies) :
    c.update currentTimeMs os = (c.tick currentTimeMs).handleReadyState currentTimeMs os := by
  have there : (c.tick currentTimeMs).state = .ready := here
  simp only [update, there]

theorem update_of_backoff {c : Client} (here : c.core.state = .backoff) (currentTimeMs : UInt64)
    (os : Replies) :
    c.update currentTimeMs os = (c.tick currentTimeMs).updateBackoff currentTimeMs os := by
  have there : (c.tick currentTimeMs).state = .backoff := here
  simp only [update, there]

end Client

end RyuLdn.LdnClient
