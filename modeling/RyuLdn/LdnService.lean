import RyuLdn.ProtocolCodec
import RyuLdn.LdnStateMachine

/-! `ICommunicationService`: the calls that open, join and leave a network, as far as
the LDN state, the connection flag and the response events are concerned.

Three threads work on the service. The game's calls come one at a time; those that
wait for a response stop between any two statements that other threads can see. The
receive thread handles one packet at a time under the shared mutex and reacts to a
lost connection in two steps. The P2P worker reports a failure. What the server
client answers (ready or not, sent or not) is an argument. -/
namespace RyuLdn.LdnService

open ProtocolCodec LdnStateMachine

/-- The calls that send a request and wait for `Connected`. -/
inductive Kind where
  | createNetwork | createNetworkPrivate | connect | connectPrivate
  deriving DecidableEq, Repr

/-- The statements of `WaitForResponse` that another thread can come between. -/
inductive Stage where
  | check | clearResponse | clearError | blocked | read | recheck
  deriving DecidableEq, Repr

/-- Where the game's call stands; `second` tells the request of the relay fallback. -/
inductive Call where
  | idle
  | sending (kind : Kind)
  | waiting (kind : Kind) (second : Bool) (stage : Stage)
  | ended (kind : Kind) (second : Bool) (result : Bool)
  deriving DecidableEq, Repr

inductive Signal where
  | response | error | timeout
  deriving DecidableEq, Repr

/-- The history of requests and answers. Requests count from 1, and a `Connected`
packet carries the number of the request the server answers with it. -/
inductive Entry where
  | requestSent
  | connectedHandled (answers : Nat)
  | waitEnded (result : Bool)
  deriving DecidableEq, Repr

structure Service where
  commState : CommState
  networkConnected : Bool
  lastResponseId : PacketId
  responseEvent : Bool
  errorEvent : Bool
  useP2pProxy : Bool
  serverConnected : Bool
  call : Call
  losing : Option CommState.Active
  log : List Entry
  deriving DecidableEq

namespace Service

/-- A new service; P2P is on unless the configuration says otherwise. -/
def init (useP2pProxy : Bool) : Service where
  commState := .none
  networkConnected := false
  lastResponseId := .initializeMessage
  responseEvent := false
  errorEvent := false
  useP2pProxy := useP2pProxy
  serverConnected := false
  call := .idle
  losing := none
  log := []

/-- `sizeof(NetworkInfo)`. -/
def networkInfoSize : Nat := 0x480

def handleConnectedPacket (s : Service) (data : List UInt8) : Service :=
  if data.length ≥ networkInfoSize then { s with networkConnected := true } else s

/-- `kPortUnreachableWire` in a `NetworkErrorMessage`. -/
def isPortUnreachable (data : List UInt8) : Bool := data.length ≥ 4 && field data 0 4 = 1

def handleNetworkErrorPacket (s : Service) (data : List UInt8) : Service :=
  if isPortUnreachable data then { s with useP2pProxy := false }
  else { s with errorEvent := true }

def isResponse (data : List UInt8) : PacketId → Bool
  | .connected | .scanReply | .scanReplyEnd | .rejectReply | .proxyConnectReply => true
  | .networkError => !isPortUnreachable data
  | _ => false

/-- The switch of `HandleServerPacket`; `SyncNetwork` and the others write other fields. -/
def dispatch (s : Service) (data : List UInt8) : PacketId → Service
  | .connected => s.handleConnectedPacket data
  | .disconnect => { s with networkConnected := false }
  | .networkError => s.handleNetworkErrorPacket data
  | _ => s

def handleServerPacket (s : Service) (id : PacketId) (data : List UInt8) : Service :=
  if isResponse data id then
    { s.dispatch data id with lastResponseId := id, responseEvent := true }
  else s.dispatch data id

def receivePacket (s : Service) (id : PacketId) (data : List UInt8) (answers : Nat) : Service :=
  let s := s.handleServerPacket id data
  if id = .connected then { s with log := s.log ++ [.connectedHandled answers] } else s

end Service

def Kind.transition : Kind → CommState → StateTransitionResult × CommState
  | .createNetwork | .createNetworkPrivate => CommState.createNetwork
  | .connect | .connectPrivate => CommState.connect

def Kind.rollback : Kind → CommState → StateTransitionResult × CommState
  | .createNetwork | .createNetworkPrivate => CommState.destroyNetwork
  | .connect | .connectPrivate => CommState.disconnect

def Kind.setsFlag : Kind → Bool
  | .createNetwork | .connect => true
  | .createNetworkPrivate | .connectPrivate => false

def Kind.hasFallback : Kind → Bool
  | .connect | .connectPrivate => true
  | .createNetwork | .createNetworkPrivate => false

namespace Service

/-- The call up to the state transition; `ready` is the client's `is_ready`. -/
def beginRequest (s : Service) (kind : Kind) (ready : Bool) : Service :=
  if s.serverConnected && ready then
    match kind.transition s.commState with
    | (.success, commState) => { s with commState := commState, call := .sending kind }
    | _ => s
  else s

def rollback (s : Service) (kind : Kind) : Service :=
  { s with commState := (kind.rollback s.commState).2, call := .idle }

def sendRequest (s : Service) (kind : Kind) (second sent : Bool) : Service :=
  if sent then
    { s with call := .waiting kind second .check, log := s.log ++ [.requestSent] }
  else s.rollback kind

def endWait (s : Service) (kind : Kind) (second result : Bool) : Service :=
  { s with call := .ended kind second result, log := s.log ++ [.waitEnded result] }

/-- `WaitForResponse(Connected)`, one statement; a signal is one that is there. -/
def waitForResponse (s : Service) (kind : Kind) (second : Bool) (signal : Signal) :
    Stage → Option Service
  | .check =>
      if s.networkConnected ∨ s.lastResponseId = .connected then some (s.endWait kind second true)
      else some { s with call := .waiting kind second .clearResponse }
  | .clearResponse =>
      some { s with responseEvent := false, call := .waiting kind second .clearError }
  | .clearError => some { s with errorEvent := false, call := .waiting kind second .blocked }
  | .blocked =>
      match signal with
      | .response =>
          if s.responseEvent then
            some { s with responseEvent := false, call := .waiting kind second .read }
          else none
      | .error =>
          if s.errorEvent then some { s with call := .waiting kind second .recheck } else none
      | .timeout => some { s with call := .waiting kind second .recheck }
  | .read =>
      if s.lastResponseId = .connected then some (s.endWait kind second true)
      else if s.lastResponseId = .scanReply ∨ s.lastResponseId = .scanReplyEnd then
        some { s with call := .waiting kind second .blocked }
      else some { s with call := .waiting kind second .recheck }
  | .recheck => some (s.endWait kind second s.networkConnected)

def fallsBack (s : Service) (kind : Kind) (second : Bool) : Bool :=
  kind.hasFallback && !second && !s.useP2pProxy

/-- The call from the end of the wait on; `sent` is the answer to a second request. -/
def endRequest (s : Service) (kind : Kind) (second result sent : Bool) : Service :=
  if result then
    { s with networkConnected := s.networkConnected || kind.setsFlag, call := .idle }
  else if s.fallsBack kind second then
    { s with errorEvent := false }.sendRequest kind true sent
  else s.rollback kind

inductive ServerAnswer where
  | alive
  | refused
  | unanswered
  | handshaken
  deriving DecidableEq, Repr

/-- Whether `ConnectToServer` succeeds, and the service after it. -/
def connectToServer (s : Service) : ServerAnswer → Bool × Service
  | .alive => (s.serverConnected, s)
  | .refused => (false, { s with serverConnected := false })
  | .unanswered => (false, { s with serverConnected := false, errorEvent := false })
  | .handshaken => (true, { s with serverConnected := true, errorEvent := false })

def disconnectFromServer (s : Service) : Service :=
  { s with serverConnected := false, responseEvent := false, errorEvent := false }

def openMode (s : Service) (openTo closeTo : CommState → StateTransitionResult × CommState)
    (answer : ServerAnswer) : Service :=
  match openTo s.commState with
  | (.success, commState) =>
      match { s with commState := commState }.connectToServer answer with
      | (true, s) => s
      | (false, s) => { s with commState := (closeTo s.commState).2 }
  | _ => s

def leaveNetwork (s : Service) (leave : CommState → StateTransitionResult × CommState) :
    Service :=
  match leave s.commState with
  | (.success, commState) => { s with commState := commState, networkConnected := false }
  | _ => s

def moveBy (s : Service) (transition : CommState → StateTransitionResult × CommState) : Service :=
  match transition s.commState with
  | (.success, commState) => { s with commState := commState }
  | _ => s

/-- `Initialize`. -/
def startUp (s : Service) : Service := s.moveBy CommState.startUp

def openAccessPoint (s : Service) (answer : ServerAnswer) : Service :=
  s.openMode CommState.openAccessPoint CommState.closeAccessPoint answer

def closeAccessPoint (s : Service) : Service :=
  s.disconnectFromServer.leaveNetwork CommState.closeAccessPoint

def destroyNetwork (s : Service) : Service := s.leaveNetwork CommState.destroyNetwork

def openStation (s : Service) (answer : ServerAnswer) : Service :=
  s.openMode CommState.openStation CommState.closeStation answer

/-- `CloseStation` keeps the server connection, and the flag with it. -/
def closeStation (s : Service) : Service := s.moveBy CommState.closeStation

def disconnect (s : Service) : Service := s.leaveNetwork CommState.disconnect

/-- `CleanupSessionResources` and the transition. -/
def finalize (s : Service) : Service :=
  { s.disconnectFromServer with
    networkConnected := false
    commState := s.commState.finalize.2 }

def noticeLoss (s : Service) : Service :=
  if active : s.commState.isNetworkActive = true then
    { s with
      serverConnected := false
      errorEvent := true
      networkConnected := false
      losing := some ⟨s.commState, active⟩ }
  else s

def leaveLost (s : Service) (seen : CommState.Active) : Service :=
  { s with
    commState :=
      if seen.val = .stationConnected then (CommState.disconnect s.commState).2
      else (CommState.destroyNetwork s.commState).2
    losing := none }

def onInactivityTimeout (s : Service) : Service :=
  if s.networkConnected then s else s.disconnectFromServer

def p2pFailed (s : Service) : Service := { s with useP2pProxy := false, errorEvent := true }

end Service

inductive Action where
  | startUp
  | finalize
  | openAccessPoint (answer : Service.ServerAnswer)
  | closeAccessPoint
  | destroyNetwork
  | openStation (answer : Service.ServerAnswer)
  | closeStation
  | disconnect
  | request (kind : Kind) (ready : Bool)
  | send (sent : Bool)
  | wait (signal : Signal)
  | finish (sent : Bool)
  | packet (id : PacketId) (data : List UInt8) (answers : Nat)
  | noticeLoss
  | leaveLost
  | inactivityTimeout
  | p2pFailed

def start (s t : Service) : Option Service := if s.call = .idle then some t else none

def receiving (s t : Service) : Option Service := if s.losing = none then some t else none

def step (s : Service) : Action → Option Service
  | .startUp => start s s.startUp
  | .finalize => start s s.finalize
  | .openAccessPoint answer => start s (s.openAccessPoint answer)
  | .closeAccessPoint => start s s.closeAccessPoint
  | .destroyNetwork => start s s.destroyNetwork
  | .openStation answer => start s (s.openStation answer)
  | .closeStation => start s s.closeStation
  | .disconnect => start s s.disconnect
  | .request kind ready => start s (s.beginRequest kind ready)
  | .send sent =>
      match s.call with
      | .sending kind => some (s.sendRequest kind false sent)
      | _ => none
  | .wait signal =>
      match s.call with
      | .waiting kind second stage => s.waitForResponse kind second signal stage
      | _ => none
  | .finish sent =>
      match s.call with
      | .ended kind second result => some (s.endRequest kind second result sent)
      | _ => none
  | .packet id data answers => receiving s (s.receivePacket id data answers)
  | .noticeLoss => receiving s s.noticeLoss
  | .leaveLost => s.losing.map s.leaveLost
  | .inactivityTimeout => receiving s s.onInactivityTimeout
  | .p2pFailed => some s.p2pFailed

theorem start_eq_some {s t u : Service} : start s t = some u ↔ s.call = .idle ∧ t = u := by
  unfold start
  rw [Option.ite_none_right_eq_some, Option.some.injEq]

theorem receiving_eq_some {s t u : Service} : receiving s t = some u ↔ s.losing = none ∧ t = u := by
  unfold receiving
  rw [Option.ite_none_right_eq_some, Option.some.injEq]

theorem step_send_eq_some {s t : Service} {sent : Bool} :
    step s (.send sent) = some t ↔
      ∃ kind, s.call = .sending kind ∧ s.sendRequest kind false sent = t := by
  cases here : s.call <;> simp [step, here]

theorem step_wait_eq_some {s t : Service} {signal : Signal} :
    step s (.wait signal) = some t ↔
      ∃ kind second stage, s.call = .waiting kind second stage ∧
        s.waitForResponse kind second signal stage = some t := by
  constructor
  · intro moved
    simp only [step] at moved
    split at moved
    · rename_i kind second stage here
      exact ⟨kind, second, stage, here, moved⟩
    · cases moved
  · rintro ⟨kind, second, stage, here, moved⟩
    simpa only [step, here] using moved

theorem step_finish_eq_some {s t : Service} {sent : Bool} :
    step s (.finish sent) = some t ↔
      ∃ kind second result, s.call = .ended kind second result ∧
        s.endRequest kind second result sent = t := by
  constructor
  · intro moved
    simp only [step] at moved
    split at moved
    · rename_i kind second result here
      exact ⟨kind, second, result, here, Option.some.inj moved⟩
    · cases moved
  · rintro ⟨kind, second, result, here, rfl⟩
    simp only [step, here]

namespace Service

theorem waitForResponse_cases {s t : Service} {kind : Kind} {second : Bool} {signal : Signal}
    {stage : Stage} (moved : s.waitForResponse kind second signal stage = some t) :
    (∃ result, t = s.endWait kind second result ∧
        (result = true → s.networkConnected = true ∨ s.lastResponseId = .connected)) ∨
      ∃ responseEvent errorEvent next, t = { s with
        responseEvent := responseEvent
        errorEvent := errorEvent
        call := .waiting kind second next } := by
  cases stage with
  | check =>
      simp only [waitForResponse] at moved
      split at moved <;> cases moved
      · rename_i found
        exact Or.inl ⟨true, rfl, fun _ => found⟩
      · exact Or.inr ⟨_, _, _, rfl⟩
  | clearResponse =>
      cases moved
      exact Or.inr ⟨_, _, _, rfl⟩
  | clearError =>
      cases moved
      exact Or.inr ⟨_, _, _, rfl⟩
  | blocked =>
      cases signal with
      | response =>
          obtain ⟨-, same⟩ := Option.ite_none_right_eq_some.mp moved
          cases same
          exact Or.inr ⟨_, _, _, rfl⟩
      | error =>
          obtain ⟨-, same⟩ := Option.ite_none_right_eq_some.mp moved
          cases same
          exact Or.inr ⟨_, _, _, rfl⟩
      | timeout =>
          cases moved
          exact Or.inr ⟨_, _, _, rfl⟩
  | read =>
      simp only [waitForResponse] at moved
      split at moved
      · rename_i found
        cases moved
        exact Or.inl ⟨true, rfl, fun _ => Or.inr found⟩
      · split at moved <;> cases moved <;> exact Or.inr ⟨_, _, _, rfl⟩
  | recheck =>
      cases moved
      exact Or.inl ⟨_, rfl, Or.inl⟩

theorem moveBy_cases (s : Service) (transition : CommState → StateTransitionResult × CommState) :
    s.moveBy transition = s ∨ ∃ commState, transition s.commState = (.success, commState) ∧
      s.moveBy transition = { s with commState := commState } := by
  unfold moveBy
  split
  · rename_i commState made
    exact Or.inr ⟨commState, made, rfl⟩
  · exact Or.inl rfl

theorem leaveNetwork_cases (s : Service) (leave : CommState → StateTransitionResult × CommState) :
    s.leaveNetwork leave = s ∨ ∃ commState,
      s.leaveNetwork leave = { s with commState := commState, networkConnected := false } := by
  unfold leaveNetwork
  split
  · exact Or.inr ⟨_, rfl⟩
  · exact Or.inl rfl

theorem beginRequest_cases (s : Service) (kind : Kind) (ready : Bool) :
    s.beginRequest kind ready = s ∨ ∃ commState,
      kind.transition s.commState = (.success, commState) ∧
        s.beginRequest kind ready = { s with commState := commState, call := .sending kind } := by
  unfold beginRequest
  split
  · split
    · rename_i commState made
      exact Or.inr ⟨commState, made, rfl⟩
    · exact Or.inl rfl
  · exact Or.inl rfl

theorem openMode_cases (s : Service) (openTo closeTo : CommState → StateTransitionResult × CommState)
    (answer : ServerAnswer) :
    s.openMode openTo closeTo answer = s ∨ ∃ opened commState serverConnected errorEvent,
      openTo s.commState = (.success, opened) ∧
        s.openMode openTo closeTo answer = { s with
          commState := commState
          serverConnected := serverConnected
          errorEvent := errorEvent } := by
  unfold openMode
  split
  · rename_i opened made
    right
    cases answer with
    | alive => cases s.serverConnected <;> exact ⟨_, _, _, _, made, rfl⟩
    | refused => exact ⟨_, _, _, _, made, rfl⟩
    | unanswered => exact ⟨_, _, _, _, made, rfl⟩
    | handshaken => exact ⟨_, _, _, _, made, rfl⟩
  · exact Or.inl rfl

theorem handleServerPacket_frame (s : Service) (id : PacketId) (data : List UInt8) :
    (s.handleServerPacket id data).call = s.call ∧
      (s.handleServerPacket id data).commState = s.commState ∧
      (s.handleServerPacket id data).log = s.log := by
  have dispatched : (s.dispatch data id).call = s.call ∧
      (s.dispatch data id).commState = s.commState ∧ (s.dispatch data id).log = s.log := by
    unfold dispatch
    split
    · unfold handleConnectedPacket
      split <;> exact ⟨rfl, rfl, rfl⟩
    · exact ⟨rfl, rfl, rfl⟩
    · unfold handleNetworkErrorPacket
      split <;> exact ⟨rfl, rfl, rfl⟩
    · exact ⟨rfl, rfl, rfl⟩
  unfold handleServerPacket
  split
  · exact dispatched
  · exact dispatched

theorem handleServerPacket_flag {s : Service} {id : PacketId} {data : List UInt8}
    (set : (s.handleServerPacket id data).networkConnected = true) :
    s.networkConnected = true ∨ id = .connected ∧ data.length ≥ networkInfoSize := by
  have dispatched : (s.dispatch data id).networkConnected = true := by
    unfold handleServerPacket at set
    split at set
    · exact set
    · exact set
  unfold dispatch at dispatched
  split at dispatched
  · unfold handleConnectedPacket at dispatched
    split at dispatched
    · rename_i whole
      exact Or.inr ⟨rfl, whole⟩
    · exact Or.inl dispatched
  · cases dispatched
  · unfold handleNetworkErrorPacket at dispatched
    split at dispatched <;> exact Or.inl dispatched
  · exact Or.inl dispatched

theorem dispatch_lastResponseId (s : Service) (id : PacketId) (data : List UInt8) :
    (s.dispatch data id).lastResponseId = s.lastResponseId := by
  unfold dispatch handleConnectedPacket handleNetworkErrorPacket
  split
  · split <;> rfl
  · rfl
  · split <;> rfl
  · rfl

theorem handleServerPacket_last {s : Service} {id : PacketId} {data : List UInt8}
    (set : (s.handleServerPacket id data).lastResponseId = .connected) :
    s.lastResponseId = .connected ∨ id = .connected := by
  unfold handleServerPacket at set
  split at set
  · exact Or.inr set
  · rw [dispatch_lastResponseId] at set
    exact Or.inl set

end Service

end RyuLdn.LdnService
