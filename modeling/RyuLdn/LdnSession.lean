import RyuLdn.LdnService
import RyuLdn.LdnServerLink

/-! `ICommunicationService` together with its server client. The game's calls, the
receive thread and the threads that only send take turns; a call of the client is one
step, and a call of the service stops wherever another thread can come between.

Every transition of the LDN state signals the state-change event the game waits on.
The other signals of that event come without a transition and are left out, and so is
the end of the service, after which the receive thread makes no further turn. -/
namespace RyuLdn.LdnSession

open ConnectionState ProtocolCodec ProtocolTypes LdnClient LdnStateMachine
open LdnService (Service Kind)
open LdnServerLink (Link Phase)
open TcpSocket.Socket (WriteTurn)

/-- `OpenAccessPoint` and `OpenStation`. -/
inductive Mode where
  | accessPoint | station
  deriving DecidableEq, Repr

def Mode.openTo : Mode → CommState → StateTransitionResult × CommState
  | .accessPoint => CommState.openAccessPoint
  | .station => CommState.openStation

def Mode.closeTo : Mode → CommState → StateTransitionResult × CommState
  | .accessPoint => CommState.closeAccessPoint
  | .station => CommState.closeStation

inductive GameCall where
  | free
  /-- The LDN state has moved, and `ConnectToServer` is under way. -/
  | opening (mode : Mode) (phase : Phase)
  | failed (mode : Mode)
  | closing
  | finalizing
  deriving DecidableEq, Repr

inductive Turn where
  | top
  | sampled (state : State)
  | compared (state : State)
  | updated
  deriving DecidableEq, Repr

structure Session where
  service : Service
  client : Client
  game : GameCall
  turn : Turn
  prevTcpState : State
  stateEvents : Nat

def accepts : Kind → SendCall → Bool
  | .createNetwork, .createAccessPoint _ _ => true
  | .createNetworkPrivate, .createAccessPointPrivate _ => true
  | .connect, .connect _ => true
  | .connectPrivate, .connectPrivate _ => true
  | _, _ => false

def isLost (state : State) : Bool :=
  state = .backoff || state = .disconnected || state = .retrying

def deliver (s : Service) : LogEntry → Service
  | .packetReceived type data =>
      match PacketId.ofByte type with
      | some id => s.handleServerPacket id data
      | none => s
  | _ => s

namespace Session

def new (useP2pProxy : Bool) (config : Config) (sessionId : Octets 16) : Session where
  service := Service.init useP2pProxy
  client := Client.new config true true sessionId
  game := .free
  turn := .top
  prevTcpState := .disconnected
  stateEvents := 0

def active (s : Session) : Bool := s.service.commState.isNetworkActive

/-- The server connection, as `ConnectToServer` and `DisconnectFromServer` see it. -/
def link (s : Session) (phase : Phase) : Link :=
  ⟨s.client, s.service.serverConnected, phase, s.prevTcpState⟩

def withService (s : Session) (service : Service) : Session := { s with service := service }

def openMode (s : Session) (mode : Mode) : Session :=
  match mode.openTo s.service.commState with
  | (.success, commState) =>
      { s with service := { s.service with commState := commState }, game := .opening mode .idle }
  | _ => s

/-- A piece of `ConnectToServer`; the wait for the handshake clears the error event. -/
def afterLink (s : Session) (mode : Mode) (l : Link) : Session :=
  { s with
    client := l.client
    service := { s.service with
      serverConnected := l.serverConnected
      errorEvent := s.service.errorEvent && l.phase ≠ .waiting }
    game :=
      if l.phase ≠ .idle then .opening mode l.phase
      else if l.serverConnected then .free
      else .failed mode }

def closeMode (s : Session) (mode : Mode) : Session :=
  { s with
    service := { s.service with commState := (mode.closeTo s.service.commState).2 }
    game := .free }

/-- `DisconnectFromServer`. -/
def dropServer (s : Session) (turns : List WriteTurn) : Session :=
  { s with
    client := ((s.link .idle).disconnectFromServer turns).client
    service := s.service.disconnectFromServer }

def sendRequest (s : Session) (kind : Kind) (call : SendCall) (turns : List WriteTurn) : Session :=
  { s with
    client := (call.run s.client turns).2
    service := s.service.sendRequest kind false ((call.run s.client turns).1 = .success) }

/-- The end of a request; only the relay fallback sends again. -/
def endRequest (s : Session) (kind : Kind) (second result : Bool) (call : SendCall)
    (turns : List WriteTurn) : Session :=
  if !result && s.service.fallsBack kind second then
    { s with
      client := (call.run s.client turns).2
      service := s.service.endRequest kind second result ((call.run s.client turns).1 = .success) }
  else s.withService (s.service.endRequest kind second result false)

/-- The test for a lost connection; whether a network is active is asked inside. -/
def compare (s : Session) (state : State) : Session :=
  { s with
    service :=
      if s.prevTcpState = .ready && isLost state then s.service.noticeLoss else s.service
    turn := .compared state }

/-- The client's turn, with the packets it hands to `HandleServerPacket`. The state
that decides is the one read at the top of the loop. -/
def update (s : Session) (state : State) (currentTimeMs : UInt64) (os : Replies) : Session :=
  if Link.isDriven state then
    let client := s.client.update currentTimeMs os
    { s with
      client := client
      service := (client.log.drop s.client.log.length).foldl deliver s.service
      turn := .updated
      prevTcpState := state }
  else { s with turn := .top, prevTcpState := state }

/-- `CheckTimeout`, with `OnInactivityTimeout` when the time is up. -/
def checkTimeout (s : Session) (expired : Bool) (turns : List WriteTurn) : Session :=
  if expired && !s.service.networkConnected then { s.dropServer turns with turn := .top }
  else { s with turn := .top }

end Session

inductive Action where
  | call (action : LdnService.Action)
  | request (kind : Kind)
  | sendRequest (call : SendCall) (turns : List WriteTurn)
  | finish (call : SendCall) (turns : List WriteTurn)
  | openMode (mode : Mode)
  | connectToServer (turns : List WriteTurn) (os : Replies)
  | checkConnected
  | endWait (turns : List WriteTurn)
  | closeMode
  | closeAccessPoint (turns : List WriteTurn)
  | finalize (turns : List WriteTurn)
  | endClose
  | send (call : SendCall) (turns : List WriteTurn)
  | socketLost
  | p2pFailed
  | sample
  | compare
  | leaveLost
  | update (currentTimeMs : UInt64) (os : Replies)
  | checkTimeout (expired : Bool) (turns : List WriteTurn)

def Action.isReceive : Action → Bool
  | .sample | .compare | .leaveLost | .update _ _ | .checkTimeout _ _ => true
  | _ => false

/-- The calls of the service that `Action.call` stands for. -/
def isLocal : LdnService.Action → Bool
  | .startUp | .destroyNetwork | .closeStation | .disconnect | .wait _ => true
  | _ => false

namespace Session

def start (s t : Session) : Option Session :=
  if s.game = .free ∧ s.service.call = .idle then some t else none

def move (s : Session) : Action → Option Session
  | .call action =>
      if isLocal action ∧ s.game = .free then (LdnService.step s.service action).map s.withService
      else none
  | .request kind =>
      s.start (s.withService (s.service.beginRequest kind s.client.machine.isReady))
  | .sendRequest call turns =>
      match s.service.call with
      | .sending kind => if accepts kind call then some (s.sendRequest kind call turns) else none
      | _ => none
  | .finish call turns =>
      match s.service.call with
      | .ended kind second result =>
          if accepts kind call then some (s.endRequest kind second result call turns) else none
      | _ => none
  | .openMode mode => s.start (s.openMode mode)
  | .connectToServer turns os =>
      match s.game with
      | .opening mode .idle => some (s.afterLink mode ((s.link .idle).connectToServer turns os))
      | _ => none
  | .checkConnected =>
      match s.game with
      | .opening mode .dialled => some (s.afterLink mode (s.link .dialled).checkConnected)
      | _ => none
  | .endWait turns =>
      match s.game with
      | .opening mode .waiting => some (s.afterLink mode ((s.link .waiting).endWait turns))
      | _ => none
  | .closeMode =>
      match s.game with
      | .failed mode => some (s.closeMode mode)
      | _ => none
  | .closeAccessPoint turns => s.start { s.dropServer turns with game := .closing }
  | .finalize turns =>
      s.start
        { s.dropServer turns with
          service := { s.service.disconnectFromServer with networkConnected := false }
          game := .finalizing }
  | .endClose =>
      match s.game with
      | .closing =>
          some { s with service := s.service.leaveNetwork CommState.closeAccessPoint, game := .free }
      | .finalizing =>
          some
            { s with
              service := { s.service with commState := s.service.commState.finalize.2 }
              game := .free }
      | _ => none
  | .send call turns => some { s with client := (call.run s.client turns).2 }
  | .socketLost => some { s with client := s.client.loseSocket }
  | .p2pFailed => some (s.withService s.service.p2pFailed)
  | .sample => if s.turn = .top then some { s with turn := .sampled s.client.state } else none
  | .compare =>
      match s.turn with
      | .sampled state => some (s.compare state)
      | _ => none
  | .leaveLost => s.service.losing.map fun seen => s.withService (s.service.leaveLost seen)
  | .update currentTimeMs os =>
      match s.turn, s.service.losing with
      | .compared state, none => some (s.update state currentTimeMs os)
      | _, _ => none
  | .checkTimeout expired turns =>
      if s.turn = .updated then some (s.checkTimeout expired turns) else none

def signalled (s t : Session) : Session :=
  { t with
    stateEvents :=
      if t.service.commState = s.service.commState then s.stateEvents else s.stateEvents + 1 }

end Session

def step (s : Session) (action : Action) : Option Session := (s.move action).map s.signalled

structure Retreats (s t : Service) : Prop where
  losing : t.losing = s.losing
  state : t.commState = s.commState ∨ t.commState.isNetworkActive = false

theorem retreats_of_same {s t : Service} (losing : t.losing = s.losing)
    (commState : t.commState = s.commState) : Retreats s t :=
  ⟨losing, Or.inl commState⟩

theorem transition_cases (sources : List CommState) {target : CommState}
    (inactive : target.isNetworkActive = false) (c : CommState) :
    (CommState.transition sources target c).2 = c ∨
      (CommState.transition sources target c).2.isNetworkActive = false := by
  unfold CommState.transition
  split
  · exact Or.inl rfl
  · split
    · exact Or.inr inactive
    · exact Or.inl rfl

theorem retreats_moveBy (s : Service) (sources : List CommState) {target : CommState}
    (inactive : target.isNetworkActive = false) :
    Retreats s (s.moveBy (CommState.transition sources target)) := by
  rcases s.moveBy_cases (CommState.transition sources target) with same | ⟨c, made, same⟩
  · rw [same]
    exact retreats_of_same rfl rfl
  · rw [same]
    have reached := (CommState.transition_success made).2
    exact ⟨rfl, Or.inr (reached ▸ inactive)⟩

theorem retreats_leaveNetwork (s : Service) (sources : List CommState) {target : CommState}
    (inactive : target.isNetworkActive = false) :
    Retreats s (s.leaveNetwork (CommState.transition sources target)) := by
  unfold Service.leaveNetwork
  split
  · rename_i c made
    have reached := (CommState.transition_success made).2
    exact ⟨rfl, Or.inr (reached ▸ inactive)⟩
  · exact retreats_of_same rfl rfl

theorem retreats_rollback (s : Service) (kind : Kind) : Retreats s (s.rollback kind) := by
  refine ⟨rfl, ?_⟩
  cases kind <;> exact transition_cases _ rfl s.commState

theorem retreats_sendRequest (s : Service) (kind : Kind) (second sent : Bool) :
    Retreats s (s.sendRequest kind second sent) := by
  unfold Service.sendRequest
  split
  · exact retreats_of_same rfl rfl
  · exact retreats_rollback s kind

theorem retreats_endRequest (s : Service) (kind : Kind) (second result sent : Bool) :
    Retreats s (s.endRequest kind second result sent) := by
  unfold Service.endRequest
  split
  · exact retreats_of_same rfl rfl
  · split
    · have again := retreats_sendRequest { s with errorEvent := false } kind true sent
      exact ⟨again.losing, again.state⟩
    · exact retreats_rollback s kind

theorem retreats_local {s t : Service} {action : LdnService.Action}
    (here : isLocal action = true) (moved : LdnService.step s action = some t) :
    Retreats s t := by
  cases action
  case startUp =>
    rw [← (LdnService.start_eq_some.mp moved).2]
    exact retreats_moveBy s _ rfl
  case destroyNetwork =>
    rw [← (LdnService.start_eq_some.mp moved).2]
    exact retreats_leaveNetwork s _ rfl
  case closeStation =>
    rw [← (LdnService.start_eq_some.mp moved).2]
    exact retreats_moveBy s _ rfl
  case disconnect =>
    rw [← (LdnService.start_eq_some.mp moved).2]
    exact retreats_leaveNetwork s _ rfl
  case wait signal =>
    obtain ⟨kind, second, stage, -, moved⟩ := LdnService.step_wait_eq_some.mp moved
    rcases Service.waitForResponse_cases moved with ⟨_, rfl, -⟩ | ⟨_, _, _, rfl⟩
    · exact retreats_of_same rfl rfl
    · exact retreats_of_same rfl rfl
  all_goals cases here

def Drops (v v' : State) : Prop := v' = v ∨ v' = .disconnected ∨ v = .ready ∧ v' = .backoff

theorem drops_send (c : Client) (call : SendCall) (turns : List WriteTurn) :
    Drops c.state (call.run c turns).2.state := by
  rcases (Client.sendCall_effect call c turns).outcome with same | ⟨ready, still | ⟨backoff, -⟩⟩
  · exact Or.inl (congrArg Core.state same)
  · exact Or.inl (still.trans ready.symm)
  · exact Or.inr (Or.inr ⟨ready, backoff⟩)

theorem drops_dropServer (s : Session) (turns : List WriteTurn) :
    Drops s.client.state (s.dropServer turns).client.state := by
  unfold Session.dropServer Link.disconnectFromServer
  dsimp only
  split
  · exact Or.inr (Or.inl (congrArg Core.state (Client.core_disconnect s.client turns)))
  · exact Or.inl rfl

structure Apart (s t : Session) : Prop where
  turn : t.turn = s.turn
  prevTcpState : t.prevTcpState = s.prevTcpState
  losing : t.service.losing = s.service.losing
  state : Drops s.client.state t.client.state

/-- The game's call is in `ConnectToServer`, or about to undo its transition. -/
def GameCall.dials : GameCall → Bool
  | .opening _ _ | .failed _ => true
  | _ => false

theorem start_eq_some {s t u : Session} :
    s.start t = some u ↔ (s.game = .free ∧ s.service.call = .idle) ∧ t = u := by
  unfold Session.start
  rw [Option.ite_none_right_eq_some, Option.some.injEq]

theorem move_sendRequest_eq_some {s t : Session} {call : SendCall} {turns : List WriteTurn} :
    s.move (.sendRequest call turns) = some t ↔
      ∃ kind, s.service.call = .sending kind ∧ accepts kind call = true ∧
        s.sendRequest kind call turns = t := by
  constructor
  · intro moved
    simp only [Session.move] at moved
    split at moved
    · rename_i kind here
      obtain ⟨fits, same⟩ := Option.ite_none_right_eq_some.mp moved
      exact ⟨kind, here, fits, Option.some.inj same⟩
    · cases moved
  · rintro ⟨kind, here, fits, rfl⟩
    simp only [Session.move, here, fits, if_true]

theorem move_finish_eq_some {s t : Session} {call : SendCall} {turns : List WriteTurn} :
    s.move (.finish call turns) = some t ↔
      ∃ kind second result, s.service.call = .ended kind second result ∧
        accepts kind call = true ∧ s.endRequest kind second result call turns = t := by
  constructor
  · intro moved
    simp only [Session.move] at moved
    split at moved
    · rename_i kind second result here
      obtain ⟨fits, same⟩ := Option.ite_none_right_eq_some.mp moved
      exact ⟨kind, second, result, here, fits, Option.some.inj same⟩
    · cases moved
  · rintro ⟨kind, second, result, here, fits, rfl⟩
    simp only [Session.move, here, fits, if_true]

theorem move_compare_eq_some {s t : Session} :
    s.move .compare = some t ↔ ∃ state, s.turn = .sampled state ∧ s.compare state = t := by
  constructor
  · intro moved
    simp only [Session.move] at moved
    split at moved
    · rename_i state here
      exact ⟨state, here, Option.some.inj moved⟩
    · cases moved
  · rintro ⟨state, here, rfl⟩
    simp only [Session.move, here]

theorem move_update_eq_some {s t : Session} {currentTimeMs : UInt64} {os : Replies} :
    s.move (.update currentTimeMs os) = some t ↔
      ∃ state, s.turn = .compared state ∧ s.service.losing = none ∧
        s.update state currentTimeMs os = t := by
  constructor
  · intro moved
    simp only [Session.move] at moved
    split at moved
    · rename_i state here calm
      exact ⟨state, here, calm, Option.some.inj moved⟩
    · cases moved
  · rintro ⟨state, here, calm, rfl⟩
    simp only [Session.move, here, calm]

theorem openMode_cases (s : Session) (mode : Mode) :
    s.openMode mode = s ∨ ∃ c, mode.openTo s.service.commState = (.success, c) ∧
      s.openMode mode =
        { s with service := { s.service with commState := c }, game := .opening mode .idle } := by
  unfold Session.openMode
  split
  · rename_i c made
    exact Or.inr ⟨c, made, rfl⟩
  · exact Or.inl rfl

theorem apart_withService {s : Session} {service : Service}
    (losing : service.losing = s.service.losing) : Apart s (s.withService service) :=
  ⟨rfl, rfl, losing, Or.inl rfl⟩

theorem apart_endRequest (s : Session) (kind : Kind) (second result : Bool) (call : SendCall)
    (turns : List WriteTurn) : Apart s (s.endRequest kind second result call turns) := by
  unfold Session.endRequest
  split
  · exact ⟨rfl, rfl, (retreats_endRequest s.service kind second result _).losing,
      drops_send s.client call turns⟩
  · exact apart_withService (retreats_endRequest s.service kind second result false).losing

theorem apart_of_move {s t : Session} {action : Action} (other : action.isReceive = false)
    (closed : s.game.dials = false) (moved : s.move action = some t) : Apart s t := by
  cases action with
  | call action =>
      obtain ⟨⟨here, -⟩, moved⟩ := Option.ite_none_right_eq_some.mp moved
      obtain ⟨service, stepped, same⟩ := Option.map_eq_some_iff.mp moved
      rw [← same]
      exact apart_withService (retreats_local here stepped).losing
  | request kind =>
      obtain ⟨-, same⟩ := start_eq_some.mp moved
      rw [← same]
      apply apart_withService
      rcases s.service.beginRequest_cases kind s.client.machine.isReady with kept | ⟨_, _, begun⟩
      · rw [kept]
      · rw [begun]
  | sendRequest call turns =>
      obtain ⟨kind, -, -, rfl⟩ := move_sendRequest_eq_some.mp moved
      exact ⟨rfl, rfl, (retreats_sendRequest s.service kind false _).losing,
        drops_send s.client call turns⟩
  | finish call turns =>
      obtain ⟨kind, second, result, -, -, rfl⟩ := move_finish_eq_some.mp moved
      exact apart_endRequest s kind second result call turns
  | openMode mode =>
      obtain ⟨-, same⟩ := start_eq_some.mp moved
      rw [← same]
      rcases openMode_cases s mode with kept | ⟨_, _, opened⟩
      · rw [kept]
        exact ⟨rfl, rfl, rfl, Or.inl rfl⟩
      · rw [opened]
        exact ⟨rfl, rfl, rfl, Or.inl rfl⟩
  | connectToServer _ _ | checkConnected | endWait _ | closeMode =>
      simp only [Session.move] at moved
      split at moved
      · rename_i dialling
        rw [dialling] at closed
        cases closed
      · cases moved
  | closeAccessPoint turns =>
      obtain ⟨-, same⟩ := start_eq_some.mp moved
      rw [← same]
      exact ⟨rfl, rfl, rfl, drops_dropServer s turns⟩
  | finalize turns =>
      obtain ⟨-, same⟩ := start_eq_some.mp moved
      rw [← same]
      exact ⟨rfl, rfl, rfl, drops_dropServer s turns⟩
  | endClose =>
      simp only [Session.move] at moved
      split at moved
      · cases moved
        exact ⟨rfl, rfl, (retreats_leaveNetwork s.service _ rfl).losing, Or.inl rfl⟩
      · cases moved
        exact ⟨rfl, rfl, rfl, Or.inl rfl⟩
      · cases moved
  | send call turns =>
      cases moved
      exact ⟨rfl, rfl, rfl, drops_send s.client call turns⟩
  | socketLost =>
      cases moved
      exact ⟨rfl, rfl, rfl, Or.inl rfl⟩
  | p2pFailed =>
      cases moved
      exact apart_withService rfl
  | sample => cases other
  | compare => cases other
  | leaveLost => cases other
  | update currentTimeMs os => cases other
  | checkTimeout expired turns => cases other

theorem noticeLoss_commState (s : Service) : s.noticeLoss.commState = s.commState := by
  unfold Service.noticeLoss
  split <;> rfl

theorem compare_commState (s : Session) (state : State) :
    (s.compare state).service.commState = s.service.commState := by
  unfold Session.compare
  dsimp only
  split
  · exact noticeLoss_commState s.service
  · rfl

theorem deliver_commState (s : Service) (entry : LogEntry) :
    (deliver s entry).commState = s.commState := by
  unfold deliver
  split
  · split
    · exact (s.handleServerPacket_frame _ _).2.1
    · rfl
  · rfl

theorem foldl_deliver_commState (entries : List LogEntry) (s : Service) :
    (entries.foldl deliver s).commState = s.commState := by
  induction entries generalizing s with
  | nil => rfl
  | cons entry entries ih => rw [List.foldl_cons, ih, deliver_commState]

theorem update_commState (s : Session) (state : State) (currentTimeMs : UInt64) (os : Replies) :
    (s.update state currentTimeMs os).service.commState = s.service.commState := by
  unfold Session.update
  split
  · exact foldl_deliver_commState _ s.service
  · rfl

theorem checkTimeout_commState (s : Session) (expired : Bool) (turns : List WriteTurn) :
    (s.checkTimeout expired turns).service.commState = s.service.commState := by
  unfold Session.checkTimeout
  split <;> rfl

theorem leaveLost_cases (s : Service) (seen : CommState.Active) :
    (s.leaveLost seen).commState = s.commState ∨
      (s.leaveLost seen).commState.isNetworkActive = false := by
  unfold Service.leaveLost
  dsimp only
  split
  · exact transition_cases _ rfl s.commState
  · exact transition_cases _ rfl s.commState

theorem leaveLost_inactive {s : Service} {seen : CommState.Active}
    (here : seen.val = s.commState) :
    (s.leaveLost seen).commState.isNetworkActive = false := by
  unfold Service.leaveLost
  rcases CommState.isNetworkActive_iff.mp seen.property with created | connected
  · simp [← here, created, CommState.destroyNetwork, CommState.transition,
      CommState.isNetworkActive]
  · simp [← here, connected, CommState.disconnect, CommState.transition,
      CommState.isNetworkActive]

structure Moves (s t : Session) : Prop where
  state : t.service.commState = s.service.commState ∨ t.active = false ∨
    s.active = false ∧ t.game.dials = false
  game : t.game.dials = true → s.game.dials = true ∨ t.active = false

theorem moves_of_same {s t : Session} (state : t.service.commState = s.service.commState)
    (game : t.game = s.game) : Moves s t :=
  ⟨Or.inl state, fun dialling => Or.inl (game ▸ dialling)⟩

theorem moves_of_retreats {s t : Session} (retreats : Retreats s.service t.service)
    (game : t.game = s.game) : Moves s t := by
  refine ⟨?_, fun dialling => Or.inl (game ▸ dialling)⟩
  exact retreats.state.imp_right Or.inl

theorem moves_request {s : Session} (free : s.game = .free) (kind : Kind) (ready : Bool) :
    Moves s (s.withService (s.service.beginRequest kind ready)) := by
  rcases s.service.beginRequest_cases kind ready with kept | ⟨c, made, begun⟩
  · rw [kept]
    exact moves_of_same rfl rfl
  · have inactive : s.active = false := by
      unfold Session.active
      cases kind <;>
        rw [List.mem_singleton.mp (CommState.transition_success made).1] <;> rfl
    have closed : s.game.dials = false := congrArg GameCall.dials free
    exact ⟨Or.inr (Or.inr ⟨inactive, closed⟩), fun dialling => Or.inl dialling⟩

theorem moves_openMode (s : Session) (mode : Mode) : Moves s (s.openMode mode) := by
  rcases openMode_cases s mode with kept | ⟨c, made, opened⟩
  · rw [kept]
    exact moves_of_same rfl rfl
  · have inactive : (s.openMode mode).active = false := by
      rw [opened]
      change c.isNetworkActive = false
      cases mode <;> rw [(CommState.transition_success made).2] <;> rfl
    exact ⟨Or.inr (Or.inl inactive), fun _ => Or.inr inactive⟩

theorem moves_endRequest (s : Session) (kind : Kind) (second result : Bool) (call : SendCall)
    (turns : List WriteTurn) : Moves s (s.endRequest kind second result call turns) := by
  unfold Session.endRequest
  split
  · exact moves_of_retreats (retreats_endRequest s.service kind second result _) rfl
  · exact moves_of_retreats (retreats_endRequest s.service kind second result false) rfl

theorem moves_of_free {s t : Session}
    (state : t.service.commState = s.service.commState ∨ t.active = false)
    (free : t.game.dials = false) : Moves s t := by
  refine ⟨state.imp_right Or.inl, ?_⟩
  intro dialling
  rw [free] at dialling
  cases dialling

theorem moves_closeMode (s : Session) (mode : Mode) : Moves s (s.closeMode mode) := by
  refine moves_of_free ?_ rfl
  cases mode <;> exact transition_cases _ rfl s.service.commState

theorem finalize_inactive (c : CommState) : c.finalize.2.isNetworkActive = false := by
  cases c <;> rfl

theorem moves_update (s : Session) (state : State) (currentTimeMs : UInt64) (os : Replies) :
    Moves s (s.update state currentTimeMs os) := by
  refine moves_of_same (update_commState s state currentTimeMs os) ?_
  unfold Session.update
  split <;> rfl

theorem moves_checkTimeout (s : Session) (expired : Bool) (turns : List WriteTurn) :
    Moves s (s.checkTimeout expired turns) := by
  refine moves_of_same (checkTimeout_commState s expired turns) ?_
  unfold Session.checkTimeout
  split <;> rfl

theorem moves_of_move {s t : Session} {action : Action} (moved : s.move action = some t) :
    Moves s t := by
  cases action with
  | call action =>
      obtain ⟨⟨here, -⟩, moved⟩ := Option.ite_none_right_eq_some.mp moved
      obtain ⟨service, stepped, same⟩ := Option.map_eq_some_iff.mp moved
      rw [← same]
      exact moves_of_retreats (retreats_local here stepped) rfl
  | request kind =>
      obtain ⟨⟨free, -⟩, same⟩ := start_eq_some.mp moved
      rw [← same]
      exact moves_request free kind _
  | sendRequest call turns =>
      obtain ⟨kind, -, -, rfl⟩ := move_sendRequest_eq_some.mp moved
      exact moves_of_retreats (retreats_sendRequest s.service kind false _) rfl
  | finish call turns =>
      obtain ⟨kind, second, result, -, -, rfl⟩ := move_finish_eq_some.mp moved
      exact moves_endRequest s kind second result call turns
  | openMode mode =>
      obtain ⟨-, same⟩ := start_eq_some.mp moved
      rw [← same]
      exact moves_openMode s mode
  | connectToServer _ _ | checkConnected | endWait _ =>
      simp only [Session.move] at moved
      split at moved <;> cases moved
      rename_i dialling
      exact ⟨Or.inl rfl, fun _ => Or.inl (congrArg GameCall.dials dialling)⟩
  | closeMode =>
      simp only [Session.move] at moved
      split at moved <;> cases moved
      exact moves_closeMode s _
  | closeAccessPoint _ | finalize _ =>
      obtain ⟨-, same⟩ := start_eq_some.mp moved
      rw [← same]
      exact moves_of_free (Or.inl rfl) rfl
  | endClose =>
      simp only [Session.move] at moved
      split at moved <;> cases moved
      · exact moves_of_free (retreats_leaveNetwork s.service _ rfl).state rfl
      · exact moves_of_free (Or.inr (finalize_inactive s.service.commState)) rfl
  | send _ _ | socketLost | p2pFailed =>
      cases moved
      exact moves_of_same rfl rfl
  | sample =>
      obtain ⟨-, same⟩ := Option.ite_none_right_eq_some.mp moved
      cases same
      exact moves_of_same rfl rfl
  | compare =>
      obtain ⟨state, -, rfl⟩ := move_compare_eq_some.mp moved
      exact moves_of_same (compare_commState s state) rfl
  | leaveLost =>
      obtain ⟨seen, -, same⟩ := Option.map_eq_some_iff.mp moved
      rw [← same]
      exact ⟨(leaveLost_cases s.service seen).imp_right Or.inl, fun dialling => Or.inl dialling⟩
  | update currentTimeMs os =>
      obtain ⟨state, -, -, rfl⟩ := move_update_eq_some.mp moved
      exact moves_update s state currentTimeMs os
  | checkTimeout expired turns =>
      obtain ⟨-, same⟩ := Option.ite_none_right_eq_some.mp moved
      cases same
      exact moves_checkTimeout s expired turns

def Settled (s : Session) : Prop := s.active = true → s.game.dials = false

theorem Moves.settled {s t : Session} (moves : Moves s t) (settled : Settled s) : Settled t := by
  intro active
  by_contra dialling
  have before : s.game.dials = true := by
    rcases moves.game (by simpa using dialling) with before | inactive
    · exact before
    · rw [inactive] at active
      cases active
  rcases moves.state with same | inactive | ⟨-, closed⟩
  · have there : s.active = true := by
      unfold Session.active
      rw [← same]
      exact active
    rw [settled there] at before
    cases before
  · rw [inactive] at active
    cases active
  · exact dialling closed

theorem step_eq_some {s u : Session} {action : Action} :
    step s action = some u ↔ ∃ t, s.move action = some t ∧ u = s.signalled t := by
  unfold step
  rw [Option.map_eq_some_iff]
  constructor
  · rintro ⟨t, moved, same⟩
    exact ⟨t, moved, same.symm⟩
  · rintro ⟨t, moved, same⟩
    exact ⟨t, moved, same.symm⟩

theorem events_of_step {s t : Session} {action : Action} (moved : step s action = some t) :
    s.stateEvents ≤ t.stateEvents ∧
      (t.service.commState ≠ s.service.commState → s.stateEvents < t.stateEvents) := by
  obtain ⟨u, -, same⟩ := step_eq_some.mp moved
  rw [same]
  unfold Session.signalled
  dsimp only
  split
  · rename_i kept
    exact ⟨le_rfl, fun changed => absurd kept changed⟩
  · exact ⟨Nat.le_succ _, fun _ => Nat.lt_succ_self _⟩

theorem Settled.step {s t : Session} {action : Action} (settled : Settled s)
    (moved : step s action = some t) : Settled t := by
  obtain ⟨u, made, same⟩ := step_eq_some.mp moved
  rw [same]
  exact (moves_of_move made).settled settled

theorem state_of_step {s t : Session} {action : Action} (active : s.active = true)
    (moved : step s action = some t) :
    t.service.commState = s.service.commState ∨ t.active = false := by
  obtain ⟨u, made, same⟩ := step_eq_some.mp moved
  rw [same]
  rcases (moves_of_move made).state with kept | left_ | ⟨inactive, -⟩
  · exact Or.inl kept
  · exact Or.inr left_
  · rw [inactive] at active
    cases active

end RyuLdn.LdnSession
