import Mathlib.Tactic.SplitIfs

/-! `ConnectionStateMachine` of `connection_state.cpp`. The transition table is a
function to `Option`: `none` is an entry marked invalid. The client never installs
the machine's own callback, so transitions carry no notification here. -/
namespace RyuLdn.ConnectionState

inductive State where
  | disconnected | connecting | connected | handshaking | ready | backoff | retrying
  | disconnecting | error
  deriving DecidableEq, Repr

inductive Event where
  | connect | connectSuccess | connectFailed | handshakeStarted | handshakeSuccess
  | handshakeFailed | disconnect | connectionLost | backoffExpired | retryRequested | fatalError
  deriving DecidableEq, Repr

inductive TransitionResult where
  | success | invalidTransition | alreadyInState
  deriving DecidableEq, Repr

/-- `is_valid_transition`, with the target of a valid entry. -/
def isValidTransition : State → Event → Option State
  | .disconnected, .connect => some .connecting
  | .disconnected, .retryRequested => some .connecting
  | .connecting, .connectSuccess => some .connected
  | .connecting, .connectFailed => some .backoff
  | .connecting, .disconnect => some .disconnected
  | .connecting, .fatalError => some .error
  | .connected, .handshakeStarted => some .handshaking
  | .connected, .handshakeSuccess => some .ready
  | .connected, .handshakeFailed => some .backoff
  | .connected, .disconnect => some .disconnecting
  | .connected, .connectionLost => some .backoff
  | .connected, .fatalError => some .error
  | .handshaking, .handshakeSuccess => some .ready
  | .handshaking, .handshakeFailed => some .backoff
  | .handshaking, .disconnect => some .disconnecting
  | .handshaking, .connectionLost => some .backoff
  | .handshaking, .fatalError => some .error
  | .ready, .disconnect => some .disconnecting
  | .ready, .connectionLost => some .backoff
  | .ready, .fatalError => some .error
  | .backoff, .disconnect => some .disconnected
  | .backoff, .backoffExpired => some .retrying
  | .backoff, .retryRequested => some .retrying
  | .backoff, .fatalError => some .error
  | .retrying, .connectSuccess => some .connected
  | .retrying, .connectFailed => some .backoff
  | .retrying, .disconnect => some .disconnected
  | .retrying, .fatalError => some .error
  | .disconnecting, .connectSuccess => some .disconnected
  | .disconnecting, .connectFailed => some .disconnected
  | .disconnecting, .connectionLost => some .disconnected
  | .disconnecting, .fatalError => some .disconnected
  | .error, .disconnect => some .disconnected
  | .error, .retryRequested => some .connecting
  | _, _ => none

theorem disconnected_of_connect {state : State}
    (valid : (isValidTransition state .connect).isSome = true) : state = .disconnected := by
  cases state with
  | disconnected => rfl
  | _ => cases valid

structure Machine where
  state : State
  retryCount : UInt32
  deriving DecidableEq, Repr

namespace Machine

def new : Machine := ⟨.disconnected, 0⟩

def isConnected (m : Machine) : Bool :=
  m.state = .connected ∨ m.state = .handshaking ∨ m.state = .ready

def isTransitioning (m : Machine) : Bool :=
  m.state = .connecting ∨ m.state = .handshaking ∨ m.state = .retrying ∨
    m.state = .disconnecting ∨ m.state = .backoff

def isReady (m : Machine) : Bool := m.state = .ready

/-- A retry is counted on the way out of `Backoff` or `Retrying`, and `Ready`
clears the count. -/
def transitionTo (m : Machine) (newState : State) : Machine where
  state := newState
  retryCount :=
    let counted :=
      if (newState = .retrying ∨ newState = .connecting) ∧
          (m.state = .backoff ∨ m.state = .retrying) then m.retryCount + 1
      else m.retryCount
    if newState = .ready then 0 else counted

def processEvent (m : Machine) (event : Event) : TransitionResult × Machine :=
  if m.state = .disconnected ∧ event = .disconnect then (.alreadyInState, m)
  else if m.state = .ready ∧ event = .connectSuccess then (.alreadyInState, m)
  else
    match isValidTransition m.state event with
    | some target => (.success, m.transitionTo target)
    | none => (.invalidTransition, m)

theorem processEvent_state (m : Machine) (event : Event) :
    (m.processEvent event).2.state = (isValidTransition m.state event).getD m.state := by
  unfold processEvent
  split_ifs with idle ready
  · simp [idle.1, idle.2, isValidTransition]
  · simp [ready.1, ready.2, isValidTransition]
  · cases isValidTransition m.state event <;> rfl

theorem processEvent_success (m : Machine) (event : Event) :
    (m.processEvent event).1 = .success ↔ (isValidTransition m.state event).isSome = true := by
  unfold processEvent
  split_ifs with idle ready
  · simp [idle.1, idle.2, isValidTransition]
  · simp [ready.1, ready.2, isValidTransition]
  · cases isValidTransition m.state event <;> simp

theorem processEvent_connected {m : Machine} {event : Event}
    (entered : (m.processEvent event).2.state = .connected) :
    m.state = .connected ∨ event = .connectSuccess := by
  rw [processEvent_state] at entered
  generalize m.state = before at entered
  cases before <;> cases event <;> simp_all [isValidTransition]

end Machine

end RyuLdn.ConnectionState
