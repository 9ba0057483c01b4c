import RyuLdn.P2pServer
import RyuLdn.TransitionSystem

/-! The P2P server as a system of threads. Every session has a receive thread; the
accept thread reaps and accepts, the master connection adds tokens and reports
state changes, and `Stop` can come from anywhere. A step is one critical section,
or one of the unlocked actions between two of them. Calls that another thread has
started on a session object but not finished are the list `pending`. -/
namespace RyuLdn.P2pServerRuns

open P2pServer ProtocolTypes TransitionSystem

inductive ThreadPhase where
  | notStarted
  | receiving
  | registering (config : ExternalProxyConfig) (rounds : Nat)
  /-- Inside `Disconnect(false)`, about to call `OnSessionDisconnected`. -/
  | notifying
  | finished
  | done
  deriving DecidableEq

inductive PendingCall where
  | disconnect (s : SessionId)
  | onSessionDisconnected (s : SessionId)
  | delete (s : SessionId)
  deriving DecidableEq

structure State where
  server : Server
  thread : SessionId → ThreadPhase
  pending : List PendingCall

inductive Action where
  | accept (fd : Nat) (remoteIp : UInt32) (threadCreated : Bool)
  | addWaitingToken (token : ExternalProxyToken)
  /-- The receive loop, still connected, hands over an `ExternalProxy` packet. -/
  | externalProxy (s : SessionId) (config : ExternalProxyConfig)
  | attempt (s : SessionId)
  | authFailed (s : SessionId)
  | receiveEnds (s : SessionId)
  | notifyServer (s : SessionId)
  | threadExit (s : SessionId)
  | externalProxyStateChange (virtualIp : UInt32) (connected : Bool)
  | proceed (i : Nat)
  | reap
  | stop
  deriving DecidableEq

def init (masterCallback : Bool) : State := ⟨Server.start masterCallback, fun _ => .notStarted, []⟩

def State.setThread (st : State) (s : SessionId) (phase : ThreadPhase) : State :=
  { st with thread := Function.update st.thread s phase }

/-- `Disconnect(false)` on the session's own thread; `closed` is the phase of a
thread whose session somebody else has disconnected. -/
def State.leave (st : State) (s : SessionId) (closed : ThreadPhase) : State :=
  match st.server.disconnect s false with
  | some server => { st with server := server }.setThread s .notifying
  | none => st.setThread s closed

def State.proceed (st : State) (call : PendingCall) (rest : List PendingCall) : State :=
  match call with
  | .disconnect s =>
      match st.server.disconnect s false with
      | some server => { st with server := server, pending := .onSessionDisconnected s :: rest }
      | none => { st with pending := rest }
  | .onSessionDisconnected s =>
      { st with server := st.server.onSessionDisconnected s, pending := rest }
  | .delete s => { st with server := st.server.free s, pending := rest }

def step (st : State) : Action → Option State
  | .accept fd remoteIp threadCreated =>
      let (server, started) := st.server.accept fd remoteIp threadCreated
      some { st with
        server := server
        thread := match started with
          | some s => Function.update st.thread s .receiving
          | none => st.thread }
  | .addWaitingToken token => some { st with server := st.server.addWaitingToken token }
  | .externalProxy s config =>
      if st.thread s = .receiving ∧ (st.server.session s).connected then
        some (st.setThread s (.registering config maxRetries))
      else none
  | .attempt s =>
      match st.thread s with
      | .registering config (rounds + 1) =>
          match st.server.registerAttempt s config (st.server.session s).remoteIp with
          | some server => some ({ st with server := server }.setThread s .receiving)
          | none => some (st.setThread s (.registering config rounds))
      | _ => none
  | .authFailed s =>
      match st.thread s with
      | .registering _ 0 => some (st.leave s .receiving)
      | _ => none
  | .receiveEnds s => if st.thread s = .receiving then some (st.leave s .finished) else none
  | .notifyServer s =>
      if st.thread s = .notifying then
        some ({ st with server := st.server.onSessionDisconnected s }.setThread s .finished)
      else none
  | .threadExit s =>
      if st.thread s = .finished then
        some ({ st with server := st.server.threadExit s }.setThread s .done)
      else none
  | .externalProxyStateChange virtualIp connected =>
      let (server, victims) := st.server.handleExternalProxyStateChange virtualIp connected
      some { st with server := server, pending := st.pending ++ victims.map .disconnect }
  | .proceed i =>
      match st.pending[i]? with
      | some call => some (st.proceed call (st.pending.eraseIdx i))
      | none => none
  | .reap =>
      let (server, taken) := st.server.reapZombieSessions
      some { st with server := server, pending := st.pending ++ taken.map .delete }
  | .stop => some { st with server := st.server.stop }

inductive ServerStep (server : Server) : Server → Prop where
  | unchanged : ServerStep server server
  | accept (fd : Nat) (remoteIp : UInt32) (threadCreated : Bool) :
      ServerStep server (server.accept fd remoteIp threadCreated).1
  | addWaitingToken (token : ExternalProxyToken) : ServerStep server (server.addWaitingToken token)
  | register {s : SessionId} {config : ExternalProxyConfig} {remoteIp : UInt32} {next : Server}
      (success : server.registerAttempt s config remoteIp = some next) : ServerStep server next
  | disconnect {s : SessionId} {next : Server} (closed : server.disconnect s false = some next) :
      ServerStep server next
  | onSessionDisconnected (s : SessionId) : ServerStep server (server.onSessionDisconnected s)
  | threadExit (s : SessionId) : ServerStep server (server.threadExit s)
  | stateChange (virtualIp : UInt32) (connected : Bool) :
      ServerStep server (server.handleExternalProxyStateChange virtualIp connected).1
  | free (s : SessionId) : ServerStep server (server.free s)
  | reap : ServerStep server server.reapZombieSessions.1
  | stop : ServerStep server server.stop

theorem leave_serverStep (st : State) (s : SessionId) (closed : ThreadPhase) :
    ServerStep st.server (st.leave s closed).server := by
  rw [State.leave]
  split
  · rename_i closing
    exact .disconnect closing
  · exact .unchanged

theorem proceed_serverStep (st : State) (call : PendingCall) (rest : List PendingCall) :
    ServerStep st.server (st.proceed call rest).server := by
  cases call with
  | disconnect s =>
      simp only [State.proceed]
      split
      · rename_i closing
        exact .disconnect closing
      · exact .unchanged
  | onSessionDisconnected s => exact .onSessionDisconnected s
  | delete s => exact .free s

theorem step_serverStep {st next : State} {a : Action} (taken : step st a = some next) :
    ServerStep st.server next.server := by
  cases a <;> simp only [step, Option.some.injEq] at taken
  case accept fd remoteIp threadCreated =>
    subst taken
    exact .accept fd remoteIp threadCreated
  case addWaitingToken token =>
    subst taken
    exact .addWaitingToken token
  case externalProxy s config =>
    split at taken <;> cases taken
    exact .unchanged
  case attempt s =>
    split at taken
    · split at taken <;> cases taken
      · rename_i success
        exact .register success
      · exact .unchanged
    · cases taken
  case authFailed s =>
    split at taken <;> cases taken
    exact leave_serverStep st s .receiving
  case receiveEnds s =>
    split at taken <;> cases taken
    exact leave_serverStep st s .finished
  case notifyServer s =>
    split at taken <;> cases taken
    exact .onSessionDisconnected s
  case threadExit s =>
    split at taken <;> cases taken
    exact .threadExit s
  case externalProxyStateChange virtualIp connected =>
    subst taken
    exact .stateChange virtualIp connected
  case proceed i =>
    split at taken <;> cases taken
    exact proceed_serverStep st _ _
  case reap =>
    subst taken
    exact .reap
  case stop =>
    subst taken
    exact .stop

end RyuLdn.P2pServerRuns
