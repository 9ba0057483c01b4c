import RyuLdn.LdnClientRuns

/-! The server connection of `ICommunicationService`: `ConnectToServer` on the game's
thread, the receive thread that drives the client, and the calls that drop the
connection. The client is the one of `LdnClient`.

`ConnectToServer` stops between `connect`, the check that TCP is up and the wait for
the handshake; the receive thread may run there. -/
namespace RyuLdn.LdnServerLink

open ConnectionState ProtocolTypes LdnClient TransitionSystem
open TcpSocket.Socket (WriteTurn)

inductive Phase where
  | idle | dialled | waiting
  deriving DecidableEq, Repr

structure Link where
  client : Client
  serverConnected : Bool
  phase : Phase
  prevTcpState : State

namespace Link

def new (config : Config) (sessionId : Octets 16) : Link where
  client := Client.new config true true sessionId
  serverConnected := false
  phase := .idle
  prevTcpState := .disconnected

/-- The client that `ConnectToServer` connects: a dead connection is dropped first. -/
def redial (l : Link) (turns : List WriteTurn) : Client :=
  if l.serverConnected then l.client.disconnect turns else l.client

def connectToServer (l : Link) (turns : List WriteTurn) (os : Replies) : Link :=
  if l.serverConnected && l.client.machine.isReady then l
  else
    match (l.redial turns).connect os with
    | (.success, c) => { l with client := c, serverConnected := false, phase := .dialled }
    | (_, c) => { l with client := c, serverConnected := false }

/-- `connect` reports success even when no TCP connection came about. -/
def checkConnected (l : Link) : Link :=
  { l with phase := if l.client.machine.isConnected then .waiting else .idle }

def endWait (l : Link) (turns : List WriteTurn) : Link :=
  if l.client.machine.isReady then { l with serverConnected := true, phase := .idle }
  else { l with client := l.client.disconnect turns, phase := .idle }

/-- `DisconnectFromServer`, `CleanupSessionResources` and the inactivity timeout. -/
def disconnectFromServer (l : Link) (turns : List WriteTurn) : Link :=
  if l.serverConnected then
    { l with client := l.client.disconnect turns, serverConnected := false }
  else l

def seesLoss (l : Link) (active : Bool) : Bool :=
  l.prevTcpState = .ready && active &&
    (l.client.state = .backoff || l.client.state = .disconnected || l.client.state = .retrying)

/-- The states in which the receive thread calls `update`. -/
def isDriven (s : State) : Bool := s = .connected || s = .handshaking || s = .ready

/-- One turn of `ReceiveThreadFunc`; `active` tells whether the LDN state is. -/
def receive (l : Link) (currentTimeMs : UInt64) (os : Replies) (active : Bool) : Link where
  client := if isDriven l.client.state then l.client.update currentTimeMs os else l.client
  serverConnected := l.serverConnected && !l.seesLoss active
  phase := l.phase
  prevTcpState := l.client.state

end Link

inductive Action where
  | connectToServer (turns : List WriteTurn) (os : Replies)
  | checkConnected
  | endWait (turns : List WriteTurn)
  | disconnectFromServer (turns : List WriteTurn)
  | receive (currentTimeMs : UInt64) (os : Replies) (active : Bool)
  | send (call : SendCall) (turns : List WriteTurn)
  | socketLost

def step (l : Link) : Action → Option Link
  | .connectToServer turns os =>
      if l.phase = .idle then some (l.connectToServer turns os) else none
  | .checkConnected => if l.phase = .dialled then some l.checkConnected else none
  | .endWait turns => if l.phase = .waiting then some (l.endWait turns) else none
  | .disconnectFromServer turns => some (l.disconnectFromServer turns)
  | .receive currentTimeMs os active => some (l.receive currentTimeMs os active)
  | .send call turns => some { l with client := (call.run l.client turns).2 }
  | .socketLost => some { l with client := l.client.loseSocket }

def isDial : LogEntry → Bool
  | .tcpConnect _ _ _ _ => true
  | _ => false

def dials (c : Client) : Nat := c.log.countP isDial

/-- A call of `ConnectToServer` makes a new TCP connection attempt, on a TCP client
that has none, or finds an attempt under way; it is not refused for good. -/
structure Recovers (l : Link) (turns : List WriteTurn) (os : Replies) : Prop where
  attempts :
    dials l.client < dials (l.connectToServer turns os).client ∧
        (l.redial turns).tcp.isConnected = false ∨
      l.client.state = .connecting ∨ l.client.state = .connected ∨ l.client.state = .handshaking
  notRefused :
    ¬ (((l.redial turns).connect os).1 = .invalidState ∧ Link.isDriven l.client.state = false)

/-- Whenever a call of `ConnectToServer` can start and the client is not ready. -/
def Recoverable (l : Link) : Prop :=
  l.phase = .idle → l.client.machine.isReady = false → ∀ turns os, Recovers l turns os

/-- The condition on a step: TCP is up when `ConnectToServer` looks, and the receive
thread does not take the connection of an active network for lost. -/
def Undisturbed (l : Link) : Action → Bool
  | .checkConnected => l.client.machine.isConnected
  | .receive _ _ active => !(l.phase = .idle && l.serverConnected && l.seesLoss active)
  | _ => true

theorem dials_note (c : Client) (entry : LogEntry) :
    dials (c.note entry) = dials c + if isDial entry then 1 else 0 := by
  simp [dials, Client.note, List.countP_append, List.countP_cons]

theorem dials_notifyState (c : Client) (old new : State) :
    dials (c.notifyState old new) = dials c := by
  unfold Client.notifyState
  split
  · exact dials_note c _
  · rfl

theorem dials_startBackoffIfAuto (c : Client) : dials c.startBackoffIfAuto = dials c := by
  unfold Client.startBackoffIfAuto
  split <;> rfl

theorem dials_tryConnect (c : Client) (os : Replies) : dials (c.tryConnect os) = dials c + 1 := by
  unfold Client.tryConnect
  generalize c.tcp.connect c.config.host c.config.useTls os.connect os.threadStarted = dialled
  obtain ⟨result, tcp⟩ := dialled
  have noted := dials_note (c.setTcp tcp)
    (.tcpConnect c.config.host c.config.port c.config.connectTimeoutMs result)
  dsimp only
  split
  · rw [dials_notifyState]
    exact noted
  · rw [dials_notifyState, dials_startBackoffIfAuto]
    exact noted

theorem dials_ensureInitialized (c : Client) : dials c.ensureInitialized.2 = dials c := by
  unfold Client.ensureInitialized
  split <;> rfl

theorem dials_disconnect (c : Client) (turns : List WriteTurn) :
    dials (c.disconnect turns) = dials c := by
  have told : dials (if c.machine.isReady then (c.callTcp (.disconnect 0) turns).2 else c) =
      dials c := by
    split
    · exact dials_note (c.setTcp _) _
    · rfl
  have left_ : ∀ d : Client, dials d.leave = dials d := by
    intro d
    unfold Client.leave
    dsimp only
    split <;> rfl
  unfold Client.disconnect
  generalize (if c.machine.isReady then (c.callTcp (.disconnect 0) turns).2 else c) = d at told
  dsimp only
  rw [dials_notifyState, ← told]
  exact left_ (d.setTcp d.tcp.disconnect)

theorem connect_past_guard {c : Client}
    (past : ¬ ((c.machine.isConnected ∨ c.machine.isTransitioning) ∧ c.state ≠ .backoff))
    (os : Replies) :
    ((isValidTransition c.machine.state .connect).isSome = true →
        (c.connect os).1 = .success ∧ dials (c.connect os).2 = dials c + 1) ∧
      (isValidTransition c.machine.state .connect = none →
        (c.connect os).1 = .invalidState ∧ (c.connect os).2.core.state = c.core.state ∧
          dials (c.connect os).2 = dials c) := by
  unfold Client.connect Client.connectTo
  rw [if_neg past]
  have kept := dials_ensureInitialized (c.setEndpoint (some c.config.host) c.config.port)
  obtain ⟨d, initialized, same⟩ :=
    (c.setEndpoint (some c.config.host) c.config.port).ensureInitialized_eq
  rw [initialized] at kept ⊢
  have state : d.machine.state = c.machine.state := congrArg Core.state same
  have accepted : ((d.setHandshakeSent false).machine.processEvent .connect).1 = .success ↔
      (isValidTransition c.machine.state .connect).isSome = true := by
    rw [Machine.processEvent_success]
    change (isValidTransition d.machine.state .connect).isSome = true ↔ _
    rw [state]
  dsimp only
  constructor
  · intro valid
    rw [if_pos (accepted.mpr valid)]
    refine ⟨rfl, ?_⟩
    rw [dials_notifyState, dials_tryConnect]
    exact congrArg (· + 1) kept
  · intro invalid
    rw [if_neg (by rw [accepted, invalid]; simp)]
    refine ⟨rfl, ?_, kept⟩
    rw [Client.core_processEvent, Core.event_state (s := c.machine.state) state, invalid]
    rfl

theorem connect_of_disconnected {c : Client} (here : c.state = .disconnected) (os : Replies) :
    (c.connect os).1 = .success ∧ dials (c.connect os).2 = dials c + 1 := by
  have machine : c.machine.state = .disconnected := here
  refine (connect_past_guard ?_ os).1 ?_
  · simp [Machine.isConnected, Machine.isTransitioning, machine]
  · rw [machine]
    rfl

structure Inv (l : Link) : Prop where
  busy : l.phase ≠ .idle → l.serverConnected = false
  down : l.phase = .idle → l.serverConnected = false →
    l.client.core.state = .disconnected ∧ l.client.core.up = false

theorem inv_new (config : Config) (sessionId : Octets 16) : Inv (.new config sessionId) :=
  ⟨fun busy => absurd rfl busy, fun _ _ => ⟨rfl, rfl⟩⟩

theorem Inv.redial {l : Link} (inv : Inv l) (idle : l.phase = .idle) (turns : List WriteTurn) :
    (l.redial turns).core.state = .disconnected ∧ (l.redial turns).core.up = false := by
  unfold Link.redial
  cases linked : l.serverConnected with
  | true =>
      rw [if_pos rfl, Client.core_disconnect]
      exact ⟨rfl, rfl⟩
  | false => exact inv.down idle linked

theorem dials_redial (l : Link) (turns : List WriteTurn) :
    dials (l.redial turns) = dials l.client := by
  unfold Link.redial
  split
  · exact dials_disconnect l.client turns
  · rfl

theorem Inv.connectToServer_eq {l : Link} (inv : Inv l) (idle : l.phase = .idle)
    (needed : (l.serverConnected && l.client.machine.isReady) = false) (turns : List WriteTurn)
    (os : Replies) :
    l.connectToServer turns os =
      { l with
        client := ((l.redial turns).connect os).2
        serverConnected := false
        phase := .dialled } := by
  have success := (connect_of_disconnected (inv.redial idle turns).1 os).1
  unfold Link.connectToServer
  rw [needed, if_neg (by simp)]
  generalize (l.redial turns).connect os = called at success
  obtain ⟨result, c⟩ := called
  change result = .success at success
  rw [success]

theorem Inv.recoverable {l : Link} (inv : Inv l) : Recoverable l := by
  intro idle waiting turns os
  obtain ⟨state, down⟩ := inv.redial idle turns
  obtain ⟨success, dialled⟩ := connect_of_disconnected state os
  refine ⟨Or.inl ⟨?_, down⟩, ?_⟩
  · rw [inv.connectToServer_eq idle (by rw [waiting, Bool.and_false]), dialled, dials_redial]
    exact Nat.lt_succ_self _
  · rintro ⟨refused, -⟩
    rw [success] at refused
    cases refused

theorem Inv.connectToServer {l : Link} (inv : Inv l) (idle : l.phase = .idle)
    (turns : List WriteTurn) (os : Replies) : Inv (l.connectToServer turns os) := by
  cases needed : l.serverConnected && l.client.machine.isReady with
  | true =>
      unfold Link.connectToServer
      rw [if_pos needed]
      exact inv
  | false =>
      rw [inv.connectToServer_eq idle needed]
      exact ⟨fun _ => rfl, fun here => by cases here⟩

theorem inv_endWait (l : Link) (turns : List WriteTurn) :
    Inv (l.endWait turns) := by
  unfold Link.endWait
  split
  · exact ⟨fun busy => absurd rfl busy, fun _ lost => by cases lost⟩
  · refine ⟨fun busy => absurd rfl busy, fun _ _ => ?_⟩
    rw [Client.core_disconnect]
    exact ⟨rfl, rfl⟩

theorem Inv.disconnectFromServer {l : Link} (inv : Inv l) (turns : List WriteTurn) :
    Inv (l.disconnectFromServer turns) := by
  unfold Link.disconnectFromServer
  split
  · refine ⟨fun _ => rfl, fun _ _ => ?_⟩
    rw [Client.core_disconnect]
    exact ⟨rfl, rfl⟩
  · exact inv

theorem Inv.receive {l : Link} (inv : Inv l) {currentTimeMs : UInt64} {os : Replies}
    {active : Bool} (quiet : Undisturbed l (.receive currentTimeMs os active) = true) :
    Inv (l.receive currentTimeMs os active) := by
  refine ⟨?_, ?_⟩
  · intro busy
    have linked := inv.busy busy
    simp [Link.receive, linked]
  · intro idle unlinked
    have idle : l.phase = .idle := idle
    have before : l.serverConnected = false := by
      by_contra linked
      have linked : l.serverConnected = true := by simpa using linked
      simp [Undisturbed, Link.receive, idle, linked] at quiet unlinked
      rw [quiet] at unlinked
      cases unlinked
    have down := inv.down idle before
    have still : (l.receive currentTimeMs os active).client = l.client := by
      have state : l.client.state = .disconnected := down.1
      simp [Link.receive, Link.isDriven, state]
    rw [still]
    exact down

theorem Inv.send {l : Link} (inv : Inv l) (call : SendCall) (turns : List WriteTurn) :
    Inv { l with client := (call.run l.client turns).2 } := by
  refine ⟨inv.busy, ?_⟩
  intro idle unlinked
  obtain ⟨state, down⟩ := inv.down idle unlinked
  rcases (Client.sendCall_effect call l.client turns).outcome with same | ⟨ready, -⟩
  · rw [same]
    exact ⟨state, down⟩
  · rw [state] at ready
    cases ready

theorem Inv.step {l l' : Link} {action : Action} (inv : Inv l)
    (quiet : Undisturbed l action = true) (moved : step l action = some l') : Inv l' := by
  cases action with
  | connectToServer turns os =>
      obtain ⟨idle, same⟩ := Option.ite_none_right_eq_some.mp moved
      cases same
      exact inv.connectToServer idle turns os
  | checkConnected =>
      obtain ⟨dialled, same⟩ := Option.ite_none_right_eq_some.mp moved
      cases same
      have up : l.client.machine.isConnected = true := quiet
      unfold Link.checkConnected
      rw [if_pos up]
      exact ⟨fun _ => inv.busy (by simp [dialled]), fun here => by cases here⟩
  | endWait turns =>
      obtain ⟨-, same⟩ := Option.ite_none_right_eq_some.mp moved
      cases same
      exact inv_endWait l turns
  | disconnectFromServer turns =>
      cases moved
      exact inv.disconnectFromServer turns
  | receive currentTimeMs os active =>
      cases moved
      exact inv.receive quiet
  | send call turns =>
      cases moved
      exact inv.send call turns
  | socketLost =>
      cases moved
      refine ⟨inv.busy, ?_⟩
      intro idle unlinked
      exact ⟨(inv.down idle unlinked).1, rfl⟩

/-- In every undisturbed run the connection can be made anew in every state. -/
theorem recoverable_of_undisturbed {config : Config} {sessionId : Octets 16} {l : Link}
    {actions : List Action}
    (steps : run (guarded Undisturbed step) (.new config sessionId) actions = some l) :
    Recoverable l := by
  refine (run_invariant Inv ?_ steps (inv_new config sessionId)).recoverable
  intro l action l' moved inv
  obtain ⟨quiet, moved⟩ := guarded_eq_some.mp moved
  exact inv.step quiet moved

def unanswered : List Action := [.connectToServer [] .quiet, .checkConnected, .endWait []]

theorem recoverable_of_undisturbed_unanswered : ∃ l,
    run (guarded Undisturbed step) (.new Config.default default) unanswered = some l ∧
      Recoverable l := by
  have evaluated :
      (run (guarded Undisturbed step) (.new Config.default default) unanswered).isSome = true := by
    decide +kernel
  obtain ⟨l, ran⟩ := Option.isSome_iff_exists.mp evaluated
  exact ⟨l, ran, recoverable_of_undisturbed ran⟩

/-- A client in `Backoff` or `Error` that the service holds for disconnected. -/
structure Stuck (l : Link) : Prop where
  idle : l.phase = .idle
  unlinked : l.serverConnected = false
  state : l.client.core.state = .backoff ∨ l.client.core.state = .error

theorem connect_of_stuck {c : Client} (here : c.core.state = .backoff ∨ c.core.state = .error)
    (os : Replies) :
    (c.connect os).1 = .invalidState ∧ (c.connect os).2.core.state = c.core.state ∧
      dials (c.connect os).2 = dials c := by
  have machine : c.machine.state = .backoff ∨ c.machine.state = .error := here
  refine (connect_past_guard ?_ os).2 ?_
  · rcases machine with backoff | error
    · simp [Client.state, backoff]
    · simp [Machine.isConnected, Machine.isTransitioning, error]
  · rcases machine with backoff | error
    · rw [backoff]
      rfl
    · rw [error]
      rfl

theorem stuck_unready {c : Client} (here : c.core.state = .backoff ∨ c.core.state = .error) :
    c.machine.isReady = false := by
  have machine : c.machine.state = .backoff ∨ c.machine.state = .error := here
  rcases machine with backoff | error
  · simp [Machine.isReady, backoff]
  · simp [Machine.isReady, error]

theorem stuck_undriven {c : Client} (here : c.core.state = .backoff ∨ c.core.state = .error) :
    Link.isDriven c.state = false := by
  have state : c.state = .backoff ∨ c.state = .error := here
  rcases state with backoff | error
  · simp [Link.isDriven, backoff]
  · simp [Link.isDriven, error]

theorem Stuck.not_recovers {l : Link} (stuck : Stuck l) (turns : List WriteTurn) (os : Replies) :
    ¬ Recovers l turns os := by
  intro recovers
  refine recovers.notRefused ⟨?_, stuck_undriven stuck.state⟩
  unfold Link.redial
  rw [stuck.unlinked, if_neg (by simp)]
  exact (connect_of_stuck stuck.state os).1

theorem Stuck.connectToServer {l : Link} (stuck : Stuck l) (turns : List WriteTurn)
    (os : Replies) :
    Stuck (l.connectToServer turns os) ∧
      dials (l.connectToServer turns os).client = dials l.client := by
  obtain ⟨refused, state, dialled⟩ := connect_of_stuck stuck.state os
  unfold Link.connectToServer Link.redial
  rw [stuck.unlinked, Bool.false_and, if_neg (by simp), if_neg (by simp)]
  generalize l.client.connect os = called at refused state dialled
  obtain ⟨result, c⟩ := called
  change result = .invalidState at refused
  change c.core.state = _ at state
  rw [refused]
  exact ⟨⟨stuck.idle, rfl, state ▸ stuck.state⟩, dialled⟩

theorem Stuck.step {l l' : Link} {action : Action} (stuck : Stuck l)
    (moved : step l action = some l') : Stuck l' ∧ dials l'.client = dials l.client := by
  cases action with
  | connectToServer turns os =>
      obtain ⟨-, same⟩ := Option.ite_none_right_eq_some.mp moved
      cases same
      exact stuck.connectToServer turns os
  | checkConnected =>
      obtain ⟨dialled, -⟩ := Option.ite_none_right_eq_some.mp moved
      rw [stuck.idle] at dialled
      cases dialled
  | endWait turns =>
      obtain ⟨waiting, -⟩ := Option.ite_none_right_eq_some.mp moved
      rw [stuck.idle] at waiting
      cases waiting
  | disconnectFromServer turns =>
      cases moved
      unfold Link.disconnectFromServer
      rw [stuck.unlinked, if_neg (by simp)]
      exact ⟨stuck, rfl⟩
  | receive currentTimeMs os active =>
      cases moved
      have still : (l.receive currentTimeMs os active).client = l.client := by
        simp [Link.receive, stuck_undriven stuck.state]
      rw [still]
      refine ⟨⟨stuck.idle, ?_, still ▸ stuck.state⟩, rfl⟩
      simp [Link.receive, stuck.unlinked]
  | send call turns =>
      cases moved
      rw [Client.sendCall_notReady (stuck_unready stuck.state)]
      exact ⟨stuck, rfl⟩
  | socketLost =>
      cases moved
      exact ⟨⟨stuck.idle, stuck.unlinked, stuck.state⟩, rfl⟩

theorem stuck_forever {l l' : Link} {actions : List Action} (stuck : Stuck l)
    (steps : run step l actions = some l') : Stuck l' ∧ dials l'.client = dials l.client := by
  refine run_invariant (fun m => Stuck m ∧ dials m.client = dials l.client) ?_ steps ⟨stuck, rfl⟩
  intro m action m' moved kept
  obtain ⟨still, dialled⟩ := kept.1.step moved
  exact ⟨still, dialled.trans kept.2⟩

def unreachableOnce : List Action :=
  [.connectToServer [] { Replies.quiet with connect := .unresolved }, .checkConnected]

theorem unreachableOnce_not_recoverable :
    ∃ l, run step (.new Config.default default) unreachableOnce = some l ∧ ¬ Recoverable l := by
  have evaluated : (run step (.new Config.default default) unreachableOnce).any
      (fun l => l.phase = .idle ∧ l.serverConnected = false ∧ l.client.state = .backoff) = true := by
    decide +kernel
  obtain ⟨l, ran, facts⟩ := (Option.any_eq_true _ _).mp evaluated
  obtain ⟨idle, unlinked, backoff⟩ := of_decide_eq_true facts
  have stuck : Stuck l := ⟨idle, unlinked, Or.inl backoff⟩
  refine ⟨l, ran, ?_⟩
  intro recoverable
  exact stuck.not_recovers [] .quiet (recoverable idle (stuck_unready stuck.state) [] .quiet)

end RyuLdn.LdnServerLink
