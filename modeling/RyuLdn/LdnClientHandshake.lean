import RyuLdn.LdnClientRuns

/-! One handshake for each TCP connection. `m_handshake_sent` is cleared by
`connect` and `disconnect` only, so a connection re-established by `update` starts
its own handshake exactly when the flag was still clear in `Backoff`. -/
namespace RyuLdn.LdnClientHandshake

open ConnectionState LdnClient ProtocolTypes TransitionSystem
open TcpSocket.Socket (WriteTurn)

def handed (c : Client) : List Request :=
  c.log.filterMap fun
    | .tcpSend request _ => some request
    | _ => none

/-- What `send_initialize` hands over: the second packet only when the first was sent. -/
def handshakePackets (c : Client) (os : Replies) : List Request :=
  .passphrase c.config.passphrase ::
    if ((Request.passphrase c.config.passphrase).send c.tcp os.passphrase).1 = .success then
      [.initializeMessage c.initializeImage]
    else []

/-- A connected client has its handshake in front of it, and the next `update`
begins it. -/
def StartsHandshake (c : Client) : Prop :=
  c.state = .connected → c.handshakeSent = false ∧
    ∀ currentTimeMs os,
      handed (c.update currentTimeMs os) = handed c ++ handshakePackets c os

/-- No retry succeeds while the flag of an earlier handshake is set. -/
def RetriesFresh (c : Client) : Action → Prop
  | .update currentTimeMs os =>
      c.state = .backoff → (c.isBackoffExpired currentTimeMs).1 = true →
        (c.dial os).1 = .success → c.handshakeSent = false
  | _ => True

section Handed

variable (c : Client)

@[simp] theorem handed_notifyState (old new : State) :
    handed (c.notifyState old new) = handed c := by
  unfold Client.notifyState
  split
  · simp [handed, Client.note]
  · rfl

@[simp] theorem handed_notifyChange (old : State) : handed (c.notifyChange old) = handed c := by
  unfold Client.notifyChange
  split
  · exact handed_notifyState c old c.state
  · rfl

@[simp] theorem handed_startBackoffIfAuto : handed c.startBackoffIfAuto = handed c := by
  unfold Client.startBackoffIfAuto
  split <;> rfl

@[simp] theorem handed_processEvent (event : Event) :
    handed (c.processEvent event) = handed c := rfl

theorem handed_callTcp (request : Request) (turns : List WriteTurn) :
    handed (c.callTcp request turns).2 = handed c ++ [request] := by
  simp [handed, Client.callTcp, Client.note, Client.setTcp]

theorem handed_sendInHandshake (request : Request) (turns : List WriteTurn) :
    handed (c.sendInHandshake request turns).2 = handed c ++ [request] := by
  have called := handed_callTcp c request turns
  unfold Client.sendInHandshake
  generalize c.callTcp request turns = outcome at called
  obtain ⟨result, d⟩ := outcome
  cases result
  case connectionLost => simpa [Client.connectionLostInHandshake] using called
  all_goals exact called

theorem handed_sendInitialize (os : Replies) (here : c.core.state = .connected) :
    handed (c.sendInitialize os).2 = handed c ++ handshakePackets c os := by
  have first := handed_sendInHandshake c (.passphrase c.config.passphrase) os.passphrase
  unfold Client.sendInitialize handshakePackets
  by_cases ok : ((Request.passphrase c.config.passphrase).send c.tcp os.passphrase).1 = .success
  · rw [Client.sendInHandshake_success ok] at first ⊢
    rw [if_pos ok]
    dsimp only
    rw [handed_sendInHandshake, first, List.append_assoc]
    rfl
  · have result_iff := (Client.sendInHandshake_spec (.passphrase c.config.passphrase)
      os.passphrase here).1
    rw [if_neg ok]
    generalize c.sendInHandshake (.passphrase c.config.passphrase) os.passphrase = outcome
      at first result_iff
    obtain ⟨result, d⟩ := outcome
    cases result
    case success => exact absurd (result_iff.mp rfl) ok
    all_goals exact first

theorem handed_update_connected {c : Client} (here : c.state = .connected)
    (fresh : c.handshakeSent = false) (currentTimeMs : UInt64) (os : Replies) :
    handed (c.update currentTimeMs os) = handed c ++ handshakePackets c os := by
  have sent := handed_sendInitialize (c.tick currentTimeMs) os here
  unfold Client.update
  generalize client_eq : c.tick currentTimeMs = d at sent
  have state_d : d.state = .connected := by rw [← client_eq]; exact here
  have unsent : d.handshakeSent = false := by rw [← client_eq]; exact fresh
  have start : handed d ++ handshakePackets d os = handed c ++ handshakePackets c os := by
    rw [← client_eq]
    rfl
  rw [start] at sent
  dsimp only
  rw [state_d]
  dsimp only
  unfold Client.updateConnected
  simp only [unsent, Bool.false_eq_true, if_false]
  generalize d.sendInitialize os = outcome at sent
  obtain ⟨result, e⟩ := outcome
  cases result
  case success => exact (handed_notifyState _ _ _).trans sent
  all_goals simpa using sent

end Handed

theorem startsHandshake_iff (c : Client) :
    StartsHandshake c ↔ (c.core.state = .connected → c.core.handshakeSent = false) := by
  constructor
  · intro starts here
    exact (starts here).1
  · intro fresh here
    exact ⟨fresh here, fun now os => handed_update_connected here (fresh here) now os⟩

theorem fresh_of_away {v : Core} (away : v.state ≠ .connected) :
    v.state = .connected → v.handshakeSent = false := by
  intro here
  exact absurd here away

theorem handshakeNext_ne_connected (received : TcpClient.Client.Received) :
    Client.handshakeNext received ≠ .connected := by
  unfold Client.handshakeNext Client.handshakeOutcome
  cases ProtocolCodec.PacketId.ofByte received.type with
  | none =>
      dsimp only
      split_ifs <;> simp
  | some id =>
      cases id <;> dsimp only <;> split_ifs <;> simp

theorem handleReadyState_ne_connected {c : Client} (here : c.core.state = .ready)
    (currentTimeMs : UInt64) (os : Replies) :
    (c.handleReadyState currentTimeMs os).core.state ≠ .connected := by
  unfold Client.handleReadyState
  have served := (Client.processPackets_effect os (Or.inl here)).outcome
  generalize c.processPackets os = e at served
  have away : e.core.state ≠ .connected := by
    rcases served with (at_ready | leaving) | ⟨at_backoff | done, -⟩ <;> simp_all
  dsimp only
  split
  · rw [Client.core_notifyState, Client.core_startBackoffIfAuto, Client.core_processEvent]
    intro entered
    exact (ConnectionState.Machine.processEvent_connected
      ((ConnectionState.Machine.processEvent_state e.machine .connectionLost).trans
        entered)).elim away (by simp)
  · have kept := (Client.keepAlive_effect e currentTimeMs os).outcome
    rcases kept with same | ⟨-, still | ⟨lost, -⟩⟩
    · rw [same]
      exact away
    · simp [still]
    · simp [lost]

theorem update_fresh_iff {c : Client} (currentTimeMs : UInt64) (os : Replies)
    (fresh : c.core.state = .connected → c.core.handshakeSent = false) :
    ((c.update currentTimeMs os).core.state = .connected →
        (c.update currentTimeMs os).core.handshakeSent = false) ↔
      RetriesFresh c (.update currentTimeMs os) := by
  unfold Client.update
  generalize client_eq : c.tick currentTimeMs = d
  have core_d : d.core = c.core := by rw [← client_eq]; rfl
  have condition : RetriesFresh c (.update currentTimeMs os) ↔
      RetriesFresh d (.update currentTimeMs os) := by
    rw [← client_eq]
    unfold RetriesFresh Client.isBackoffExpired Client.tick
    dsimp only
    split <;> rfl
  rw [← core_d] at fresh
  rw [condition]
  have vacuous : d.state ≠ .backoff → RetriesFresh d (.update currentTimeMs os) := by
    intro other here
    exact absurd here other
  dsimp only
  cases state : d.state
  case backoff =>
    have here : d.core.state = .backoff := state
    dsimp only
    rw [Client.core_updateBackoff currentTimeMs os here]
    unfold RetriesFresh
    by_cases expired : (d.isBackoffExpired currentTimeMs).1 = true
    · simp only [expired, if_true, state, true_implies]
      by_cases dialled : (d.dial os).1 = .success
      · simp only [dialled, if_true, true_implies]
        rfl
      · simp [dialled]
    · simp [expired, here]
  case connected =>
    have here : d.core.state = .connected := state
    refine iff_of_true ?_ (vacuous (by rw [state]; decide))
    dsimp only
    rw [Client.core_updateConnected currentTimeMs os here (fresh here)]
    apply fresh_of_away
    split <;> simp
  case handshaking =>
    have here : d.core.state = .handshaking := state
    refine iff_of_true ?_ (vacuous (by rw [state]; decide))
    dsimp only
    rw [Client.core_handleHandshakingState currentTimeMs os here]
    apply fresh_of_away
    split
    · simp
    · exact handshakeNext_ne_connected (d.receive os.reads).1
  case ready =>
    refine iff_of_true ?_ (vacuous (by rw [state]; decide))
    exact fresh_of_away (handleReadyState_ne_connected state currentTimeMs os)
  case disconnecting =>
    have here : d.core.state = .disconnecting := state
    refine iff_of_true ?_ (vacuous (by rw [state]; decide))
    apply fresh_of_away
    dsimp only
    rw [Client.core_notifyState, Client.core_processEvent, Core.event_state here]
    decide
  all_goals
    refine iff_of_true ?_ (vacuous (by rw [state]; decide))
    exact fresh

theorem step_fresh_iff (c : Client) (action : Action)
    (fresh : c.core.state = .connected → c.core.handshakeSent = false) :
    ((step c action).core.state = .connected → (step c action).core.handshakeSent = false) ↔
      RetriesFresh c action := by
  have dialled : ∀ host port os, (c.connectTo host port os).2.core.state = .connected →
      (c.connectTo host port os).2.core.handshakeSent = false := by
    intro host port os
    rcases c.connectTo_effect host port os with same | cleared | ⟨flag, -⟩
    · rw [same]
      exact fresh
    · rw [cleared]
      intro _
      rfl
    · intro _
      exact flag
  cases action
  case update currentTimeMs os => exact update_fresh_iff currentTimeMs os fresh
  case connect os => exact iff_of_true (dialled _ _ os) trivial
  case connectTo host port os => exact iff_of_true (dialled host port os) trivial
  case disconnect turns =>
    refine iff_of_true ?_ trivial
    unfold step
    rw [Client.core_disconnect]
    simp
  case send call turns =>
    refine iff_of_true ?_ trivial
    have sent := Client.sendCall_effect call c turns
    unfold step
    rw [sent.handshakeSent]
    rcases sent.outcome with same | ⟨-, still | ⟨lost, -⟩⟩
    · rw [same]
      exact fresh
    · simp [still]
    · simp [lost]
  case setConfig config => exact iff_of_true fresh trivial
  case socketLost => exact iff_of_true fresh trivial

/-- A run starts a handshake on every TCP connection exactly when none of its
retries succeeds with the flag of an earlier connection still set. -/
theorem handshake_on_every_connection_iff (config : Config) (stateCallback packetCallback : Bool)
    (sessionId : Octets 16) (actions : List Action) :
    (∀ c ∈ visited step (Client.new config stateCallback packetCallback sessionId) actions,
        StartsHandshake c) ↔
      StepsMeet step RetriesFresh (Client.new config stateCallback packetCallback sessionId)
        actions := by
  have exact_step : ∀ c action, StartsHandshake c →
      (StartsHandshake (step c action) ↔ RetriesFresh c action) := by
    intro c action starts
    rw [startsHandshake_iff] at *
    exact step_fresh_iff c action starts
  apply visited_iff_stepsMeet exact_step
  intro connected
  cases connected

def lostInHandshake : List Action :=
  [.connect .quiet, .update 1 .quiet,
    .update 2 { Replies.quiet with reads := [(.ready false, .data [])] }, .update 1000 .quiet]

/-- The retry of this run is connected with the flag of the first connection. -/
theorem retry_without_handshake :
    ¬ ∀ c ∈ visited step (Client.new Config.default true true default) lostInHandshake,
      StartsHandshake c := by
  intro all
  have last : ((visited step (Client.new Config.default true true default)
      lostInHandshake).getLast?.map fun c => (c.state, c.handshakeSent)) =
        some (.connected, true) := by
    decide +kernel
  obtain ⟨c, found, values⟩ := Option.map_eq_some_iff.mp last
  have inRun := List.mem_of_getLast? found
  have flag : c.handshakeSent = true := congrArg Prod.snd values
  have clear := (all c inRun (congrArg Prod.fst values)).1
  rw [flag] at clear
  exact absurd clear (by decide)

end RyuLdn.LdnClientHandshake
