import RyuLdn.LdnClientRuns

/-! The socket behind a connection that is over. The state machine leaves its
connected states on many paths, and only some of them close the socket: those on
which the socket has already failed, and `disconnect`. `ClosesSocket` lists the
others. -/
namespace RyuLdn.LdnClientTeardown

open ConnectionState LdnClient ProtocolCodec ProtocolTypes TransitionSystem

/-- In a state without a connection the TCP client has none either, and a dial is
refused as already connected only by the system itself. -/
def TornDown (c : Client) : Prop :=
  c.state = .disconnected ∨ c.state = .backoff ∨ c.state = .error →
    c.tcp.isConnected = false ∧
      ∀ os, (c.dial os).1 = .alreadyConnected → os.connect = .failed .eisconn

def rejects (received : TcpClient.Client.Received) : Prop :=
  received.result = .success ∧
    (PacketId.ofByte received.type = some .networkError ∨
      PacketId.ofByte received.type = some .disconnect)

/-- The step is not one of the exits that keep an open socket: a handshake packet
that could not be sent, a handshake that timed out or was turned down, a ping that
timed out, and the `update` after a `Disconnect` packet. -/
def ClosesSocket (c : Client) : Action → Prop
  | .update currentTimeMs os =>
      match c.state with
      | .connected =>
          c.handshakeSent = false → (c.handshakeSend os).1 ≠ .success →
            (c.handshakeSend os).2.isConnected = false
      | .handshaking =>
          if c.isHandshakeTimeout currentTimeMs then c.tcp.isConnected = false
          else ¬ rejects (c.receive os.reads).1
      | .ready =>
          ((c.tick currentTimeMs).processPackets os).pingTimedOut currentTimeMs = true →
            ((c.tick currentTimeMs).processPackets os).tcp.isConnected = false
      | .disconnecting => c.tcp.isConnected = false
      | _ => True
  | _ => True

def Core.Down (v : Core) : Prop :=
  v.state = .disconnected ∨ v.state = .backoff ∨ v.state = .error → v.up = false

theorem tornDown_iff (c : Client) : TornDown c ↔ Core.Down c.core := by
  constructor
  · intro torn closed
    exact (torn closed).1
  · intro down closed
    exact ⟨down closed, fun os => TcpClient.Client.connect_alreadyConnected (down closed)⟩

theorem down_of_open {v : Core} (apart : v.state ≠ .disconnected ∧ v.state ≠ .backoff ∧
    v.state ≠ .error) : Core.Down v := by
  intro closed
  rcases closed with h | h | h
  · exact absurd h apart.1
  · exact absurd h apart.2.1
  · exact absurd h apart.2.2

theorem down_of_sendEffect {v v' : Core} (sent : Client.SendEffect v v') (down : Core.Down v) :
    Core.Down v' := by
  rcases sent.outcome with same | ⟨-, still | ⟨-, gone⟩⟩
  · rw [same]
    exact down
  · exact down_of_open (by simp [still])
  · intro _
    exact gone

theorem connected_down_iff {c : Client} (currentTimeMs : UInt64) (os : Replies)
    (here : c.core.state = .connected) :
    Core.Down (c.updateConnected currentTimeMs os).core ↔
      (c.handshakeSent = false → (c.handshakeSend os).1 ≠ .success →
        (c.handshakeSend os).2.isConnected = false) := by
  by_cases fresh : c.handshakeSent = false
  · rw [Client.core_updateConnected currentTimeMs os here fresh]
    by_cases ok : (c.handshakeSend os).1 = .success
    · simp [ok, Core.Down]
    · simp [ok, fresh, Core.Down, TcpClient.Client.isConnected]
  · have sent : c.handshakeSent = true := by simpa using fresh
    unfold Client.updateConnected
    simp only [sent, if_true]
    refine iff_of_true (down_of_open (by simp [here])) (by simp)

theorem handshakeNext_closed_iff (received : TcpClient.Client.Received) :
    (Client.handshakeNext received = .disconnected ∨ Client.handshakeNext received = .backoff ∨
        Client.handshakeNext received = .error) ↔
      rejects received ∨ received.result = .connectionLost := by
  unfold Client.handshakeNext Client.handshakeOutcome rejects
  cases kind : PacketId.ofByte received.type with
  | none =>
      dsimp only
      split_ifs <;> simp_all
  | some id => cases id <;> dsimp only <;> split_ifs <;> simp_all

theorem handshaking_down_iff {c : Client} (currentTimeMs : UInt64) (os : Replies)
    (here : c.core.state = .handshaking) :
    Core.Down (c.handleHandshakingState currentTimeMs os).core ↔
      if c.isHandshakeTimeout currentTimeMs then c.tcp.isConnected = false
      else ¬ rejects (c.receive os.reads).1 := by
  rw [Client.core_handleHandshakingState currentTimeMs os here]
  split
  · simp only [Core.Down, reduceCtorEq, or_true, true_implies, or_false]
    exact Iff.rfl
  · have gone : (c.receive os.reads).1.result = .connectionLost →
        (c.receive os.reads).2.1.socket.connected = false := by
      intro lost
      exact TcpClient.Client.receivePacket_lost (Or.inl lost)
    have up : (c.receive os.reads).1.result = .success →
        (c.receive os.reads).2.1.socket.connected = true :=
      TcpClient.Client.receivePacket_connected
    unfold Core.Down
    dsimp only
    rw [handshakeNext_closed_iff]
    generalize c.receive os.reads = outcome at gone up
    constructor
    · intro down rejected
      have closed := down (Or.inl rejected)
      rw [up rejected.1] at closed
      exact absurd closed (by decide)
    · intro accepted closed
      exact gone (closed.resolve_left accepted)

theorem ready_down_iff {c : Client} (currentTimeMs : UInt64) (os : Replies)
    (here : c.core.state = .ready) :
    Core.Down (c.handleReadyState currentTimeMs os).core ↔
      ((c.processPackets os).pingTimedOut currentTimeMs = true →
        (c.processPackets os).tcp.isConnected = false) := by
  have served := (Client.processPackets_effect os (Or.inl here)).outcome
  unfold Client.handleReadyState
  generalize c.processPackets os = d at served
  dsimp only
  by_cases timedOut : d.pingTimedOut currentTimeMs = true
  · rw [if_pos timedOut, Client.core_notifyState, Client.core_startBackoffIfAuto,
      Client.core_processEvent]
    -- Whatever the packets have left, the event ends in a state without a connection.
    have closed : (d.core.event .connectionLost).state = .backoff ∨
        (d.core.event .connectionLost).state = .disconnected := by
      rcases served with (at_ | at_) | ⟨at_ | at_, -⟩ <;> rw [Core.event_state at_] <;> decide
    simp only [timedOut, true_implies]
    constructor
    · intro down
      exact down (by tauto)
    · intro down _
      exact down
  · rw [if_neg timedOut]
    refine iff_of_true ?_ (fun expired => absurd expired timedOut)
    apply down_of_sendEffect (Client.keepAlive_effect d currentTimeMs os)
    rcases served with (at_ | at_) | ⟨-, gone⟩
    · exact down_of_open (by simp [at_])
    · exact down_of_open (by simp [at_])
    · intro _
      exact gone

theorem update_down_iff {c : Client} (currentTimeMs : UInt64) (os : Replies)
    (down : Core.Down c.core) :
    Core.Down (c.update currentTimeMs os).core ↔ ClosesSocket c (.update currentTimeMs os) := by
  unfold Client.update ClosesSocket
  dsimp only
  have same : (c.tick currentTimeMs).state = c.state := rfl
  rw [same]
  cases state : c.state
  case connected => exact connected_down_iff currentTimeMs os state
  case handshaking => exact handshaking_down_iff currentTimeMs os state
  case ready => exact ready_down_iff currentTimeMs os state
  case backoff =>
    refine iff_of_true ?_ trivial
    have here : (c.tick currentTimeMs).core.state = .backoff := state
    have idle : (c.tick currentTimeMs).core.up = false := down (Or.inr (Or.inl state))
    dsimp only
    rw [Client.core_updateBackoff currentTimeMs os here]
    split
    · intro closed
      apply Client.dial_failed os idle
      intro dialled
      simp [dialled] at closed
    · exact down
  case disconnecting =>
    have here : (c.tick currentTimeMs).core.state = .disconnecting := state
    dsimp only
    rw [Client.core_notifyState, Client.core_processEvent]
    have done := Core.event_state here .connectionLost
    constructor
    · intro after
      exact after (Or.inl done)
    · intro after _
      exact after
  all_goals exact iff_of_true down trivial

theorem step_down_iff (c : Client) (action : Action) (down : Core.Down c.core) :
    Core.Down (step c action).core ↔ ClosesSocket c action := by
  have dialled : ∀ host port os, Core.Down (c.connectTo host port os).2.core := by
    intro host port os
    rcases c.connectTo_effect host port os with same | cleared | ⟨-, idle, ok | ⟨-, failed⟩⟩
    · rw [same]
      exact down
    · rw [cleared]
      exact down
    · exact down_of_open (by simp [ok])
    · intro _
      exact failed (down (Or.inl idle))
  cases action
  case update currentTimeMs os => exact update_down_iff currentTimeMs os down
  case connect os => exact iff_of_true (dialled _ _ os) trivial
  case connectTo host port os => exact iff_of_true (dialled host port os) trivial
  case disconnect turns =>
    refine iff_of_true ?_ trivial
    unfold step
    rw [Client.core_disconnect]
    intro _
    rfl
  case send call turns =>
    exact iff_of_true (down_of_sendEffect (Client.sendCall_effect call c turns) down) trivial
  case setConfig config => exact iff_of_true down trivial
  case socketLost =>
    refine iff_of_true ?_ trivial
    intro _
    rfl

/-- Between two calls a client without a connection has no open socket, exactly in
the runs that take none of the exits that keep one. -/
theorem torn_down_between_calls_iff (config : Config) (stateCallback packetCallback : Bool)
    (sessionId : Octets 16) (actions : List Action) :
    (∀ c ∈ visited step (Client.new config stateCallback packetCallback sessionId) actions,
        TornDown c) ↔
      StepsMeet step ClosesSocket (Client.new config stateCallback packetCallback sessionId)
        actions := by
  have exact_step : ∀ c action, TornDown c → (TornDown (step c action) ↔ ClosesSocket c action) := by
    intro c action torn
    rw [tornDown_iff] at *
    exact step_down_iff c action torn
  apply visited_iff_stepsMeet exact_step
  rw [tornDown_iff]
  intro _
  rfl

/-- The handshake is sent and never answered; the retry comes after the timeout. -/
def unanswered : List Action :=
  [.connect .quiet, .update 1 .quiet, .update 6000 .quiet, .update 7000 .quiet]

/-- The timeout leaves the socket open, and the retry is refused as already connected. -/
theorem timeout_keeps_socket :
    (¬ ∀ c ∈ visited step (Client.new Config.default true true default) unanswered,
      TornDown c) ∧
    (unanswered.foldl step (Client.new Config.default true true default)).log.getLast? =
      some (.stateChanged .retrying .backoff) ∧
    (.tcpConnect Config.default.host 30456 5000 .alreadyConnected) ∈
      (unanswered.foldl step (Client.new Config.default true true default)).log := by
  refine ⟨?_, by decide +kernel, by decide +kernel⟩
  intro all
  have last : ((visited step (Client.new Config.default true true default)
      unanswered).getLast?.map fun c => (c.state, c.tcp.isConnected)) = some (.backoff, true) := by
    decide +kernel
  obtain ⟨c, found, values⟩ := Option.map_eq_some_iff.mp last
  have up : c.tcp.isConnected = true := congrArg Prod.snd values
  have closed := (all c (List.mem_of_getLast? found) (Or.inr (Or.inl (congrArg Prod.fst values)))).1
  rw [up] at closed
  exact absurd closed (by decide)

end RyuLdn.LdnClientTeardown
