import RyuLdn.LdnClientRuns

/-! What a refused `connect` leaves behind. The configuration and the handshake flag are
written before the state machine is asked, so only the refusal in front of them is one
without an effect. -/
namespace RyuLdn.LdnClientConnect

open ConnectionState LdnClient TransitionSystem

structure Unaffected (c d : Client) : Prop where
  host : d.config.host = c.config.host
  port : d.config.port = c.config.port
  state : d.state = c.state
  handshakeSent : d.handshakeSent = c.handshakeSent
  backoffStartTimeMs : d.backoffStartTimeMs = c.backoffStartTimeMs
  currentBackoffDelayMs : d.currentBackoffDelayMs = c.currentBackoffDelayMs

/-- The states that come past the first refusal, and have no `Connect` in the table. -/
def Refuses (state : State) : Prop := state = .backoff ∨ state = .error

variable {c : Client} {host : Option (List UInt8)} {port : UInt16} {os : Replies}

theorem connectTo_alreadyConnected (busy : c.state ≠ .disconnected) (accepts : ¬ Refuses c.state) :
    c.connectTo host port os = (.alreadyConnected, c) := by
  have refused : (c.machine.isConnected ∨ c.machine.isTransitioning) ∧ c.state ≠ .backoff := by
    unfold Refuses at accepts
    unfold Client.state at busy accepts ⊢
    unfold Machine.isConnected Machine.isTransitioning
    cases state : c.machine.state <;> simp_all
  unfold Client.connectTo
  rw [if_pos refused]

def prepared (c : Client) (host : Option (List UInt8)) (port : UInt16) : Client :=
  (c.setEndpoint host port).ensureInitialized.2.setHandshakeSent false

theorem prepared_fields (c : Client) (host : Option (List UInt8)) (port : UInt16) :
    (prepared c host port).machine = c.machine ∧
      (prepared c host port).config = (c.setEndpoint host port).config ∧
      (prepared c host port).handshakeSent = false ∧
      (prepared c host port).backoffStartTimeMs = c.backoffStartTimeMs ∧
      (prepared c host port).currentBackoffDelayMs = c.currentBackoffDelayMs := by
  unfold prepared Client.ensureInitialized
  split <;> exact ⟨rfl, rfl, rfl, rfl, rfl⟩

theorem connectTo_prepared (admitted : c.state = .disconnected ∨ Refuses c.state) :
    c.connectTo host port os =
      if ((prepared c host port).machine.processEvent .connect).1 = .success then
        (.success, (((prepared c host port).processEvent .connect).tryConnect os).notifyState
          .disconnected (((prepared c host port).processEvent .connect).tryConnect os).state)
      else (.invalidState, (prepared c host port).processEvent .connect) := by
  have passes : ¬ ((c.machine.isConnected ∨ c.machine.isTransitioning) ∧ c.state ≠ .backoff) := by
    unfold Refuses Client.state at admitted
    unfold Client.state Machine.isConnected Machine.isTransitioning
    rcases admitted with idle | waits | failed <;> simp [*]
  obtain ⟨d, initialized, _⟩ := (c.setEndpoint host port).ensureInitialized_eq
  have same : d = (c.setEndpoint host port).ensureInitialized.2 := by rw [initialized]
  unfold Client.connectTo
  rw [if_neg passes, initialized]
  dsimp only
  rw [same]
  rfl

theorem connectTo_refused (refuses : Refuses c.state) :
    c.connectTo host port os = (.invalidState, prepared c host port) := by
  have machine := (prepared_fields c host port).1
  have invalid : c.machine.processEvent .connect = (.invalidTransition, c.machine) := by
    unfold Refuses Client.state at refuses
    unfold Machine.processEvent
    rcases refuses with waits | failed <;> simp [*, isValidTransition]
  rw [connectTo_prepared (Or.inr refuses), machine, invalid]
  have unmoved : (prepared c host port).processEvent .connect = prepared c host port := by
    unfold Client.processEvent
    rw [machine, invalid, ← machine]
  rw [if_neg (by simp), unmoved]

theorem connectTo_accepted (idle : c.state = .disconnected) :
    (c.connectTo host port os).1 = .success := by
  have machine := (prepared_fields c host port).1
  have valid : (c.machine.processEvent .connect).1 = .success := by
    rw [Machine.processEvent_success, show c.machine.state = .disconnected from idle]
    rfl
  rw [connectTo_prepared (Or.inl idle), machine, if_pos valid]

/-- A refused `connect` has no effect exactly when the client is neither in `Backoff` nor
in `Error`, or its configuration is the one asked for and no handshake has been sent. -/
theorem refused_connect_unaffected_iff (c : Client) (host : Option (List UInt8)) (port : UInt16)
    (os : Replies) :
    ((c.connectTo host port os).1 ≠ .success → Unaffected c (c.connectTo host port os).2) ↔
      (Refuses c.state → (∀ name, host = some name → name.take maxHostLength = c.config.host) ∧
        port = c.config.port ∧ c.handshakeSent = false) := by
  by_cases refuses : Refuses c.state
  · rw [connectTo_refused refuses]
    obtain ⟨machine, config, sent, started, delay⟩ := prepared_fields c host port
    have kept : (c.setEndpoint host port).config.host = c.config.host ↔
        ∀ name, host = some name → name.take maxHostLength = c.config.host := by
      unfold Client.setEndpoint
      cases host <;> simp
    constructor
    · intro unaffected _
      have left := unaffected (by simp)
      refine ⟨?_, ?_, ?_⟩
      · rw [← kept, ← config]
        exact left.host
      · have stored := left.port
        rw [config] at stored
        exact stored
      · rw [← left.handshakeSent]
        exact sent
    · intro asked _
      obtain ⟨sameHost, samePort, unsent⟩ := asked refuses
      refine ⟨?_, ?_, ?_, sent.trans unsent.symm, started, delay⟩
      · rw [config]
        exact kept.mpr sameHost
      · rw [config]
        exact samePort
      · exact congrArg Machine.state machine
  · have always : Refuses c.state →
        (∀ name, host = some name → name.take maxHostLength = c.config.host) ∧
          port = c.config.port ∧ c.handshakeSent = false := fun yes => absurd yes refuses
    rw [iff_true_right always]
    intro refused
    by_cases idle : c.state = .disconnected
    · exact absurd (connectTo_accepted idle) refused
    · rw [connectTo_alreadyConnected idle refuses]
      exact ⟨rfl, rfl, rfl, rfl, rfl, rfl⟩

/-- The server cannot be reached: the client waits in `Backoff`. -/
def unreachable : List Action := [.connect { Replies.quiet with connect := .timedOut }]

/-- The waiting client refuses port 1, and retries there all the same. -/
theorem refused_port_stored :
    ¬ ∀ c ∈ visited step (Client.new Config.default true true default) unreachable,
      ∀ host port os, (c.connectTo host port os).1 ≠ .success →
        Unaffected c (c.connectTo host port os).2 := by
  intro all
  have waiting := all _
    (foldl_mem_visited (Client.new Config.default true true default) unreachable) none 1 .quiet
  have before : (unreachable.foldl step (Client.new Config.default true true default)).config.port =
      30456 := by decide +kernel
  have answer : ((unreachable.foldl step (Client.new Config.default true true default)).connectTo
      none 1 .quiet).1 = .invalidState := by decide +kernel
  have after : ((unreachable.foldl step (Client.new Config.default true true default)).connectTo
      none 1 .quiet).2.config.port = 1 := by decide +kernel
  generalize unreachable.foldl step (Client.new Config.default true true default) = c
    at waiting before answer after
  have same := (waiting (by rw [answer]; decide)).port
  rw [before, after] at same
  exact absurd same (by decide)

end RyuLdn.LdnClientConnect
