import RyuLdn.LdnClientRuns

/-! What the state callback is told. The pairs it has received should lead from
`Disconnected` to the state of the client, each from where the last one ended. A
client that is not told to connect stays `Disconnected` and reports nothing; the
first `connect` reports the end of its connection attempt before its beginning,
and a `disconnect` in `Disconnected` reports no change as one. -/
namespace RyuLdn.LdnClientTrace

open ConnectionState LdnClient ProtocolTypes TransitionSystem
open TcpSocket.Socket (WriteTurn)

def reported (c : Client) : List (State × State) :=
  c.log.filterMap fun
    | .stateChanged old new => some (old, new)
    | _ => none

/-- Reports that lead from one state to another: each starts where the one before
it ended, and none reports a state that stays the same. -/
def Leads : State → List (State × State) → State → Prop
  | start, [], finish => start = finish
  | start, (old, new) :: rest, finish => old = start ∧ old ≠ new ∧ Leads new rest finish

instance : ∀ start reports finish, Decidable (Leads start reports finish)
  | start, [], finish => inferInstanceAs (Decidable (start = finish))
  | start, (old, new) :: rest, finish =>
      have := instDecidableLeads new rest finish
      inferInstanceAs (Decidable (old = start ∧ old ≠ new ∧ Leads new rest finish))

/-- The callback knows the state of the client, and how it came there. -/
def Faithful (c : Client) : Prop := Leads .disconnected (reported c) c.state

def isRequest : Action → Bool
  | .connect _ | .connectTo _ _ _ | .disconnect _ => true
  | .update _ _ | .send _ _ | .setConfig _ | .socketLost => false

structure Untouched (c : Client) : Prop where
  state : c.state = .disconnected
  callback : c.stateCallback = true
  silent : reported c = []

theorem untouched_new (config : Config) (packetCallback : Bool) (sessionId : Octets 16) :
    Untouched (Client.new config true packetCallback sessionId) := ⟨rfl, rfl, rfl⟩

theorem Untouched.not_ready {c : Client} (untouched : Untouched c) : c.machine.isReady = false := by
  have here : c.machine.state = .disconnected := untouched.state
  simp [Machine.isReady, here]

theorem Untouched.step {c : Client} (untouched : Untouched c) {a : Action}
    (other : isRequest a = false) : Untouched (step c a) := by
  have kept : ∀ {d : Client}, d.state = c.state → d.stateCallback = c.stateCallback →
      d.log = c.log → Untouched d := by
    intro d state callback log
    refine ⟨state.trans untouched.state, callback.trans untouched.callback, ?_⟩
    rw [reported, log]
    exact untouched.silent
  cases a with
  | connect os => cases other
  | connectTo host port os => cases other
  | disconnect turns => cases other
  | update currentTimeMs os =>
      rw [LdnClient.step, Client.update_of_disconnected untouched.state]
      exact kept rfl rfl rfl
  | send call turns =>
      rw [LdnClient.step, Client.sendCall_notReady untouched.not_ready]
      exact untouched
  | setConfig config => exact kept rfl rfl rfl
  | socketLost => exact kept rfl rfl rfl

theorem reported_notifyState {c : Client} (callback : c.stateCallback = true) (old new : State) :
    reported (c.notifyState old new) = reported c ++ [(old, new)] := by
  simp [Client.notifyState, callback, Client.note, reported]

structure SameReports (c d : Client) : Prop where
  callback : d.stateCallback = c.stateCallback
  reports : reported d = reported c

theorem sameReports_startBackoffIfAuto (c : Client) : SameReports c c.startBackoffIfAuto := by
  unfold Client.startBackoffIfAuto
  split <;> exact ⟨rfl, rfl⟩

theorem SameReports.notifyState {c d : Client} (same : SameReports c d)
    (callback : c.stateCallback = true) (old new : State) :
    reported (d.notifyState old new) = reported c ++ [(old, new)] ∧
      (d.notifyState old new).stateCallback = true := by
  have installed : d.stateCallback = true := same.callback.trans callback
  constructor
  · rw [reported_notifyState installed, same.reports]
  · simp [Client.notifyState, installed, Client.note]

theorem reported_tryConnect {c : Client} (callback : c.stateCallback = true) (os : Replies) :
    ∃ new, reported (c.tryConnect os) = reported c ++ [(c.state, new)] ∧
      (c.tryConnect os).stateCallback = true := by
  unfold Client.tryConnect
  generalize c.tcp.connect c.config.host c.config.useTls os.connect os.threadStarted = dialled
  obtain ⟨result, tcp⟩ := dialled
  dsimp only
  generalize noted : (c.setTcp tcp).note (.tcpConnect c.config.host c.config.port
    c.config.connectTimeoutMs result) = d
  have here : d.state = c.state := by
    rw [← noted]
    rfl
  have same : SameReports c d := by
    rw [← noted]
    exact ⟨rfl, by simp [reported, Client.note, Client.setTcp]⟩
  rw [here]
  split
  · have after : SameReports c ((d.processEvent .connectSuccess).setReconnect d.reconnect.reset) :=
      ⟨same.callback, same.reports⟩
    exact ⟨_, after.notifyState callback _ _⟩
  · have failed : SameReports c
        ((d.processEvent .connectFailed).setReconnect d.reconnect.recordFailure) :=
      ⟨same.callback, same.reports⟩
    have armed := sameReports_startBackoffIfAuto
      ((d.processEvent .connectFailed).setReconnect d.reconnect.recordFailure)
    have after : SameReports c ((d.processEvent .connectFailed).setReconnect
        d.reconnect.recordFailure).startBackoffIfAuto :=
      ⟨armed.callback.trans failed.callback, armed.reports.trans failed.reports⟩
    exact ⟨_, after.notifyState callback _ _⟩

theorem Untouched.reported_connectTo {c : Client} (untouched : Untouched c)
    (host : Option (List UInt8)) (port : UInt16) (os : Replies) :
    ∃ new rest, reported (c.connectTo host port os).2 = (.connecting, new) :: rest := by
  have here : c.machine.state = .disconnected := untouched.state
  have accepted : ¬ ((c.machine.isConnected ∨ c.machine.isTransitioning) ∧ c.state ≠ .backoff) := by
    simp [Machine.isConnected, Machine.isTransitioning, here]
  have initialized : ∃ d, (c.setEndpoint host port).ensureInitialized = (true, d) ∧
      SameReports c d ∧ d.machine = c.machine := by
    unfold Client.ensureInitialized
    split
    · exact ⟨_, rfl, ⟨rfl, rfl⟩, rfl⟩
    · exact ⟨_, rfl, ⟨rfl, rfl⟩, rfl⟩
  obtain ⟨d, opened, same, machine⟩ := initialized
  have moved : (((d.setHandshakeSent false).machine.processEvent .connect).1 = .success) ∧
      ((d.setHandshakeSent false).processEvent .connect).state = .connecting := by
    have state : (d.setHandshakeSent false).machine.state = .disconnected :=
      (congrArg Machine.state machine).trans here
    constructor
    · rw [Machine.processEvent_success, state]
      rfl
    · rw [Client.state, Client.processEvent, Machine.processEvent_state, state]
      rfl
  have dialling : SameReports c ((d.setHandshakeSent false).processEvent .connect) :=
    ⟨same.callback, same.reports⟩
  obtain ⟨new, told, installed⟩ := reported_tryConnect
    (dialling.callback.trans untouched.callback) os
  rw [moved.2, dialling.reports, untouched.silent, List.nil_append] at told
  simp only [Client.connectTo, if_neg accepted, opened, if_pos moved.1]
  rw [reported_notifyState installed, told]
  exact ⟨new, _, rfl⟩

theorem Untouched.reported_disconnect {c : Client} (untouched : Untouched c)
    (turns : List WriteTurn) :
    reported (c.disconnect turns) = [(.disconnected, .disconnected)] := by
  have here : (c.setTcp c.tcp.disconnect).state = .disconnected := untouched.state
  have left : (c.setTcp c.tcp.disconnect).leave = c.setTcp c.tcp.disconnect := by
    have stays : (c.setTcp c.tcp.disconnect).processEvent .disconnect = c.setTcp c.tcp.disconnect := by
      have machine : c.machine.state = .disconnected := untouched.state
      simp [Client.processEvent, Machine.processEvent, machine, Client.setTcp]
    rw [Client.leave, stays, here]
    rfl
  simp only [Client.disconnect, untouched.not_ready, Bool.false_eq_true, if_false, left]
  have same : SameReports c (((c.setTcp c.tcp.disconnect).setReconnect
      (c.setTcp c.tcp.disconnect).reconnect.reset).setHandshakeSent false) := ⟨rfl, rfl⟩
  rw [(same.notifyState untouched.callback _ _).1, untouched.silent]
  have after : (((c.setTcp c.tcp.disconnect).setReconnect
      (c.setTcp c.tcp.disconnect).reconnect.reset).setHandshakeSent false).state = .disconnected :=
    untouched.state
  rw [here, after]
  rfl

theorem Untouched.faithful {c : Client} (untouched : Untouched c) : Faithful c := by
  rw [Faithful, untouched.silent, untouched.state]
  rfl

theorem Untouched.not_faithful {c : Client} (untouched : Untouched c) {a : Action}
    (request : isRequest a = true) : ¬ Faithful (LdnClient.step c a) := by
  have connecting : ∀ host port os, ¬ Faithful (c.connectTo host port os).2 := by
    intro host port os faithful
    obtain ⟨new, rest, told⟩ := untouched.reported_connectTo host port os
    rw [Faithful, told] at faithful
    exact absurd faithful.1 (by decide)
  cases a with
  | connect os => exact connecting _ _ os
  | connectTo host port os => exact connecting host port os
  | disconnect turns =>
      intro faithful
      rw [LdnClient.step, Faithful, untouched.reported_disconnect turns] at faithful
      exact faithful.2.1 rfl
  | update currentTimeMs os => cases request
  | send call turns => cases request
  | setConfig config => cases request
  | socketLost => cases request

theorem Untouched.visited_faithful_iff {c : Client} (untouched : Untouched c)
    (actions : List Action) :
    (∀ d ∈ visited LdnClient.step c actions, Faithful d) ↔ ∀ a ∈ actions, isRequest a = false := by
  induction actions generalizing c with
  | nil => simp [visited, untouched.faithful]
  | cons a actions ih =>
      rw [visited, List.forall_mem_cons, List.forall_mem_cons]
      cases request : isRequest a with
      | false =>
          rw [ih (untouched.step request)]
          simp [untouched.faithful]
      | true =>
          have seen : LdnClient.step c a ∈ visited LdnClient.step (LdnClient.step c a) actions := by
            cases actions <;> simp [visited]
          have broken := untouched.not_faithful request
          constructor
          · intro faithful
            exact absurd (faithful.2 _ seen) broken
          · intro none
            exact absurd none.1 (by simp)

/-- The reports of a run are faithful exactly as long as the client is told neither
to connect nor to disconnect. -/
theorem reports_faithful_iff_no_request (config : Config) (packetCallback : Bool)
    (sessionId : Octets 16) (actions : List Action) :
    (∀ c ∈ visited LdnClient.step (Client.new config true packetCallback sessionId) actions,
      Faithful c) ↔ ∀ a ∈ actions, isRequest a = false :=
  (untouched_new config packetCallback sessionId).visited_faithful_iff actions

/-- One `connect` that succeeds: `Connected` is reported twice, first from
`Connecting` and then from `Disconnected`. -/
theorem connect_reports_unfaithful :
    let c := LdnClient.step (Client.new Config.default true true default) (.connect Replies.quiet)
    c ∈ visited LdnClient.step (Client.new Config.default true true default)
        [.connect Replies.quiet] ∧
      reported c = [(.connecting, .connected), (.disconnected, .connected)] ∧ ¬ Faithful c := by
  refine ⟨by simp [visited], by decide, ?_⟩
  have broken := (untouched_new Config.default true default).not_faithful
    (show isRequest (.connect Replies.quiet) = true from rfl)
  exact broken

end RyuLdn.LdnClientTrace
