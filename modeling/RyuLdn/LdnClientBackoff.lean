import RyuLdn.LdnClientTimer

/-! Runs of `RyuLdnClient` against the clock. Entering `Backoff` and starting its
timer are two statements; a record beside the client says when it was put into
`Backoff`, which delay the `ReconnectManager` has for that failure, and whether the
call that did it also started the timer. -/
namespace RyuLdn.LdnClientBackoff

open ConnectionState LdnClient ProtocolCodec ProtocolTypes TransitionSystem
open TcpClient (ClientResult)
open TcpSocket.Socket (WriteTurn)

def request (c : Client) : SendCall → Request
  | .scan filter => .scan filter
  | .createAccessPoint request advertise => .createAccessPoint request advertise
  | .connect request => .connect request
  | .createAccessPointPrivate request => .createAccessPointPrivate request (.null 0)
  | .connectPrivate request => .connectPrivate request
  | .proxyData header data => .proxyData header data
  | .ping => .ping 1 c.pingId
  | .pingResponse pingId => .ping 0 pingId
  | .disconnectNetwork => .disconnect 0
  | .setAcceptPolicy policy => .setAcceptPolicy policy
  | .setAdvertiseData data => .setAdvertiseData data
  | .reject nodeId reason => .reject nodeId reason
  | .rawPacket data => .raw data

/-- The results that make a `send_*` take the connection for lost. -/
def isLoss : SendCall → ClientResult → Bool
  | .proxyData _ _, result => result = .connectionLost ∨ result = .notConnected
  | _, result => Client.isConnectionLost result

/-- A `send_*` of a ready client that meets a lost connection. -/
def loses (c : Client) (call : SendCall) (turns : List WriteTurn) : Bool :=
  c.machine.isReady && isLoss call ((request c call).send c.tcp turns).1

structure Entry where
  timeMs : UInt64
  delayMs : UInt32
  armed : Bool
  deriving DecidableEq

/-- A call of the client at a time; an `update` is told the time. -/
structure Timed where
  timeMs : UInt64
  action : Action

def Timed.call (call : Timed) : Action :=
  match call.action with
  | .update _ os => .update call.timeMs os
  | other => other

structure Watch where
  client : Client
  nowMs : UInt64
  /-- The `update` or `send_*` that put the client into the `Backoff` it is in. -/
  entry : Option Entry
  entries : List Entry
  /-- The attempts made by `update`, each with the entry before it. -/
  attempts : List (UInt64 × Option Entry)

/-- The delay of the `ReconnectManager` for a failure: that of the start of the timer
in this call, or that of the start that is missing. -/
def delayFor (before after : Client) : UInt32 :=
  Timer.delayAt after.reconnect (if after.backoffCounter = before.backoffCounter then
    after.backoffCounter + 1 else after.backoffCounter)

def entryOf (timeMs : UInt64) (before after : Client) : Entry where
  timeMs := timeMs
  delayMs := delayFor before after
  armed := after.backoffCounter ≠ before.backoffCounter ∧
    after.backoffStartTimeMs = after.lastUpdateTimeMs ∧
    after.currentBackoffDelayMs = delayFor before after

/-- `Backoff` is also entered by an attempt that fails in it. -/
def enters (before after : Client) : Bool :=
  after.state = .backoff ∧ (before.state ≠ .backoff ∨ after.attempts ≠ before.attempts)

def isUpdate : Action → Bool
  | .update _ _ => true
  | _ => false

def isSend : Action → Bool
  | .send _ _ => true
  | _ => false

namespace Watch

def start (client : Client) : Watch := ⟨client, 0, none, [], []⟩

def step (w : Watch) (call : Timed) : Watch :=
  let after := LdnClient.step w.client call.call
  let entry := entryOf call.timeMs w.client after
  { client := after
    nowMs := call.timeMs
    entry :=
      if enters w.client after then
        if isUpdate call.call ∨ isSend call.call then some entry else none
      else if after.state = .backoff then w.entry else none
    entries := if enters w.client after then w.entries ++ [entry] else w.entries
    attempts :=
      if isUpdate call.call ∧ after.attempts ≠ w.client.attempts then
        w.attempts ++ [(call.timeMs, w.entry)]
      else w.attempts }

/-- Every attempt of `update` comes at least the delay after the call that put the
client into `Backoff`, and no entry leaves the timer of an earlier one. -/
structure Respects (w : Watch) : Prop where
  waited : ∀ attempt ∈ w.attempts, ∀ e ∈ attempt.2,
    e.timeMs.toNat + e.delayMs.toNat ≤ attempt.1.toNat
  armed : ∀ e ∈ w.entries, e.armed = true

def Forward (w : Watch) (call : Timed) : Prop := w.nowMs ≤ call.timeMs

/-- The calls after which the timer is started if they end in `Backoff`. -/
def Arms (w : Watch) (call : Timed) : Prop :=
  match call.action with
  | .connect _ | .connectTo _ _ _ => w.client.config.autoReconnect = true
  | .update _ os => w.client.config.autoReconnect = true ∧
      (w.client.state = .ready →
        ((w.client.tick call.timeMs).processPackets os).pingLost call.timeMs os = false)
  | .send send turns => loses w.client send turns = false
  | .disconnect _ | .setConfig _ | .socketLost => True

instance (w : Watch) (call : Timed) : Decidable (w.Forward call) :=
  inferInstanceAs (Decidable (w.nowMs ≤ call.timeMs))

instance (w : Watch) : ∀ call, Decidable (w.Arms call)
  | ⟨_, .connect _⟩ | ⟨_, .connectTo _ _ _⟩ =>
      inferInstanceAs (Decidable (w.client.config.autoReconnect = true))
  | ⟨timeMs, .update _ os⟩ =>
      inferInstanceAs (Decidable (w.client.config.autoReconnect = true ∧ (w.client.state = .ready →
        ((w.client.tick timeMs).processPackets os).pingLost timeMs os = false)))
  | ⟨_, .send send turns⟩ => inferInstanceAs (Decidable (loses w.client send turns = false))
  | ⟨_, .disconnect _⟩ | ⟨_, .setConfig _⟩ | ⟨_, .socketLost⟩ => inferInstanceAs (Decidable True)

end Watch

structure CallFacts (timeMs : UInt64) (a : Action) (before after : Client) : Prop where
  dialled : isUpdate a = true → after.attempts ≠ before.attempts →
    before.state = .backoff ∧ (before.isBackoffExpired timeMs).1 = true
  stays : after.state = .backoff → enters before after = false →
    after.currentBackoffDelayMs = before.currentBackoffDelayMs ∧
      (after.backoffStartTimeMs = before.backoffStartTimeMs ∨
        before.backoffStartTimeMs = 0 ∧ after.backoffStartTimeMs = timeMs)
  entered : enters before after = true → (entryOf timeMs before after).armed = true ∧
    (isUpdate a = true ∨ isSend a = true → after.backoffStartTimeMs = timeMs)
  startTime : after.backoffStartTimeMs = before.backoffStartTimeMs ∨
    after.backoffStartTimeMs = before.lastUpdateTimeMs ∨ after.backoffStartTimeMs = timeMs
  lastUpdate : after.lastUpdateTimeMs = before.lastUpdateTimeMs ∨ after.lastUpdateTimeMs = timeMs

section Facts

variable {timeMs : UInt64} {a : Action} {before after : Client}

theorem not_enters_of_same (state : after.core.state = before.core.state)
    (attempts : after.attempts = before.attempts) : enters before after = false := by
  have same : after.state = before.state := state
  simp only [enters, same, attempts, ne_eq, not_true_eq_false, or_false, decide_eq_false_iff_not,
    not_and, not_not, imp_self]

theorem callFacts_of_same (state : after.core.state = before.core.state)
    (timer : after.timer = before.timer) : CallFacts timeMs a before after := by
  have attempts : after.attempts = before.attempts := congrArg Timer.attempts timer
  have calm := not_enters_of_same state attempts
  exact
    { dialled := fun _ changed => absurd attempts changed
      stays := fun _ _ => ⟨congrArg Timer.delayMs timer, Or.inl (congrArg Timer.startTimeMs timer)⟩
      entered := fun entered => by simp [calm] at entered
      startTime := Or.inl (congrArg Timer.startTimeMs timer)
      lastUpdate := Or.inl (congrArg Timer.lastUpdateMs timer) }

theorem not_enters_of_away (away : after.core.state ≠ .backoff) : enters before after = false := by
  have elsewhere : after.state ≠ .backoff := away
  simp [enters, elsewhere]

theorem armed_of_rearmed (timeMs : UInt64) {v : Timer} (auto : v.auto = true)
    (counter : v.counter = before.backoffCounter)
    (rearmed : Timer.Rearmed v after.timer) :
    (entryOf timeMs before after).armed = true ∧ after.backoffStartTimeMs = v.lastUpdateMs ∧
      after.lastUpdateTimeMs = v.lastUpdateMs := by
  have once : v.armIfAuto = v.arm := if_pos auto
  have twice : v.arm.armIfAuto = v.arm.arm := if_pos auto
  have armed : ∀ count : UInt32, after.backoffCounter = count → count ≠ before.backoffCounter →
      after.backoffStartTimeMs = v.lastUpdateMs → after.lastUpdateTimeMs = v.lastUpdateMs →
      after.currentBackoffDelayMs = Timer.delayAt after.reconnect count →
      (entryOf timeMs before after).armed = true ∧ after.backoffStartTimeMs = v.lastUpdateMs ∧
        after.lastUpdateTimeMs = v.lastUpdateMs := by
    intro count reached moved started updated delay
    refine ⟨?_, started, updated⟩
    simp [entryOf, delayFor, started, updated, delay, reached, moved]
  have next : ∀ n : UInt32, n + 1 ≠ n := by
    intro n same
    have := congrArg UInt32.toNat same
    rw [UInt32.toNat_add] at this
    have small := n.toNat_lt
    simp at this
    omega
  have afterNext : ∀ n : UInt32, n + 1 + 1 ≠ n := by
    intro n same
    have := congrArg UInt32.toNat same
    rw [UInt32.toNat_add, UInt32.toNat_add] at this
    have small := n.toNat_lt
    simp at this
    omega
  rcases rearmed with timer | timer
  · rw [once] at timer
    refine armed _ (congrArg Timer.counter timer) ?_ (congrArg Timer.startTimeMs timer)
      (congrArg Timer.lastUpdateMs timer) ?_
    · rw [← counter]
      exact next v.counter
    · have manager : after.reconnect = v.manager := congrArg Timer.manager timer
      rw [manager]
      exact congrArg Timer.delayMs timer
  · rw [once, twice] at timer
    refine armed _ (congrArg Timer.counter timer) ?_ (congrArg Timer.startTimeMs timer)
      (congrArg Timer.lastUpdateMs timer) ?_
    · rw [← counter]
      exact afterNext v.counter
    · have manager : after.reconnect = v.manager := congrArg Timer.manager timer
      rw [manager]
      exact congrArg Timer.delayMs timer

theorem callFacts_of_away (away : after.core.state ≠ .backoff)
    (dialled : isUpdate a = true → after.attempts ≠ before.attempts →
      before.state = .backoff ∧ (before.isBackoffExpired timeMs).1 = true)
    (startTime : after.backoffStartTimeMs = before.backoffStartTimeMs ∨
      after.backoffStartTimeMs = timeMs)
    (lastUpdate : after.lastUpdateTimeMs = before.lastUpdateTimeMs ∨
      after.lastUpdateTimeMs = timeMs) : CallFacts timeMs a before after where
  dialled := dialled
  stays := fun there => absurd there away
  entered := fun entered => by simp [not_enters_of_away away] at entered
  startTime := startTime.imp_right Or.inr
  lastUpdate := lastUpdate

theorem callFacts_connectTo (auto : before.config.autoReconnect = true)
    (host : Option (List UInt8)) (port : UInt16) (os : Replies) (explicit : isUpdate a = false)
    (silent : isSend a = false) : CallFacts timeMs a before (before.connectTo host port os).2 := by
  rcases before.timer_connectTo host port os with ⟨timer, state⟩ | ⟨idle, result, timer, state⟩
  · exact callFacts_of_same state timer
  · by_cases ok : result = .success
    · rw [if_pos ok] at state
      rw [Client.afterAttempt, if_pos ok] at timer
      apply callFacts_of_away
      · rw [state]
        decide
      · intro update
        simp [explicit] at update
      · exact Or.inl (congrArg Timer.startTimeMs timer)
      · exact Or.inl (congrArg Timer.lastUpdateMs timer)
    · rw [if_neg ok] at state
      rw [Client.afterAttempt, if_neg ok] at timer
      obtain ⟨armed, started, updated⟩ := armed_of_rearmed timeMs
        (v := { before.timer with
          manager := before.timer.manager.recordFailure
          attempts := before.timer.attempts ++ [result] }) auto rfl (Or.inl timer)
      exact
        { dialled := fun update => by simp [explicit] at update
          stays := by
            intro _ calm
            have here : (before.connectTo host port os).2.state = .backoff := state
            have there : before.state = .disconnected := idle
            simp [enters, here, there] at calm
          entered := fun _ => ⟨armed, by simp [explicit, silent]⟩
          startTime := Or.inr (Or.inl started)
          lastUpdate := Or.inl updated }

theorem callFacts_disconnect (turns : List WriteTurn) (explicit : isUpdate a = false) :
    CallFacts timeMs a before (before.disconnect turns) := by
  have timer := before.timer_disconnect turns
  have state := congrArg Core.state (before.core_disconnect turns)
  apply callFacts_of_away
  · rw [state]
    simp
  · intro update
    simp [explicit] at update
  · exact Or.inl (congrArg Timer.startTimeMs timer)
  · exact Or.inl (congrArg Timer.lastUpdateMs timer)

theorem state_sendWhenReady {c : Client} {lost : ClientResult → Bool} {sent : Request}
    {turns : List WriteTurn}
    (kept : (c.machine.isReady && lost (sent.send c.tcp turns).1) = false) :
    (c.sendWhenReady lost sent turns).2.core.state = c.core.state := by
  unfold Client.sendWhenReady
  by_cases ready : c.machine.isReady = true
  · have alive : lost (c.callTcp sent turns).1 = false := by
      rw [ready, Bool.true_and] at kept
      exact kept
    have same : (c.callTcp sent turns).2.core.state = c.core.state := rfl
    generalize c.callTcp sent turns = called at alive same
    obtain ⟨result, d⟩ := called
    simp only [ready, Bool.not_true, Bool.false_eq_true, if_false]
    dsimp only at alive
    cases result
    case success => exact same
    all_goals
      dsimp only
      rw [alive]
      exact same
  · simp [ready]

theorem state_sendCall {c : Client} {call : SendCall} {turns : List WriteTurn}
    (kept : loses c call turns = false) : (call.run c turns).2.core.state = c.core.state := by
  cases call
  case ping =>
    simp only [SendCall.run, Client.sendPing]
    split
    · rfl
    · exact state_sendWhenReady (c := { c with pingId := c.pingId + 1 }) kept
  all_goals exact state_sendWhenReady kept

theorem callFacts_update_away (away : before.core.state ≠ .backoff)
    (auto : before.config.autoReconnect = true) (os : Replies)
    (kept : before.state = .ready →
      ((before.tick timeMs).processPackets os).pingLost timeMs os = false) :
    CallFacts timeMs (.update timeMs os) before (before.update timeMs os) := by
  have same := Client.sameManager_update away timeMs os
  have attempts : (before.update timeMs os).attempts = before.attempts := same.attempts
  have updated : (before.update timeMs os).lastUpdateTimeMs = timeMs := same.lastUpdate
  rcases Client.settles_update away kept with ⟨timer, elsewhere⟩ | rearmed
  · apply callFacts_of_away elsewhere
    · exact fun _ changed => absurd attempts changed
    · exact Or.inl (congrArg Timer.startTimeMs timer)
    · exact Or.inr updated
  · obtain ⟨armed, started, _⟩ := armed_of_rearmed timeMs
      (v := (before.tick timeMs).timer) auto rfl rearmed
    exact
      { dialled := fun _ changed => absurd attempts changed
        stays := by
          intro here calm
          have there : before.state ≠ .backoff := away
          simp [enters, here, there] at calm
        entered := fun _ => ⟨armed, fun _ => started⟩
        startTime := Or.inr (Or.inr started)
        lastUpdate := Or.inr updated }

theorem state_update_backoff (here : before.core.state = .backoff) (currentTimeMs : UInt64)
    (os : Replies) :
    (before.update currentTimeMs os).core.state =
      if (before.isBackoffExpired currentTimeMs).1 then
        if ((before.tick currentTimeMs).dial os).1 = .success then .connected else .backoff
      else .backoff := by
  have core := congrArg Core.state
    (Client.core_updateBackoff (c := before.tick currentTimeMs) currentTimeMs os here)
  rw [Client.isBackoffExpired_tick] at core
  rw [Client.update_of_backoff here, core]
  split
  · rfl
  · exact here

theorem callFacts_update_expired (here : before.core.state = .backoff)
    (auto : before.config.autoReconnect = true)
    (expired : (before.isBackoffExpired timeMs).1 = true) (os : Replies) :
    CallFacts timeMs (.update timeMs os) before (before.update timeMs os) := by
  have timer := Client.timer_update_expired here expired os
  have state := state_update_backoff here timeMs os
  rw [if_pos expired] at state
  have dialled : before.state = .backoff ∧ (before.isBackoffExpired timeMs).1 = true :=
    ⟨here, expired⟩
  have longer : (before.update timeMs os).attempts =
      before.attempts ++ [((before.tick timeMs).dial os).1] :=
    (congrArg Timer.attempts timer).trans (Client.attempts_afterAttempt _ _)
  by_cases ok : ((before.tick timeMs).dial os).1 = .success
  · rw [Client.afterAttempt, if_pos ok] at timer
    apply callFacts_of_away
    · rw [state, if_pos ok]
      simp
    · exact fun _ _ => dialled
    · exact Or.inl (congrArg Timer.startTimeMs timer)
    · exact Or.inr (congrArg Timer.lastUpdateMs timer)
  · rw [Client.afterAttempt, if_neg ok] at timer
    obtain ⟨armed, started, updated⟩ := armed_of_rearmed timeMs
      (v := { (before.tick timeMs).timer with
        manager := (before.tick timeMs).timer.manager.recordFailure
        attempts := (before.tick timeMs).timer.attempts ++ [((before.tick timeMs).dial os).1] })
      auto rfl (Or.inl timer)
    have changed : (before.update timeMs os).attempts ≠ before.attempts := by
      rw [longer]
      simp
    exact
      { dialled := fun _ _ => dialled
        stays := by
          intro there calm
          simp [enters, there, changed] at calm
        entered := fun _ => ⟨armed, fun _ => started⟩
        startTime := Or.inr (Or.inr started)
        lastUpdate := Or.inr updated }

theorem callFacts_update_waits (here : before.core.state = .backoff)
    (waits : (before.isBackoffExpired timeMs).1 = false) (os : Replies) :
    CallFacts timeMs (.update timeMs os) before (before.update timeMs os) := by
  have timer := Client.timer_update_waits here waits os
  have state := state_update_backoff here timeMs os
  rw [if_neg (by simp [waits])] at state
  have same := Client.sameManager_update_waits here waits os
  have attempts : (before.update timeMs os).attempts = before.attempts := same.attempts
  have calm := not_enters_of_same (state.trans here.symm) attempts
  have delay : (before.update timeMs os).timer.delayMs = before.timer.delayMs := by
    rw [timer]
    split <;> rfl
  have started : (before.update timeMs os).timer.startTimeMs = before.timer.startTimeMs ∨
      before.timer.startTimeMs = 0 ∧ (before.update timeMs os).timer.startTimeMs = timeMs := by
    rw [timer]
    split
    · rename_i unset
      exact Or.inr ⟨unset, rfl⟩
    · exact Or.inl rfl
  exact
    { dialled := fun _ changed => absurd attempts changed
      stays := fun _ _ => ⟨delay, started⟩
      entered := fun entered => absurd (calm.symm.trans entered) (by decide)
      startTime := started.imp_right (fun set => Or.inr set.2)
      lastUpdate := Or.inr same.lastUpdate }

theorem callFacts_update_backoff (here : before.core.state = .backoff)
    (auto : before.config.autoReconnect = true) (os : Replies) :
    CallFacts timeMs (.update timeMs os) before (before.update timeMs os) := by
  cases expired : (before.isBackoffExpired timeMs).1 with
  | true => exact callFacts_update_expired here auto expired os
  | false => exact callFacts_update_waits here expired os

end Facts

theorem Watch.Arms.callFacts {w : Watch} {call : Timed} (arms : w.Arms call) :
    CallFacts call.timeMs call.call w.client (LdnClient.step w.client call.call) := by
  obtain ⟨timeMs, action⟩ := call
  cases action with
  | connect os => exact callFacts_connectTo arms _ _ os rfl rfl
  | connectTo host port os => exact callFacts_connectTo arms host port os rfl rfl
  | disconnect turns => exact callFacts_disconnect turns rfl
  | update otherMs os =>
      by_cases here : w.client.core.state = .backoff
      · exact callFacts_update_backoff here arms.1 os
      · exact callFacts_update_away here arms.1 os arms.2
  | send send turns =>
      exact callFacts_of_same (state_sendCall arms) (w.client.timer_sendCall send turns)
  | setConfig config =>
      have calm : enters w.client (w.client.setConfig config) = false := not_enters_of_same rfl rfl
      exact
        { dialled := fun _ changed => absurd rfl changed
          stays := fun _ _ => ⟨rfl, Or.inl rfl⟩
          entered := fun entered => absurd (calm.symm.trans entered) (by decide)
          startTime := Or.inl rfl
          lastUpdate := Or.inl rfl }
  | socketLost => exact callFacts_of_same rfl rfl

namespace Watch

/-- The timer of a client in `Backoff` runs for the entry on record. -/
structure Inv (w : Watch) : Prop where
  respects : w.Respects
  pending : ∀ e ∈ w.entry, w.client.state = .backoff ∧
    w.client.currentBackoffDelayMs = e.delayMs ∧ e.timeMs ≤ w.client.backoffStartTimeMs
  startTime : w.client.backoffStartTimeMs ≤ w.nowMs
  lastUpdate : w.client.lastUpdateTimeMs ≤ w.nowMs

theorem inv_start (client : Client) (started : client.backoffStartTimeMs = 0)
    (updated : client.lastUpdateTimeMs = 0) : Inv (start client) where
  respects := ⟨by simp [start], by simp [start]⟩
  pending := by simp [start]
  startTime := by simp [start, started]
  lastUpdate := by simp [start, updated]

theorem Inv.waited {w : Watch} (inv : Inv w) {timeMs : UInt64} (forward : w.nowMs ≤ timeMs)
    (expired : (w.client.isBackoffExpired timeMs).1 = true) :
    ∀ e ∈ w.entry, e.timeMs.toNat + e.delayMs.toNat ≤ timeMs.toNat := by
  intro e entry
  obtain ⟨_, delay, started⟩ := inv.pending e entry
  have late : w.client.backoffStartTimeMs ≤ timeMs := UInt64.le_trans inv.startTime forward
  unfold Client.isBackoffExpired at expired
  split at expired
  · simp at expired
  · simp only [ge_iff_le, decide_eq_true_eq] at expired
    rw [UInt64.le_iff_toNat_le] at expired late started
    rw [UInt64.toNat_sub_of_le _ _ (UInt64.le_iff_toNat_le.mpr late), delay] at expired
    simp only [UInt32.toNat_toUInt64] at expired
    omega

theorem Inv.step {w : Watch} (inv : Inv w) {call : Timed} (forward : w.Forward call)
    (arms : w.Arms call) : Inv (w.step call) := by
  have facts := arms.callFacts
  have later : w.nowMs ≤ call.timeMs := forward
  refine ⟨⟨?_, ?_⟩, ?_, ?_, ?_⟩
  · intro attempt member
    simp only [Watch.step] at member
    split at member
    · rename_i dialled
      rcases List.mem_append.mp member with old | new
      · exact inv.respects.waited attempt old
      · rw [List.mem_singleton.mp new]
        exact inv.waited later (facts.dialled dialled.1 dialled.2).2
    · exact inv.respects.waited attempt member
  · intro e member
    simp only [Watch.step] at member
    split at member
    · rename_i entered
      rcases List.mem_append.mp member with old | new
      · exact inv.respects.armed e old
      · rw [List.mem_singleton.mp new]
        exact (facts.entered entered).1
    · exact inv.respects.armed e member
  · intro e member
    simp only [Watch.step] at member ⊢
    split at member
    · rename_i entered
      split at member
      · rename_i automatic
        cases member
        obtain ⟨armed, started⟩ := facts.entered entered
        simp only [enters, decide_eq_true_eq] at entered
        simp only [entryOf, decide_eq_true_eq] at armed
        refine ⟨entered.1, armed.2.2, ?_⟩
        rw [started automatic]
        exact UInt64.le_refl _
      · cases member
    · rename_i calm
      split at member
      · rename_i here
        obtain ⟨_, delay, started⟩ := inv.pending e member
        obtain ⟨kept, start⟩ := facts.stays here (by simpa using calm)
        refine ⟨here, kept.trans delay, ?_⟩
        rcases start with same | ⟨unset, set⟩
        · rw [same]
          exact started
        · rw [set]
          rw [unset] at started
          exact UInt64.le_trans started UInt64.zero_le
      · cases member
  · change (LdnClient.step w.client call.call).backoffStartTimeMs ≤ call.timeMs
    rcases facts.startTime with same | same | same
    · rw [same]
      exact UInt64.le_trans inv.startTime later
    · rw [same]
      exact UInt64.le_trans inv.lastUpdate later
    · rw [same]
      exact UInt64.le_refl _
  · change (LdnClient.step w.client call.call).lastUpdateTimeMs ≤ call.timeMs
    rcases facts.lastUpdate with same | same
    · rw [same]
      exact UInt64.le_trans inv.lastUpdate later
    · rw [same]
      exact UInt64.le_refl _

/-- In every run with time running forward in which the calls that can end in
`Backoff` start its timer, the backoff is respected in every state. -/
theorem backoff_respected (config : Config) (stateCallback packetCallback : Bool)
    (sessionId : Octets 16) (calls : List Timed)
    (meets : StepsMeet step (fun w call => w.Forward call ∧ w.Arms call)
      (start (Client.new config stateCallback packetCallback sessionId)) calls) :
    ∀ w ∈ visited step (start (Client.new config stateCallback packetCallback sessionId)) calls,
      w.Respects := by
  have keep : ∀ (w : Watch) (call : Timed), Inv w → w.Forward call ∧ w.Arms call →
      Inv (w.step call) := fun w call inv met => inv.step met.1 met.2
  have initial : Inv (start (Client.new config stateCallback packetCallback sessionId)) :=
    inv_start _ rfl rfl
  intro w member
  exact (visited_of_stepsMeet keep initial meets w member).respects

/-- A connection that becomes ready and is lost in a receive of `update`. -/
def lostInUpdate : List Timed :=
  [⟨1, .connect .quiet⟩, ⟨10, .update 10 .quiet⟩,
    ⟨20, .update 20 { Replies.quiet with
      reads := [(.ready false, .data (encodeHeader .syncNetwork 0))] }⟩,
    ⟨1000, .update 1000 { Replies.quiet with reads := [(.ready false, .data [])] }⟩,
    ⟨1001, .update 1001 .quiet⟩, ⟨1300, .update 1300 .quiet⟩]

theorem backoff_respected_lostInUpdate :
    (∀ w ∈ visited step (start (Client.new Config.default true true default)) lostInUpdate,
      w.Respects) ∧
    ∃ w ∈ visited step (start (Client.new Config.default true true default)) lostInUpdate,
      w.attempts.map (fun attempt => (attempt.1, attempt.2.map (·.timeMs))) =
        [(1300, some 1000)] := by
  constructor
  · apply backoff_respected
    decide +kernel
  · refine ⟨_, foldl_mem_visited _ lostInUpdate, ?_⟩
    decide +kernel

def lostInSend : List Timed :=
  [⟨1, .connect .quiet⟩, ⟨10, .update 10 .quiet⟩,
    ⟨20, .update 20 { Replies.quiet with
      reads := [(.ready false, .data (encodeHeader .syncNetwork 0))] }⟩,
    ⟨1000, .send .disconnectNetwork [(.failed .econnreset, .timedOut)]⟩,
    ⟨1001, .update 1001 .quiet⟩, ⟨1002, .update 1002 .quiet⟩]

/-- The attempt comes 2 ms after the send instead of 198, and the timer was not
started for this entry. -/
theorem lostInSend_not_respected :
    ∃ w ∈ visited step (start (Client.new Config.default true true default)) lostInSend,
      w.attempts = [(1002, some ⟨1000, 198, false⟩)] ∧ w.entries = [⟨1000, 198, false⟩] ∧
        ¬ w.Respects := by
  have attempts : (lostInSend.foldl step (start (Client.new Config.default true true
      default))).attempts = [(1002, some ⟨1000, 198, false⟩)] := by
    decide +kernel
  have entries : (lostInSend.foldl step (start (Client.new Config.default true true
      default))).entries = [⟨1000, 198, false⟩] := by
    decide +kernel
  refine ⟨_, foldl_mem_visited _ lostInSend, attempts, entries, ?_⟩
  intro respects
  have waited := respects.waited (1002, some ⟨1000, 198, false⟩) (by rw [attempts]; simp) _ rfl
  revert waited
  decide

end Watch

end RyuLdn.LdnClientBackoff
