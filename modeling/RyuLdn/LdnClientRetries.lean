import RyuLdn.ConfigFile
import RyuLdn.LdnClientTimer

/-! Automatic connection attempts of `RyuLdnClient`. `update` asks neither
`auto_reconnect` nor `should_retry` before it dials: it dials whenever it finds an
expired timer in `Backoff`. -/
namespace RyuLdn.LdnClient

open ConnectionState ProtocolTypes Reconnect TransitionSystem
open TcpClient (ClientResult)

def Config.ofApplication (cfg : ConfigFile.Config) : Config where
  host := cfg.server.host.bytes
  port := cfg.server.port
  connectTimeoutMs := cfg.network.connectTimeoutMs
  recvTimeoutMs := 20
  pingIntervalMs := 0
  reconnect := { ReconnectConfig.default with
    initialDelayMs := cfg.network.reconnectDelayMs
    maxDelayMs := cfg.network.reconnectDelayMs * 10
    multiplierPercent := 200
    jitterPercent := 10
    maxRetries := cfg.network.maxReconnectAttempts.toUInt16 }
  autoReconnect := cfg.network.maxReconnectAttempts != 0
  passphrase := cfg.ldn.passphrase.bytes
  useTls := cfg.server.useTls

structure Retries where
  client : Client
  count : Nat
  made : List Nat

namespace Retries

def start (client : Client) : Retries := ⟨client, 0, []⟩

def record (r : Retries) (result : ClientResult) : Retries :=
  { r with
    count := if result = .success then 0 else r.count + 1
    made := r.made ++ [r.count + 1] }

/-- The attempts of `connect` and `disconnect` are not automatic, and both begin a
new count. Any other attempt is. -/
def step (r : Retries) (a : Action) : Retries :=
  let after := LdnClient.step r.client a
  match a with
  | .connect _ | .connectTo _ _ _ | .disconnect _ => ⟨after, 0, r.made⟩
  | .update _ _ | .send _ _ | .setConfig _ | .socketLost =>
      (after.attempts.drop r.client.attempts.length).foldl record { r with client := after }

/-- An `update` that finds the timer of `Backoff` expired. -/
def RetryDue (r : Retries) : Action → Prop
  | .update currentTimeMs _ =>
      r.client.state = .backoff ∧ (r.client.isBackoffExpired currentTimeMs).1 = true
  | _ => False

theorem step_of_timer {r : Retries} {a : Action}
    (automatic : r.step a = ((LdnClient.step r.client a).attempts.drop
      r.client.attempts.length).foldl record { r with client := LdnClient.step r.client a })
    (same : (LdnClient.step r.client a).attempts = r.client.attempts) :
    r.step a = { r with client := LdnClient.step r.client a } := by
  rw [automatic, same, List.drop_length]
  rfl

theorem step_cases (r : Retries) (a : Action) :
    (¬ RetryDue r a ∧ (r.step a).count = 0 ∧ (r.step a).made = r.made) ∨
      (¬ RetryDue r a ∧ r.step a = { r with client := LdnClient.step r.client a } ∧
        (LdnClient.step r.client a).reconnect.retryCount = r.client.reconnect.retryCount) ∨
      (RetryDue r a ∧ ∃ result,
        r.step a = record { r with client := LdnClient.step r.client a } result ∧
          (LdnClient.step r.client a).reconnect =
            if result = .success then r.client.reconnect.reset
            else r.client.reconnect.recordFailure) := by
  have quiet : ∀ {d : Client}, d = LdnClient.step r.client a → ¬ RetryDue r a →
      r.step a = ((LdnClient.step r.client a).attempts.drop
        r.client.attempts.length).foldl record { r with client := LdnClient.step r.client a } →
      d.timer.attempts = r.client.timer.attempts →
      d.reconnect.retryCount = r.client.reconnect.retryCount →
      ¬ RetryDue r a ∧ r.step a = { r with client := LdnClient.step r.client a } ∧
        (LdnClient.step r.client a).reconnect.retryCount = r.client.reconnect.retryCount := by
    rintro d rfl notDue automatic attempts retryCount
    exact ⟨notDue, step_of_timer automatic attempts, retryCount⟩
  cases a with
  | connect os => exact Or.inl ⟨id, rfl, rfl⟩
  | connectTo host port os => exact Or.inl ⟨id, rfl, rfl⟩
  | disconnect turns => exact Or.inl ⟨id, rfl, rfl⟩
  | send call turns =>
      have timer := r.client.timer_sendCall call turns
      have manager : (call.run r.client turns).2.reconnect = r.client.reconnect :=
        congrArg Timer.manager timer
      exact Or.inr (Or.inl (quiet rfl id rfl (congrArg Timer.attempts timer)
        (congrArg ReconnectManager.retryCount manager)))
  | setConfig config => exact Or.inr (Or.inl (quiet rfl id rfl rfl rfl))
  | socketLost => exact Or.inr (Or.inl (quiet rfl id rfl rfl rfl))
  | update currentTimeMs os =>
      right
      by_cases here : r.client.core.state = .backoff
      · by_cases expired : (r.client.isBackoffExpired currentTimeMs).1 = true
        · right
          have timer := Client.timer_update_expired here expired os
          have attempts : (r.client.update currentTimeMs os).attempts =
              r.client.attempts ++ [((r.client.tick currentTimeMs).dial os).1] :=
            (congrArg Timer.attempts timer).trans (Client.attempts_afterAttempt _ _)
          refine ⟨⟨here, expired⟩, ((r.client.tick currentTimeMs).dial os).1, ?_, ?_⟩
          · simp only [step, LdnClient.step]
            rw [attempts, List.drop_left]
            rfl
          · exact (congrArg Timer.manager timer).trans (Client.manager_afterAttempt _ _)
        · left
          have same := Client.sameManager_update_waits here (by simpa using expired) os
          exact quiet rfl (fun due => expired due.2) rfl same.attempts
            (congrArg ReconnectManager.retryCount same.manager)
      · left
        have same := Client.sameManager_update here currentTimeMs os
        exact quiet rfl (fun due => here due.1) rfl same.attempts
          (congrArg ReconnectManager.retryCount same.manager)

theorem made_eq_nil_iff (r : Retries) (a : Action) (none : r.made = []) :
    (r.step a).made = [] ↔ ¬ RetryDue r a := by
  rcases step_cases r a with ⟨notDue, _, made⟩ | ⟨notDue, same, _⟩ | ⟨due, result, made, _⟩
  · simp [made, none, notDue]
  · simp [same, none, notDue]
  · simp [made, record, due]

structure Within (limit : UInt32) (r : Retries) : Prop where
  counted : r.count ≤ r.client.reconnect.retryCount.toNat
  limited : ∀ k ∈ r.made, k ≤ limit.toNat

theorem Within.step {limit : UInt32} {r : Retries} (within : Within limit r) {a : Action}
    (below : RetryDue r a → r.client.reconnect.retryCount < limit) :
    Within limit (r.step a) := by
  rcases step_cases r a with ⟨_, count, made⟩ | ⟨_, same, retryCount⟩ | ⟨due, result, same, manager⟩
  · refine ⟨?_, ?_⟩
    · rw [count]
      exact Nat.zero_le _
    · rw [made]
      exact within.limited
  · rw [same]
    refine ⟨?_, within.limited⟩
    change r.count ≤ (LdnClient.step r.client a).reconnect.retryCount.toNat
    rw [retryCount]
    exact within.counted
  · have room : r.client.reconnect.retryCount.toNat < limit.toNat :=
      UInt32.lt_iff_toNat_lt.mp (below due)
    have counted := within.counted
    rw [same]
    constructor
    · change (if result = .success then 0 else r.count + 1) ≤
        (LdnClient.step r.client a).reconnect.retryCount.toNat
      split
      · exact Nat.zero_le _
      · rename_i failed
        have bound := limit.toNat_lt
        have notFull : r.client.reconnect.retryCount < 0xFFFFFFFF := by
          rw [UInt32.lt_iff_toNat_lt]
          change _ < 4294967295
          omega
        rw [manager, if_neg failed, ReconnectManager.recordFailure_retryCount notFull,
          UInt32.toNat_add]
        change r.count + 1 ≤ (r.client.reconnect.retryCount.toNat + 1) % 2 ^ 32
        omega
    · intro k member
      rcases List.mem_append.mp member with old | new
      · exact within.limited k old
      · rw [List.mem_singleton.mp new]
        change r.count + 1 ≤ limit.toNat
        omega

/-- No attempt is automatic exactly if no `update` finds the timer expired, and the
attempts stay within the configured limit if every such `update` finds the retry
count below it. -/
theorem automatic_attempts_limited (stateCallback packetCallback : Bool) (sessionId : Octets 16)
    (actions : List Action) :
    (∀ config : Config,
      (∀ r ∈ visited step (start (Client.new config stateCallback packetCallback sessionId)) actions,
        r.made = []) ↔
      StepsMeet step (fun r a => ¬ RetryDue r a)
        (start (Client.new config stateCallback packetCallback sessionId)) actions) ∧
    ∀ app : ConfigFile.Config,
      StepsMeet step
        (fun r a => RetryDue r a → r.client.reconnect.retryCount < app.network.maxReconnectAttempts)
        (start (Client.new (.ofApplication app) stateCallback packetCallback sessionId)) actions →
      ∀ r ∈ visited step
          (start (Client.new (.ofApplication app) stateCallback packetCallback sessionId)) actions,
        ∀ k ∈ r.made, k ≤ app.network.maxReconnectAttempts.toNat := by
  constructor
  · intro config
    exact visited_iff_stepsMeet made_eq_nil_iff rfl actions
  · intro app below r member
    have initial : Within app.network.maxReconnectAttempts
        (start (Client.new (.ofApplication app) stateCallback packetCallback sessionId)) :=
      ⟨Nat.zero_le _, by simp [start]⟩
    have keep : ∀ (r : Retries) (a : Action), Within app.network.maxReconnectAttempts r →
        (RetryDue r a → r.client.reconnect.retryCount < app.network.maxReconnectAttempts) →
        Within app.network.maxReconnectAttempts (r.step a) :=
      fun r a within below => within.step below
    exact (visited_of_stepsMeet keep initial below r member).limited

def refused : Replies := { Replies.quiet with connect := .timedOut }

def unreachableServer : List Action :=
  [.connect refused, .update 1 refused, .update 100000 refused, .update 200000 refused]

/-- Two attempts, with the default limit of five. -/
theorem automatic_attempts_limited_unreachable :
    (∀ r ∈ visited step (start (Client.new (.ofApplication ConfigFile.getDefaultConfig) true true
        default)) unreachableServer, ∀ k ∈ r.made, k ≤ 5) ∧
      ∃ r ∈ visited step (start (Client.new (.ofApplication ConfigFile.getDefaultConfig) true true
        default)) unreachableServer, r.made = [1, 2] := by
  constructor
  · apply (automatic_attempts_limited true true default unreachableServer).2
      ConfigFile.getDefaultConfig
    exact ⟨False.elim, fun _ => by decide +kernel, fun _ => by decide +kernel,
      fun _ => by decide +kernel, trivial⟩
  · refine ⟨_, foldl_mem_visited _ unreachableServer, ?_⟩
    decide +kernel

/-- With `auto_reconnect` off, and with a limit of one attempt, two automatic
attempts are made. -/
theorem automatic_attempts_exceed_policy :
    (∃ r ∈ visited step
        (start (Client.new { Config.default with autoReconnect := false } true true default))
        unreachableServer, r.made = [1, 2]) ∧
    ∃ r ∈ visited step
        (start (Client.new (.ofApplication
          { ConfigFile.getDefaultConfig with network.maxReconnectAttempts := 1 }) true true default))
        unreachableServer, r.made = [1, 2] := by
  constructor
  · refine ⟨_, foldl_mem_visited _ unreachableServer, ?_⟩
    decide +kernel
  · refine ⟨_, foldl_mem_visited _ unreachableServer, ?_⟩
    decide +kernel

end Retries

end RyuLdn.LdnClient
