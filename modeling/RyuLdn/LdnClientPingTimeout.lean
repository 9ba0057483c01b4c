import RyuLdn.LdnClientKeepalive

/-! Runs of `RyuLdnClient` and the ping timeout. The pending count is cleared by a pong
only, so a connection that ends with a ping pending leaves its count to the next one. -/
namespace RyuLdn.LdnClientPingTimeout

open ConnectionState LdnClient ProtocolCodec ProtocolTypes TransitionSystem
open LdnClientBackoff (Timed)

def note (pings : List UInt64) (event : UInt64 × Beat) : List UInt64 :=
  match event.2 with
  | .ping => pings ++ [event.1]
  | .pong | .connected => []

def unanswered (record : List (UInt64 × Beat)) : List UInt64 := record.foldl note []

/-- The branch of `handle_ready_state` that takes the connection for lost. -/
def declaresTimeout (c : Client) : Action → Bool
  | .update currentTimeMs os =>
      c.state = .ready &&
        ((c.tick currentTimeMs).processPackets os).pingTimedOut currentTimeMs
  | _ => false

structure Timeout where
  timeMs : UInt64
  limitMs : UInt32
  record : List (UInt64 × Beat)

structure Watch where
  client : Client
  nowMs : UInt64
  record : List (UInt64 × Beat)
  left : UInt32
  entries : List UInt32
  timeouts : List Timeout

namespace Watch

def start (client : Client) : Watch := ⟨client, 0, [], 0, [], []⟩

def recordAfter (w : Watch) (call : Timed) : List (UInt64 × Beat) :=
  let beats := (LdnClient.step w.client call.call).keepalive.beats
  w.record ++ (beats.drop w.client.keepalive.beats.length).map fun event => (call.timeMs, event)

def step (w : Watch) (call : Timed) : Watch :=
  let after := LdnClient.step w.client call.call
  { client := after
    nowMs := call.timeMs
    record := w.recordAfter call
    left := if w.client.state = .ready then after.pendingPingCount else w.left
    entries :=
      if w.client.state ≠ .ready ∧ after.state = .ready then
        w.entries ++ [after.pendingPingCount]
      else w.entries
    timeouts :=
      if declaresTimeout w.client call.call then
        w.timeouts ++ [⟨call.timeMs, w.client.pingTimeoutMs, w.recordAfter call⟩]
      else w.timeouts }

/-- `Ready` is entered without a pending ping, and a timeout is declared for a ping of the
current connection that has been unanswered for that long. -/
structure Fresh (w : Watch) : Prop where
  entries : ∀ pending ∈ w.entries, pending = 0
  timeouts : ∀ timeout ∈ w.timeouts, ∃ sent ∈ unanswered timeout.record,
    sent.toNat + timeout.limitMs.toNat ≤ timeout.timeMs.toNat

def Forward (w : Watch) (call : Timed) : Prop := w.nowMs ≤ call.timeMs

/-- A connection becomes ready only if the one before it has left no ping pending. -/
def Keeps (w : Watch) (call : Timed) : Prop :=
  w.client.state ≠ .ready → (LdnClient.step w.client call.call).state = .ready → w.left = 0

instance (w : Watch) (call : Timed) : Decidable (w.Forward call) :=
  inferInstanceAs (Decidable (w.nowMs ≤ call.timeMs))

instance (w : Watch) (call : Timed) : Decidable (w.Keeps call) :=
  inferInstanceAs (Decidable (_ ≠ _ → _ = _ → _ = _))

end Watch

theorem unanswered_append (record more : List (UInt64 × Beat)) :
    unanswered (record ++ more) = more.foldl note (unanswered record) := by
  rw [unanswered, List.foldl_append]
  rfl

theorem mem_unanswered_pings {record : List (UInt64 × Beat)} {sent : UInt64}
    (waiting : sent ∈ unanswered record) (timeMs : UInt64) (pings : Nat) :
    sent ∈ unanswered
      (record ++ (List.replicate pings Beat.ping).map fun event => (timeMs, event)) := by
  rw [unanswered_append]
  generalize unanswered record = before at waiting
  induction pings generalizing before with
  | zero => exact waiting
  | succ pings ih =>
      rw [List.replicate_succ, List.map_cons, List.foldl_cons]
      exact ih _ (List.mem_append_left _ waiting)

theorem mem_unanswered_last (record : List (UInt64 × Beat)) (timeMs : UInt64) :
    timeMs ∈ unanswered (record ++ [(timeMs, .ping)]) := by
  rw [unanswered_append]
  exact List.mem_append_right _ (List.mem_singleton.mpr rfl)

namespace Watch

theorem recordAfter_eq {w : Watch} {call : Timed} {new : List Beat}
    (grown : (LdnClient.step w.client call.call).keepalive.beats =
      w.client.keepalive.beats ++ new) :
    w.recordAfter call = w.record ++ new.map fun event => (call.timeMs, event) := by
  unfold recordAfter
  dsimp only
  rw [grown, List.drop_left]

end Watch

theorem keepalive_step_of_ready {c : Client} (here : c.state = .ready) (call : Timed) :
    ∃ pongs, (LdnClient.step c call.call).keepalive =
        (c.keepalive.answer pongs).sendPing call.timeMs ∨
      ∃ pings, (LdnClient.step c call.call).keepalive =
        (c.keepalive.answer pongs).add (List.replicate pings .ping) := by
  obtain ⟨timeMs, action⟩ := call
  by_cases updates : LdnClientBackoff.isUpdate action = true
  · cases action with
    | update otherMs os =>
        obtain ⟨pongs, _, after⟩ := (c.tick timeMs).keepalive_handleReadyState timeMs os
        refine ⟨pongs, ?_⟩
        unfold Timed.call LdnClient.step
        dsimp only
        rw [Client.update_of_ready here]
        rcases after with same | ⟨_, pinged⟩
        · refine Or.inr ⟨0, ?_⟩
          rw [List.replicate_zero, Keepalive.add_nil]
          exact same
        · exact Or.inl pinged
    | _ => cases updates
  · have explicit : LdnClientBackoff.isUpdate action = false := by simpa using updates
    have own : (Timed.mk timeMs action).call = action := by
      cases action <;> first | rfl | contradiction
    obtain ⟨pings, same⟩ := Client.keepalive_step_ready here explicit
    refine ⟨0, Or.inr ⟨pings, ?_⟩⟩
    rw [own, Keepalive.answer_zero]
    exact same

theorem keepalive_of_timeout {c : Client} {currentTimeMs : UInt64} {os : Replies}
    (here : c.state = .ready)
    (declared : ((c.tick currentTimeMs).processPackets os).pingTimedOut currentTimeMs = true) :
    (c.update currentTimeMs os).keepalive = c.keepalive ∧ c.pendingPingCount ≠ 0 ∧
      c.pingTimeoutMs.toUInt64 ≤ currentTimeMs - c.lastPingTimeMs := by
  obtain ⟨pongs, served, after⟩ :=
    (c.tick currentTimeMs).keepalive_handleReadyState currentTimeMs os
  rw [Client.update_of_ready here]
  have same : (c.tick currentTimeMs).keepalive = c.keepalive := rfl
  rw [same] at served after
  have pending : ((c.tick currentTimeMs).processPackets os).pendingPingCount =
      (c.keepalive.answer pongs).pending := congrArg Keepalive.pending served
  have lastPing : ((c.tick currentTimeMs).processPackets os).lastPingTimeMs =
      c.lastPingTimeMs := congrArg Keepalive.lastPingMs served
  have limit : ((c.tick currentTimeMs).processPackets os).pingTimeoutMs = c.pingTimeoutMs :=
    congrArg Keepalive.limitMs served
  have expired := declared
  unfold Client.pingTimedOut at expired
  simp only [pending, lastPing, limit, decide_eq_true_eq] at expired
  obtain ⟨some_, _, late⟩ := expired
  have none : pongs = 0 := by
    by_contra answered
    simp [Keepalive.answer, answered] at some_
  rw [none, Keepalive.answer_zero] at some_ after
  refine ⟨?_, ?_, late⟩
  · rcases after with kept | ⟨inTime, _⟩
    · exact kept
    · rw [inTime] at declared
      contradiction
  · intro zero
    have count : c.keepalive.pending = 0 := zero
    rw [count] at some_
    exact absurd some_ (by decide)

namespace Watch

structure Inv (w : Watch) : Prop where
  clock : w.client.lastPingTimeMs ≤ w.nowMs
  outside : w.client.state ≠ .ready → w.client.pendingPingCount = w.left
  waiting : (∀ pending ∈ w.entries, pending = 0) → w.client.state = .ready →
    w.client.pendingPingCount ≠ 0 → w.client.lastPingTimeMs ∈ unanswered w.record

theorem Inv.step_away {w : Watch} (inv : Inv w) {call : Timed} (forward : w.Forward call)
    (away : w.client.state ≠ .ready) : Inv (w.step call) := by
  have connects := Client.connects_step away call.call
  have pending : (LdnClient.step w.client call.call).pendingPingCount =
      w.client.pendingPingCount := by
    rcases connects with same | connected
    · exact congrArg Keepalive.pending same
    · exact congrArg Keepalive.pending connected
  have lastPing : (LdnClient.step w.client call.call).lastPingTimeMs =
      w.client.lastPingTimeMs := by
    rcases connects with same | connected
    · exact congrArg Keepalive.lastPingMs same
    · exact congrArg Keepalive.lastPingMs connected
  refine ⟨?_, ?_, ?_⟩
  · change (LdnClient.step w.client call.call).lastPingTimeMs ≤ call.timeMs
    rw [lastPing]
    exact UInt64.le_trans inv.clock forward
  · intro _
    unfold step
    dsimp only
    rw [if_neg away, pending]
    exact inv.outside away
  · intro fresh entered some_
    have enters : w.client.state ≠ .ready ∧
        (LdnClient.step w.client call.call).state = .ready := ⟨away, entered⟩
    have member : (LdnClient.step w.client call.call).pendingPingCount ∈ (w.step call).entries := by
      unfold step
      dsimp only
      rw [if_pos enters]
      exact List.mem_append_right _ (List.mem_singleton.mpr rfl)
    exact absurd (fresh _ member) some_

theorem Inv.step_ready {w : Watch} (inv : Inv w) {call : Timed} (forward : w.Forward call)
    (here : w.client.state = .ready) : Inv (w.step call) := by
  have entries : (w.step call).entries = w.entries := by
    unfold step
    dsimp only
    rw [if_neg fun enters => enters.1 here]
  have outside : (w.step call).client.state ≠ .ready →
      (w.step call).client.pendingPingCount = (w.step call).left := by
    intro _
    unfold step
    dsimp only
    rw [if_pos here]
  obtain ⟨pongs, pinged | ⟨pings, kept⟩⟩ := keepalive_step_of_ready here call
  · have lastPing : (w.step call).client.lastPingTimeMs = call.timeMs :=
      congrArg Keepalive.lastPingMs pinged
    have grown : (LdnClient.step w.client call.call).keepalive.beats =
        w.client.keepalive.beats ++ (List.replicate pongs .pong ++ [.ping]) := by
      rw [pinged, ← List.append_assoc]
      rfl
    refine ⟨?_, outside, ?_⟩
    · rw [lastPing]
      exact UInt64.le_refl _
    · intro _ _ _
      change _ ∈ unanswered (w.recordAfter call)
      rw [lastPing, recordAfter_eq grown, List.map_append, ← List.append_assoc]
      exact mem_unanswered_last _ call.timeMs
  · have lastPing : (w.step call).client.lastPingTimeMs = w.client.lastPingTimeMs :=
      congrArg Keepalive.lastPingMs kept
    have pending : (w.step call).client.pendingPingCount =
        if pongs = 0 then w.client.pendingPingCount else 0 := congrArg Keepalive.pending kept
    refine ⟨?_, outside, ?_⟩
    · rw [lastPing]
      exact UInt64.le_trans inv.clock forward
    · intro fresh _ some_
      have none : pongs = 0 := by
        by_contra answered
        rw [if_neg answered] at pending
        exact some_ pending
      rw [none, Keepalive.answer_zero] at kept
      rw [pending, if_pos none] at some_
      rw [entries] at fresh
      have grown := recordAfter_eq (congrArg Keepalive.beats kept)
      change _ ∈ unanswered (w.recordAfter call)
      rw [lastPing, grown]
      exact mem_unanswered_pings (inv.waiting fresh here some_) call.timeMs pings

theorem Inv.step {w : Watch} (inv : Inv w) {call : Timed} (forward : w.Forward call) :
    Inv (w.step call) := by
  by_cases here : w.client.state = .ready
  · exact inv.step_ready forward here
  · exact inv.step_away forward here

theorem Inv.declared {w : Watch} (inv : Inv w) {call : Timed} (forward : w.Forward call)
    (fresh : ∀ pending ∈ w.entries, pending = 0)
    (declares : declaresTimeout w.client call.call = true) :
    ∃ sent ∈ unanswered (w.recordAfter call),
      sent.toNat + w.client.pingTimeoutMs.toNat ≤ call.timeMs.toNat := by
  obtain ⟨timeMs, action⟩ := call
  cases action with
  | update otherMs os =>
      unfold Timed.call declaresTimeout at declares
      simp only [Bool.and_eq_true, decide_eq_true_eq] at declares
      obtain ⟨here, declared⟩ := declares
      obtain ⟨same, some_, late⟩ := keepalive_of_timeout here declared
      have grown : (LdnClient.step w.client
          (Timed.mk timeMs (.update otherMs os)).call).keepalive.beats =
            w.client.keepalive.beats ++ [] := by
        rw [List.append_nil]
        exact congrArg Keepalive.beats same
      have early : w.client.lastPingTimeMs ≤ timeMs := UInt64.le_trans inv.clock forward
      refine ⟨w.client.lastPingTimeMs, ?_, ?_⟩
      · rw [recordAfter_eq grown, List.map_nil, List.append_nil]
        exact inv.waiting fresh here some_
      · rw [UInt64.le_iff_toNat_le, UInt64.toNat_sub_of_le _ _ early,
          UInt32.toNat_toUInt64] at late
        rw [UInt64.le_iff_toNat_le] at early
        change w.client.lastPingTimeMs.toNat + w.client.pingTimeoutMs.toNat ≤ timeMs.toNat
        omega
  | _ => cases declares

theorem fresh_step_iff (w : Watch) (call : Timed) (inv : Inv w) (forward : w.Forward call)
    (fresh : w.Fresh) : (w.step call).Fresh ↔ w.Keeps call := by
  have timeouts : ∀ timeout ∈ (w.step call).timeouts, ∃ sent ∈ unanswered timeout.record,
      sent.toNat + timeout.limitMs.toNat ≤ timeout.timeMs.toNat := by
    intro timeout member
    unfold step at member
    dsimp only at member
    split at member
    · rename_i declares
      rcases List.mem_append.mp member with old | new
      · exact fresh.timeouts timeout old
      · rw [List.mem_singleton.mp new]
        exact inv.declared forward fresh.entries declares
    · exact fresh.timeouts timeout member
  by_cases enters : w.client.state ≠ .ready ∧ (LdnClient.step w.client call.call).state = .ready
  · have pending : (LdnClient.step w.client call.call).pendingPingCount = w.left := by
      rw [← inv.outside enters.1]
      rcases Client.connects_step enters.1 call.call with same | connected
      · exact congrArg Keepalive.pending same
      · exact congrArg Keepalive.pending connected
    have entries : (w.step call).entries = w.entries ++ [w.left] := by
      unfold step
      dsimp only
      rw [if_pos enters, pending]
    constructor
    · intro after _ _
      exact after.entries w.left (by simp [entries])
    · intro keeps
      refine ⟨?_, timeouts⟩
      intro count member
      rw [entries] at member
      rcases List.mem_append.mp member with old | new
      · exact fresh.entries count old
      · rw [List.mem_singleton.mp new]
        exact keeps enters.1 enters.2
  · have entries : (w.step call).entries = w.entries := by
      unfold step
      dsimp only
      rw [if_neg enters]
    have keeps : w.Keeps call := fun away ready => absurd ⟨away, ready⟩ enters
    have after : (w.step call).Fresh := ⟨by rw [entries]; exact fresh.entries, timeouts⟩
    exact iff_of_true after keeps

def startWith (config : Config) (stateCallback packetCallback : Bool) (sessionId : Octets 16)
    (pingTimeoutMs : UInt32) : Watch :=
  start { Client.new config stateCallback packetCallback sessionId with
    pingTimeoutMs := pingTimeoutMs }

/-- The keepalive starts fresh on every connection of a run with time running forward
exactly when every connection that becomes ready finds no ping pending of the one before. -/
theorem keepalive_fresh_iff (config : Config) (stateCallback packetCallback : Bool)
    (sessionId : Octets 16) (pingTimeoutMs : UInt32) (calls : List Timed)
    (forward : StepsMeet step Forward
      (startWith config stateCallback packetCallback sessionId pingTimeoutMs) calls) :
    (∀ w ∈ visited step (startWith config stateCallback packetCallback sessionId pingTimeoutMs)
      calls, w.Fresh) ↔
    StepsMeet step Keeps (startWith config stateCallback packetCallback sessionId pingTimeoutMs)
      calls := by
  have inv : Inv (startWith config stateCallback packetCallback sessionId pingTimeoutMs) :=
    ⟨UInt64.le_refl _, fun _ => rfl, fun _ _ pending => absurd rfl pending⟩
  have fresh : Fresh (startWith config stateCallback packetCallback sessionId pingTimeoutMs) :=
    ⟨by simp [startWith, start], by simp [startWith, start]⟩
  exact visited_iff_stepsMeet_of (fun _ _ inv forward => inv.step forward) fresh_step_iff inv fresh
    forward

def pinging : Config := { Config.default with pingIntervalMs := 1000 }

def readyAt (timeMs : UInt64) : List Timed :=
  [⟨timeMs, .connect .quiet⟩, ⟨timeMs + 10, .update 0 .quiet⟩,
    ⟨timeMs + 20, .update 0 { Replies.quiet with
      reads := [(.ready false, .data (encodeHeader .syncNetwork 0))] }⟩]

def answered : List Timed :=
  readyAt 1 ++ [⟨1100, .update 0 .quiet⟩,
    ⟨1200, .update 0 { Replies.quiet with
      reads := [(.ready false, .data (encodeHeader .ping 2 ++ [1, 0]))] }⟩,
    ⟨1300, .disconnect []⟩] ++ readyAt 12000

theorem keepalive_fresh_iff_answered :
    (∀ w ∈ visited step (startWith pinging true true default 10000) answered, w.Fresh) ∧
      (answered.foldl step (startWith pinging true true default 10000)).entries = [0, 0] := by
  constructor
  · rw [keepalive_fresh_iff _ _ _ _ _ _ (by decide +kernel)]
    decide +kernel
  · decide +kernel

def unansweredPing : List Timed :=
  readyAt 1 ++ [⟨1100, .update 0 .quiet⟩, ⟨1300, .disconnect []⟩] ++ readyAt 12000 ++
    [⟨12100, .update 0 .quiet⟩]

/-- The second connection begins with a ping pending, and is dropped with none of its own. -/
theorem leftover_ping_drops :
    ((unansweredPing.foldl step (startWith pinging true true default 10000)).timeouts.map
      fun timeout => (timeout.timeMs, unanswered timeout.record)) = [(12100, [])] ∧
    ¬ ∀ w ∈ visited step (startWith pinging true true default 10000) unansweredPing, w.Fresh := by
  refine ⟨by decide +kernel, ?_⟩
  intro all
  have last := all _ (foldl_mem_visited (startWith pinging true true default 10000) unansweredPing)
  have entries : (unansweredPing.foldl step (startWith pinging true true default 10000)).entries =
      [0, 1] := by decide +kernel
  have one := last.entries 1 (by simp [entries])
  exact absurd one (by decide)

end Watch

end RyuLdn.LdnClientPingTimeout
