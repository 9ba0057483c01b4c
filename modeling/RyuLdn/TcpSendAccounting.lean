import RyuLdn.TcpSendQueue

/-! The send queue and its running total over many connections. `send_proxy_data` and the
sender thread hold `m_queue_mutex`, so each of their critical sections is one step; `connect`
and `disconnect` clear the queue and reset the total without it, in two steps. Any number of
calls may be under way. An action that cannot be taken changes nothing. -/
namespace RyuLdn.TcpSendAccounting

open ProtocolCodec ProtocolTypes TcpSendQueue TransitionSystem
open TcpClient.Client (encodeProxyData)

/-- `m_send_queue` and `m_send_queue_size`; `underflowed` records that a subtraction from the
total wrapped. -/
structure Account where
  packets : List Queued
  size : Nat
  underflowed : Bool

namespace Account

/-- The subtraction and the `pop_front` behind it, if there is a front. -/
def pop (a : Account) : Account :=
  match a.packets with
  | [] => a
  | p :: rest =>
      ⟨rest, (a.size + 2 ^ 64 - p.data.length) % 2 ^ 64,
        a.underflowed || decide (a.size < p.data.length)⟩

def push (a : Account) (p : Queued) : Account :=
  { a with packets := a.packets ++ [p], size := (a.size + p.data.length) % 2 ^ 64 }

def overflows (a : Account) (encodedSize : Nat) : Bool :=
  maxSendQueueSize < (a.size + encodedSize) % 2 ^ 64

def makeRoomFrom (encodedSize : Nat) : List Queued → Account → Account
  | [], a => a
  | _ :: rest, a => if a.overflows encodedSize then makeRoomFrom encodedSize rest a.pop else a

def makeRoom (a : Account) (encodedSize : Nat) : Account :=
  makeRoomFrom encodedSize a.packets a

def clear (a : Account) : Account := { a with packets := [] }

def reset (a : Account) : Account := { a with size := 0 }

end Account

/-- Where a call of `connect` or `disconnect` stands. The steps of `disconnect` are made by
`connect` too, and then it goes on to the socket. -/
inductive Position where
  | check
  | stop (connecting : Bool)
  | join (connecting : Bool)
  | clear (connecting : Bool)
  | reset (connecting : Bool)
  | close (connecting : Bool)
  | openSocket
  | start
  | clearNew
  | resetNew
  | create
  deriving DecidableEq

def Position.inGap : Position → Bool
  | .reset _ => true
  | .resetNew => true
  | _ => false

/-- `entered` counts the calls of `send_proxy_data` that have found the socket connected and
wait for the locks, and `accepted` those that have queued a packet. -/
structure State where
  account : Account
  connected : Bool
  sendThreadRunning : Bool
  sendThreadWasStarted : Bool
  phase : Phase
  sendOffset : Nat
  entered : Nat
  accepted : Nat
  calls : List Position

def initial : State := ⟨⟨[], 0, false⟩, false, false, false, .stopped, 0, 0, 0, []⟩

namespace State

def sendProxyData (s : State) (info : ProxyInfo) (payload : List UInt8) (nowMs : Nat) : State :=
  if s.entered = 0 then s
  else if encoded : (encodeProxyData info payload).1 = .success then
    let p : Queued := ⟨s.accepted, nowMs, (encodeProxyData info payload).2,
      encodeProxyData_fits encoded, encodeProxyData_isPacket encoded⟩
    { s with
      account := (s.account.makeRoom p.data.length).push p
      entered := s.entered - 1
      accepted := s.accepted + 1 }
  else { s with entered := s.entered - 1 }

def senderTop (s : State) (nowMs : Nat) : State :=
  if !s.sendThreadRunning then { s with phase := .stopped }
  else if s.sendOffset = 0 then
    match s.account.packets with
    | [] => s
    | p :: _ =>
        if p.stale nowMs then { s with account := s.account.pop }
        else { s with phase := .fetch }
  else { s with phase := .fetch }

def senderFetch (s : State) (nowMs : Nat) : State :=
  match s.account.packets with
  | [] => { s with sendOffset := 0, phase := .top }
  | p :: _ =>
      if s.sendOffset = 0 ∧ p.stale nowMs then { s with account := s.account.pop, phase := .top }
      else { s with phase := .send p }

end State

inductive SendReply where
  | success (sent : Nat)
  | wouldBlock
  | failed

namespace State

def senderSend (s : State) (tempData : Queued) : SendReply → State
  | .success sent =>
      let toSend := (tempData.data.length + 2 ^ 64 - s.sendOffset) % 2 ^ 64
      let sendOffset := (s.sendOffset + min sent toSend) % 2 ^ 64
      { s with
        sendOffset := sendOffset
        phase := if tempData.data.length ≤ sendOffset then .pop else .top }
  | .wouldBlock => { s with phase := .top }
  | .failed => { s with phase := .stopped }

def senderPop (s : State) : State :=
  { s with account := s.account.pop, sendOffset := 0, phase := .top }

/-- One step of `connect` or `disconnect`, and where the call stands then. `ok` is the answer
of the system where it is asked. -/
def advance (s : State) (ok : Bool) : Position → State × Option Position
  | .check => (s, if s.connected then none else some (.stop true))
  | .stop connecting =>
      if s.sendThreadRunning || s.sendThreadWasStarted then
        ({ s with sendThreadRunning := false }, some (.join connecting))
      else (s, some (.close connecting))
  | .join connecting =>
      if s.sendThreadWasStarted then
        -- `WaitThread` returns when the thread has ended.
        if s.phase = .stopped then
          ({ s with sendThreadWasStarted := false }, some (.clear connecting))
        else (s, some (.join connecting))
      else (s, some (.clear connecting))
  | .clear connecting => ({ s with account := s.account.clear }, some (.reset connecting))
  | .reset connecting => ({ s with account := s.account.reset }, some (.close connecting))
  | .close connecting =>
      ({ s with connected := false }, if connecting then some .openSocket else none)
  | .openSocket => if ok then ({ s with connected := true }, some .start) else (s, none)
  | .start => ({ s with sendThreadRunning := true }, some .clearNew)
  | .clearNew => ({ s with account := s.account.clear }, some .resetNew)
  | .resetNew => ({ s with account := s.account.reset }, some .create)
  | .create =>
      if ok then
        -- The thread object is free when its last thread has ended.
        if s.phase = .stopped then
          ({ s with sendThreadWasStarted := true, phase := .top, sendOffset := 0 }, none)
        else (s, some .create)
      else
        ({ s with sendThreadRunning := false, sendThreadWasStarted := false, connected := false },
          none)

end State

/-- The call `i` stands at a new position or has returned. -/
def settle (calls : List Position) (i : Nat) : Option Position → List Position
  | some position => calls.set i position
  | none => calls.eraseIdx i

def State.advanceCall (s : State) (i : Nat) (ok : Bool) : State :=
  match s.calls[i]? with
  | none => s
  | some position =>
      { (s.advance ok position).1 with calls := settle s.calls i (s.advance ok position).2 }

inductive Action where
  | connect
  | disconnect
  | advance (i : Nat) (ok : Bool)
  | enter
  | sendProxyData (info : ProxyInfo) (payload : List UInt8) (nowMs : Nat)
  | senderTop (nowMs : Nat)
  | senderFetch (nowMs : Nat)
  | senderSend (reply : SendReply)
  | senderPop
  | lose

def move (s : State) : Action → State
  | .connect => { s with calls := s.calls ++ [.check] }
  | .disconnect => { s with calls := s.calls ++ [.stop false] }
  | .advance i ok => s.advanceCall i ok
  | .enter => if s.connected then { s with entered := s.entered + 1 } else s
  | .sendProxyData info payload nowMs => s.sendProxyData info payload nowMs
  | .senderTop nowMs => if s.phase = .top then s.senderTop nowMs else s
  | .senderFetch nowMs => if s.phase = .fetch then s.senderFetch nowMs else s
  | .senderSend reply =>
      match s.phase with
      | .send tempData => s.senderSend tempData reply
      | _ => s
  | .senderPop => if s.phase = .pop then s.senderPop else s
  | .lose => { s with connected := false }

/-- The total is `excess` more than the bytes in the queue, and no subtraction has wrapped. -/
structure Account.Holds (a : Account) (excess : Nat) : Prop where
  size : a.size = totalSize a.packets + excess
  bounded : a.size ≤ maxSendQueueSize
  whole : a.underflowed = false

theorem totalSize_cons (p : Queued) (rest : List Queued) :
    totalSize (p :: rest) = p.data.length + totalSize rest := by
  rw [totalSize, List.map_cons, List.sum_cons, totalSize]

theorem totalSize_append (front back : List Queued) :
    totalSize (front ++ back) = totalSize front + totalSize back := by
  rw [totalSize, List.map_append, List.sum_append, totalSize, totalSize]

theorem totalSize_eq_zero {packets : List Queued} (zero : totalSize packets = 0) :
    packets = [] := by
  cases packets with
  | nil => rfl
  | cons p rest =>
      have some : 0 < p.data.length := packetFraming.frame_pos p.whole
      rw [totalSize_cons] at zero
      omega

theorem maxSendQueueSize_lt : maxSendQueueSize + TcpClient.sendBufferSize < 2 ^ 64 := by decide

namespace Account

theorem Holds.pop {a : Account} {excess : Nat} (holds : a.Holds excess) : a.pop.Holds excess := by
  unfold Account.pop
  cases some : a.packets with
  | nil => exact holds
  | cons p rest =>
      have size := holds.size
      have bounded := holds.bounded
      have small := maxSendQueueSize_lt
      rw [some, totalSize_cons] at size
      refine ⟨?_, ?_, ?_⟩
      · dsimp only
        omega
      · dsimp only
        omega
      · dsimp only
        rw [holds.whole, Bool.false_or, decide_eq_false_iff_not]
        omega

theorem Holds.makeRoomFrom {encodedSize : Nat} (fits : encodedSize ≤ TcpClient.sendBufferSize)
    {excess : Nat} (packets : List Queued) {a : Account} (here : a.packets = packets)
    (holds : a.Holds excess) :
    (makeRoomFrom encodedSize packets a).Holds excess ∧
      ((makeRoomFrom encodedSize packets a).packets = [] ∨
        (makeRoomFrom encodedSize packets a).size + encodedSize ≤ maxSendQueueSize) := by
  induction packets generalizing a with
  | nil => exact ⟨holds, Or.inl here⟩
  | cons p rest ih =>
      rw [Account.makeRoomFrom]
      split
      · refine ih ?_ holds.pop
        rw [Account.pop, here]
      · rename_i room
        have bounded := holds.bounded
        have small := maxSendQueueSize_lt
        refine ⟨holds, Or.inr ?_⟩
        rw [overflows, decide_eq_true_iff] at room
        omega

theorem Holds.queue {a : Account} {excess : Nat} (holds : a.Holds excess) (p : Queued) :
    ((a.makeRoom p.data.length).push p).size =
        totalSize ((a.makeRoom p.data.length).push p).packets + excess ∧
      ((a.makeRoom p.data.length).push p).underflowed = false ∧
      (((a.makeRoom p.data.length).push p).size ≤ maxSendQueueSize ↔
        excess + p.data.length ≤ maxSendQueueSize) := by
  obtain ⟨kept, room⟩ := Holds.makeRoomFrom p.fits a.packets rfl holds
  change (a.makeRoom p.data.length).Holds excess at kept
  change (a.makeRoom p.data.length).packets = [] ∨
    (a.makeRoom p.data.length).size + p.data.length ≤ maxSendQueueSize at room
  have size := kept.size
  have bounded := kept.bounded
  have small := maxSendQueueSize_lt
  have fits := p.fits
  have pushed : ((a.makeRoom p.data.length).push p).size =
      (a.makeRoom p.data.length).size + p.data.length := Nat.mod_eq_of_lt (by omega)
  have packets : totalSize ((a.makeRoom p.data.length).push p).packets =
      totalSize (a.makeRoom p.data.length).packets + p.data.length := by
    rw [push, totalSize_append]
    simp [totalSize]
  refine ⟨?_, kept.whole, ?_⟩
  · rw [pushed, packets]
    omega
  · rw [pushed]
    rcases room with empty | room
    · rw [empty, totalSize] at size
      simp only [List.map_nil, List.sum_nil] at size
      omega
    · omega

end Account

def NoGap (calls : List Position) : Prop := ∀ position ∈ calls, position.inGap = false

/-- The total is the sum of the packets, outside of a reset that is half done; within one it
may be too large, but not too small. It never exceeds its bound, and no subtraction wraps. -/
structure Accounted (s : State) : Prop where
  noUnderflow : s.account.underflowed = false
  bounded : s.account.size ≤ maxSendQueueSize
  covers : totalSize s.account.packets ≤ s.account.size
  exact : NoGap s.calls → s.account.size = totalSize s.account.packets

theorem Accounted.holds {s : State} (accounted : Accounted s) :
    s.account.Holds (s.account.size - totalSize s.account.packets) :=
  ⟨by have := accounted.covers; omega, accounted.bounded, accounted.noUnderflow⟩

/-- A reset finds the queue empty, and a packet is queued where the total leaves room for it:
what a half done reset has left of the total counts there. -/
def Careful (s : State) : Action → Prop
  | .advance i _ =>
      ∀ position ∈ s.calls[i]?, position.inGap = true → s.account.packets = []
  | .sendProxyData info payload _ =>
      s.entered ≠ 0 → (encodeProxyData info payload).1 = .success →
        s.account.size - totalSize s.account.packets +
          (encodeProxyData info payload).2.length ≤ maxSendQueueSize
  | _ => True

theorem accounted_of_same {s next : State} (accounted : Accounted s)
    (account : next.account = s.account ∨ next.account = s.account.pop)
    (calls : NoGap next.calls → NoGap s.calls) : Accounted next := by
  have holds := accounted.holds
  have next_holds : next.account.Holds (s.account.size - totalSize s.account.packets) := by
    rcases account with same | popped
    · rw [same]
      exact holds
    · rw [popped]
      exact holds.pop
  have size := next_holds.size
  refine ⟨next_holds.whole, next_holds.bounded, by omega, ?_⟩
  intro noGap
  have sums := accounted.exact (calls noGap)
  omega

theorem advance_cases (s : State) (ok : Bool) (position : Position) :
    ((s.advance ok position).1.account = s.account ∧ position.inGap = false ∧
        ∀ next ∈ (s.advance ok position).2, next.inGap = false) ∨
      ((s.advance ok position).1.account = s.account.clear ∧ position.inGap = false ∧
        ∃ next ∈ (s.advance ok position).2, next.inGap = true) ∨
      ((s.advance ok position).1.account = s.account.reset ∧ position.inGap = true ∧
        ∀ next ∈ (s.advance ok position).2, next.inGap = false) := by
  cases position with
  | clear connecting => exact Or.inr (Or.inl ⟨rfl, rfl, _, rfl, rfl⟩)
  | clearNew => exact Or.inr (Or.inl ⟨rfl, rfl, _, rfl, rfl⟩)
  | reset connecting => exact Or.inr (Or.inr ⟨rfl, rfl, by simp [State.advance, Position.inGap]⟩)
  | resetNew => exact Or.inr (Or.inr ⟨rfl, rfl, by simp [State.advance, Position.inGap]⟩)
  | _ =>
      refine Or.inl ⟨?_, rfl, ?_⟩
      · unfold State.advance
        dsimp only
        try split_ifs
        all_goals rfl
      · unfold State.advance
        dsimp only
        try split_ifs
        all_goals simp [Position.inGap]

theorem mem_settle {calls : List Position} {i : Nat} {old : Position}
    (here : calls[i]? = some old) (next : Position) : next ∈ settle calls i (some next) := by
  obtain ⟨bound, _⟩ := List.getElem?_eq_some_iff.mp here
  exact List.mem_set bound next

theorem mem_settle_of_ne {calls : List Position} {i : Nat} {old : Position}
    (here : calls[i]? = some old) {position : Position} (member : position ∈ calls)
    (other : position ≠ old) (next : Option Position) : position ∈ settle calls i next := by
  obtain ⟨j, there⟩ := List.mem_iff_getElem?.mp member
  have apart : i ≠ j := by
    rintro rfl
    rw [here] at there
    exact other (Option.some.inj there).symm
  cases next with
  | none => exact List.mem_eraseIdx_iff_getElem?.mpr ⟨j, apart.symm, there⟩
  | some next =>
      refine List.mem_iff_getElem?.mpr ⟨j, ?_⟩
      rw [settle, List.getElem?_set_ne apart, there]

theorem noGap_of_settle {calls : List Position} {i : Nat} {old : Position}
    (here : calls[i]? = some old) (outside : old.inGap = false) {next : Option Position}
    (noGap : NoGap (settle calls i next)) : NoGap calls := by
  intro position member
  by_cases same : position = old
  · rw [same]
    exact outside
  · exact noGap position (mem_settle_of_ne here member same next)

theorem careful_advance_iff {s : State} {i : Nat} {ok : Bool} {position : Position}
    (here : s.calls[i]? = some position) :
    Careful s (.advance i ok) ↔ (position.inGap = true → s.account.packets = []) := by
  constructor
  · intro careful
    exact careful position here
  · intro empty old there
    rw [here] at there
    cases there
    exact empty

/-- The state behind a step of the call `i`, which stands at `position`. -/
def State.stepped (s : State) (i : Nat) (ok : Bool) (position : Position) : State :=
  { (s.advance ok position).1 with calls := settle s.calls i (s.advance ok position).2 }

theorem advanceCall_eq_self {s : State} {i : Nat} (gone : s.calls[i]? = none) (ok : Bool) :
    s.advanceCall i ok = s := by
  rw [State.advanceCall, gone]

theorem advanceCall_eq_stepped {s : State} {i : Nat} {position : Position}
    (here : s.calls[i]? = some position) (ok : Bool) :
    s.advanceCall i ok = s.stepped i ok position := by
  rw [State.advanceCall, here]
  rfl

theorem clear_accounted {s next : State} (accounted : Accounted s)
    (cleared : next.account = s.account.clear) (gap : ¬ NoGap next.calls) : Accounted next := by
  refine ⟨?_, ?_, ?_, fun noGap => absurd noGap gap⟩
  · rw [cleared]
    exact accounted.noUnderflow
  · rw [cleared]
    exact accounted.bounded
  · rw [cleared]
    exact Nat.zero_le _

theorem reset_accounted_iff {s next : State} (accounted : Accounted s)
    (wiped : next.account = s.account.reset) : Accounted next ↔ s.account.packets = [] := by
  constructor
  · intro after
    have none := after.covers
    rw [wiped] at none
    exact totalSize_eq_zero (Nat.le_zero.mp none)
  · intro empty
    have zero : totalSize s.account.reset.packets = 0 := by
      rw [Account.reset, empty]
      rfl
    refine ⟨?_, ?_, ?_, fun _ => ?_⟩
    · rw [wiped]
      exact accounted.noUnderflow
    · rw [wiped]
      exact Nat.zero_le _
    · rw [wiped, zero]
      exact Nat.zero_le _
    · rw [wiped, zero]
      rfl

theorem advanceCall_accounted_iff {s : State} (accounted : Accounted s) (i : Nat) (ok : Bool) :
    Accounted (s.advanceCall i ok) ↔ Careful s (.advance i ok) := by
  cases here : s.calls[i]? with
  | none =>
      rw [advanceCall_eq_self here]
      refine iff_of_true accounted fun position there => ?_
      rw [here] at there
      cases there
  | some position =>
      rw [advanceCall_eq_stepped here, careful_advance_iff here]
      rcases advance_cases s ok position with
        ⟨same, outside, -⟩ | ⟨cleared, outside, position', leads, inGap⟩ | ⟨wiped, inside, -⟩
      · have kept : Accounted (s.stepped i ok position) :=
          accounted_of_same accounted (Or.inl same) (noGap_of_settle here outside)
        exact iff_of_true kept (by simp [outside])
      · have gap : ¬ NoGap (s.stepped i ok position).calls := by
          intro noGap
          rw [State.stepped, leads] at noGap
          have closed := noGap position' (mem_settle here position')
          rw [inGap] at closed
          cases closed
        exact iff_of_true (clear_accounted accounted cleared gap) (by simp [outside])
      · have emptied : (s.stepped i ok position).account = s.account.reset := wiped
        rw [reset_accounted_iff accounted emptied, inside]
        exact ⟨fun empty _ => empty, fun empty => empty rfl⟩

theorem sendProxyData_accounted_iff {s : State} (accounted : Accounted s) (info : ProxyInfo)
    (payload : List UInt8) (nowMs : Nat) :
    Accounted (s.sendProxyData info payload nowMs) ↔
      Careful s (.sendProxyData info payload nowMs) := by
  unfold State.sendProxyData Careful
  by_cases none : s.entered = 0
  · rw [if_pos none]
    exact iff_of_true accounted (fun entered => absurd none entered)
  · rw [if_neg none]
    by_cases encoded : (encodeProxyData info payload).1 = .success
    · rw [dif_pos encoded]
      obtain ⟨size, whole, room⟩ := accounted.holds.queue ⟨s.accepted, nowMs,
        (encodeProxyData info payload).2, encodeProxyData_fits encoded,
        encodeProxyData_isPacket encoded⟩
      constructor
      · intro after _ _
        exact room.mp after.bounded
      · intro fits
        refine ⟨whole, room.mpr (fits none encoded), ?_, ?_⟩
        · dsimp only at size ⊢
          omega
        · intro noGap
          have sums := accounted.exact noGap
          dsimp only at size ⊢
          omega
    · rw [dif_neg encoded]
      have kept : Accounted { s with entered := s.entered - 1 } :=
        accounted_of_same accounted (Or.inl rfl) id
      exact iff_of_true kept (fun _ success => absurd success encoded)

/-- The step drops or pops a packet, or leaves the account alone; no call goes on. -/
def OnlyPops (s next : State) : Prop :=
  (next.account = s.account ∨ next.account = s.account.pop) ∧ next.calls = s.calls

theorem OnlyPops.refl (s : State) : OnlyPops s s := ⟨Or.inl rfl, rfl⟩

theorem OnlyPops.accounted {s next : State} (only : OnlyPops s next) (accounted : Accounted s) :
    Accounted next :=
  accounted_of_same accounted only.1 (by rw [only.2]; exact id)

theorem senderTop_onlyPops (s : State) (nowMs : Nat) : OnlyPops s (s.senderTop nowMs) := by
  unfold State.senderTop
  split
  · exact ⟨Or.inl rfl, rfl⟩
  · split
    · split
      · exact OnlyPops.refl s
      · split
        · exact ⟨Or.inr rfl, rfl⟩
        · exact ⟨Or.inl rfl, rfl⟩
    · exact ⟨Or.inl rfl, rfl⟩

theorem senderFetch_onlyPops (s : State) (nowMs : Nat) : OnlyPops s (s.senderFetch nowMs) := by
  unfold State.senderFetch
  split
  · exact ⟨Or.inl rfl, rfl⟩
  · split
    · exact ⟨Or.inr rfl, rfl⟩
    · exact ⟨Or.inl rfl, rfl⟩

theorem senderSend_onlyPops (s : State) (tempData : Queued) (reply : SendReply) :
    OnlyPops s (s.senderSend tempData reply) := by
  cases reply <;> exact ⟨Or.inl rfl, rfl⟩

def Action.passesBy : Action → Bool
  | .enter | .senderTop _ | .senderFetch _ | .senderSend _ | .senderPop | .lose => true
  | _ => false

theorem move_onlyPops (s : State) {action : Action} (passesBy : action.passesBy = true) :
    OnlyPops s (move s action) := by
  cases action with
  | enter =>
      unfold move
      dsimp only
      split <;> exact ⟨Or.inl rfl, rfl⟩
  | senderTop nowMs =>
      unfold move
      dsimp only
      split
      · exact senderTop_onlyPops s nowMs
      · exact OnlyPops.refl s
  | senderFetch nowMs =>
      unfold move
      dsimp only
      split
      · exact senderFetch_onlyPops s nowMs
      · exact OnlyPops.refl s
  | senderSend reply =>
      unfold move
      dsimp only
      split
      · exact senderSend_onlyPops s _ reply
      · exact OnlyPops.refl s
  | senderPop =>
      unfold move
      dsimp only
      split
      · exact ⟨Or.inr rfl, rfl⟩
      · exact OnlyPops.refl s
  | lose => exact ⟨Or.inl rfl, rfl⟩
  | connect | disconnect | advance | sendProxyData => cases passesBy

theorem noGap_of_append {calls : List Position} {position : Position}
    (noGap : NoGap (calls ++ [position])) : NoGap calls :=
  fun old member => noGap old (List.mem_append_left _ member)

theorem move_accounted_iff (s : State) (action : Action) (accounted : Accounted s) :
    Accounted (move s action) ↔ Careful s action := by
  cases action with
  | connect =>
      exact iff_of_true (accounted_of_same accounted (Or.inl rfl) noGap_of_append) trivial
  | disconnect =>
      exact iff_of_true (accounted_of_same accounted (Or.inl rfl) noGap_of_append) trivial
  | advance i ok => exact advanceCall_accounted_iff accounted i ok
  | sendProxyData info payload nowMs =>
      exact sendProxyData_accounted_iff accounted info payload nowMs
  | enter | senderTop | senderFetch | senderSend | senderPop | lose =>
      exact iff_of_true ((move_onlyPops s rfl).accounted accounted) trivial

theorem initial_accounted : Accounted initial :=
  ⟨rfl, Nat.zero_le _, Nat.zero_le _, fun _ => rfl⟩

/-- A call of `send_proxy_data` finds the first connection, and queues its packet between the
two halves of the reset for the second one. -/
def lateSend : List Action :=
  [.connect, .advance 0 true, .advance 0 true, .advance 0 true, .advance 0 true, .advance 0 true,
    .advance 0 true, .advance 0 true, .advance 0 true, .enter,
    .disconnect, .advance 0 true, .senderTop 0, .advance 0 true, .advance 0 true, .advance 0 true,
    .advance 0 true,
    .connect, .advance 0 true, .advance 0 true, .advance 0 true, .advance 0 true, .advance 0 true,
    .advance 0 true, .sendProxyData ⟨0, 0, 0, 0, 0⟩ [1] 0, .advance 0 true, .advance 0 true,
    .senderTop 0, .senderFetch 0, .senderSend (.success 2048), .senderPop]

def Undisturbed (s : State) : Action → Prop
  | .sendProxyData _ _ _ => NoGap s.calls
  | _ => True

def EmptyInGap (s : State) : Prop := ¬ NoGap s.calls → s.account.packets = []

theorem careful_of_undisturbed {s : State} {action : Action} (accounted : Accounted s)
    (empty : EmptyInGap s) (undisturbed : Undisturbed s action) : Careful s action := by
  cases action with
  | advance i ok =>
      intro position here inGap
      refine empty fun noGap => ?_
      have outside := noGap position (List.mem_of_getElem? here)
      rw [outside] at inGap
      cases inGap
  | sendProxyData info payload nowMs =>
      intro _ encoded
      have sums := accounted.exact undisturbed
      have fits := encodeProxyData_fits encoded
      have room : TcpClient.sendBufferSize ≤ maxSendQueueSize := by decide
      omega
  | _ => trivial

theorem noGap_settle {calls : List Position} (noGap : NoGap calls) (i : Nat)
    {next : Option Position} (outside : ∀ position ∈ next, position.inGap = false) :
    NoGap (settle calls i next) := by
  intro position member
  cases next with
  | none => exact noGap position (List.mem_of_mem_eraseIdx member)
  | some new =>
      rcases List.mem_or_eq_of_mem_set member with old | rfl
      · exact noGap position old
      · exact outside position rfl

theorem emptyInGap_of_onlyPops {s next : State} (empty : EmptyInGap s) (only : OnlyPops s next) :
    EmptyInGap next := by
  intro gap
  rw [only.2] at gap
  have none := empty gap
  rcases only.1 with same | popped
  · rw [same, none]
  · rw [popped, Account.pop, none]
    exact none

theorem emptyInGap_advanceCall {s : State} (empty : EmptyInGap s) (i : Nat) (ok : Bool) :
    EmptyInGap (s.advanceCall i ok) := by
  cases here : s.calls[i]? with
  | none =>
      rw [advanceCall_eq_self here]
      exact empty
  | some position =>
      rw [advanceCall_eq_stepped here]
      intro gap
      rcases advance_cases s ok position with
        ⟨same, outside, leads⟩ | ⟨cleared, outside, -⟩ | ⟨wiped, inside, leads⟩
      · have packets : (s.stepped i ok position).account = s.account := same
        rw [packets]
        exact empty fun noGap => gap (noGap_settle noGap i leads)
      · have packets : (s.stepped i ok position).account = s.account.clear := cleared
        rw [packets]
        rfl
      · have packets : (s.stepped i ok position).account = s.account.reset := wiped
        rw [packets]
        exact empty fun noGap => gap (noGap_settle noGap i leads)

theorem noGap_append {calls : List Position} (noGap : NoGap calls) {position : Position}
    (outside : position.inGap = false) : NoGap (calls ++ [position]) := by
  intro old member
  rcases List.mem_append.mp member with before | new
  · exact noGap old before
  · rw [List.mem_singleton.mp new]
    exact outside

theorem emptyInGap_move {s : State} {action : Action} (empty : EmptyInGap s)
    (undisturbed : Undisturbed s action) : EmptyInGap (move s action) := by
  cases action with
  | connect => exact fun gap => empty fun noGap => gap (noGap_append noGap rfl)
  | disconnect => exact fun gap => empty fun noGap => gap (noGap_append noGap rfl)
  | advance i ok => exact emptyInGap_advanceCall empty i ok
  | sendProxyData info payload nowMs =>
      intro gap
      refine absurd undisturbed fun noGap => gap ?_
      unfold move State.sendProxyData
      dsimp only
      split
      · exact noGap
      · split <;> exact noGap
  | enter | senderTop | senderFetch | senderSend | senderPop | lose =>
      exact emptyInGap_of_onlyPops empty (move_onlyPops s rfl)

theorem accounted_of_undisturbed {actions : List Action}
    (undisturbed : StepsMeet move Undisturbed initial actions) :
    ∀ s ∈ visited move initial actions, Accounted s := by
  have both : ∀ s ∈ visited move initial actions, Accounted s ∧ EmptyInGap s :=
    visited_of_stepsMeet
      (fun s action inv met =>
        ⟨(move_accounted_iff s action inv.1).mpr (careful_of_undisturbed inv.1 inv.2 met),
          emptyInGap_move inv.2 met⟩)
      ⟨initial_accounted, fun _ => rfl⟩ undisturbed
  exact fun s member => (both s member).1

def Account.ofQueue (q : SendQueue) : Account := ⟨q.packets, q.size, false⟩

theorem ofQueue_pop {q : SendQueue} (bounded : q.size ≤ maxSendQueueSize) :
    (Account.ofQueue q).pop = Account.ofQueue q.pop := by
  obtain ⟨packets, size, sums⟩ := q
  have small := maxSendQueueSize_lt
  unfold Account.ofQueue Account.pop SendQueue.pop
  dsimp only at bounded ⊢
  cases packets with
  | nil => simp [totalSize]
  | cons p rest =>
      rw [totalSize_cons] at sums
      have front : totalSize ((p :: rest).take 1) = p.data.length := by simp [totalSize]
      have value : (size + 2 ^ 64 - p.data.length) % 2 ^ 64 = size - p.data.length := by omega
      have covered : decide (size < p.data.length) = false := decide_eq_false (by omega)
      rw [front]
      dsimp only
      rw [value, covered, List.tail_cons, Bool.or_false]

theorem ofQueue_makeRoomFrom {encodedSize : Nat} (fits : encodedSize ≤ TcpClient.sendBufferSize)
    (packets : List Queued) {q : SendQueue} (bounded : q.size ≤ maxSendQueueSize) :
    Account.makeRoomFrom encodedSize packets (Account.ofQueue q) =
      Account.ofQueue (SendQueue.makeRoomFrom encodedSize packets q) := by
  induction packets generalizing q with
  | nil => rfl
  | cons p rest ih =>
      have small := maxSendQueueSize_lt
      have same : (Account.ofQueue q).overflows encodedSize = q.overflows encodedSize := by
        unfold Account.overflows Account.ofQueue SendQueue.overflows
        dsimp only
        rw [Nat.mod_eq_of_lt (by omega)]
      rw [Account.makeRoomFrom, SendQueue.makeRoomFrom, same]
      split
      · rw [ofQueue_pop bounded]
        refine ih ?_
        rw [SendQueue.pop]
        dsimp only
        omega
      · rfl

theorem ofQueue_queue {q : SendQueue} (bounded : q.size ≤ maxSendQueueSize) (p : Queued) :
    ((Account.ofQueue q).makeRoom p.data.length).push p =
      Account.ofQueue ((q.makeRoom p.data.length).push p) := by
  have small := maxSendQueueSize_lt
  have fits := p.fits
  have same : (Account.ofQueue q).makeRoom p.data.length =
      Account.ofQueue (q.makeRoom p.data.length) := ofQueue_makeRoomFrom fits q.packets bounded
  have holds : (Account.ofQueue q).Holds 0 := ⟨q.exact, bounded, rfl⟩
  have kept := (Account.Holds.makeRoomFrom fits q.packets (a := Account.ofQueue q) rfl
    holds).1.bounded
  change ((Account.ofQueue q).makeRoom p.data.length).size ≤ maxSendQueueSize at kept
  rw [same] at kept ⊢
  change (q.makeRoom p.data.length).size ≤ maxSendQueueSize at kept
  have value : ((q.makeRoom p.data.length).size + p.data.length) % 2 ^ 64 =
      (q.makeRoom p.data.length).size + p.data.length := Nat.mod_eq_of_lt (by omega)
  unfold Account.ofQueue Account.push SendQueue.push
  dsimp only
  rw [value]

end RyuLdn.TcpSendAccounting
