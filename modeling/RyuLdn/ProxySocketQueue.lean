import RyuLdn.ProxySocketStream

/-! The receive ring of a `ProxySocket` as a queue of datagrams that drops its
oldest entry. `History` keeps what arrived and how far receives have come; it
never looks into the ring, and the ring is compared with it in every run. -/
namespace RyuLdn.ProxySocketQueue

open BsdTypes ProxySocket RingBuffer
open ProxySocketStream (peeks)

/-- What happens to one socket. A `RecvFrom` that had to wait goes on in `resume`. -/
inductive Event where
  | incomingData (data : List UInt8) (source : SockAddrIn)
  | recvFrom (buffer : Bool) (len : Nat) (flags : UInt32) (wantSource : Bool)
  | resume (len : Nat) (flags : UInt32) (wantSource : Bool)
  | getPendingDataSize
  | close
  | other (change : Socket → Socket)

/-- The socket with the datagrams that arrived since it was last closed, and the
number of them up to the last one a receive has removed. -/
structure History where
  socket : Socket
  arrived : List ReceivedPacket
  mark : Nat

namespace History

def start (type : SocketType) (protocol : ProtocolType) : History := ⟨Socket.new type protocol, [], 0⟩

def waiting (h : History) : List ReceivedPacket := mostRecent maxQueueSize (h.arrived.drop h.mark)

def consumed (h : History) : Nat := h.arrived.length - h.waiting.length + 1

/-- The checks of `RecvFrom` before it looks at the queue. -/
def admits (s : Socket) (buffer : Bool) (len : Nat) : Bool :=
  !s.shutdownRead && s.state ≠ .closed && (buffer || len = 0)

def removes (h : History) (flags : UInt32) : Bool := !peeks flags && h.waiting ≠ []

def step (h : History) : Event → History
  | .incomingData data source =>
      { h with socket := h.socket.incomingData data source
               arrived := h.arrived ++ [⟨source, data.take maxPayload⟩] }
  | .recvFrom buffer len flags wantSource =>
      { h with socket := (h.socket.recvFrom buffer len flags wantSource).2
               mark := if admits h.socket buffer len && h.removes flags then h.consumed
                       else h.mark }
  | .resume len flags wantSource =>
      { h with socket := (h.socket.resumeRecvFrom len flags wantSource).2
               mark := if h.removes flags then h.consumed else h.mark }
  | .getPendingDataSize => h
  | .close => ⟨h.socket.closed, [], 0⟩
  | .other change => { h with socket := { change h.socket with rxRing := h.socket.rxRing } }

/-- The ring is the queue: what it holds, its indices, the pending size, and what the
next receive gives out and leaves. -/
structure IsQueue (h : History) : Prop where
  contents : h.socket.rxRing.toList = h.waiting
  count : h.socket.rxRing.count ≤ maxQueueSize
  tail : h.socket.rxRing.tail =
    (h.socket.rxRing.head + h.socket.rxRing.count) % maxQueueSize
  pending : h.socket.getPendingDataSize = (h.waiting.map (·.data.length)).sum
  oldest : ∀ buffer len flags wantSource packet rest, admits h.socket buffer len = true →
    h.waiting = packet :: rest →
      (h.socket.recvFrom buffer len flags wantSource).1 =
          .data (packet.data.take len) (if wantSource then some packet.source else none) ∧
        (h.socket.recvFrom buffer len flags wantSource).2.rxRing.toList =
          if peeks flags then packet :: rest else rest
  resumed : ∀ len flags wantSource packet rest, h.waiting = packet :: rest →
      (h.socket.resumeRecvFrom len flags wantSource).1 =
          .data (packet.data.take len) (if wantSource then some packet.source else none) ∧
        (h.socket.resumeRecvFrom len flags wantSource).2.rxRing.toList =
          if peeks flags then packet :: rest else rest
  untouched : ∀ buffer len flags wantSource,
    admits h.socket buffer len = false ∨ h.waiting = [] →
      ProxySocketStream.Received.bytes (h.socket.recvFrom buffer len flags wantSource).1 = [] ∧
        (h.socket.recvFrom buffer len flags wantSource).2 = h.socket

theorem toList_consumeFront (s : Socket) (packet : ReceivedPacket) (len : Nat)
    (peek wantSource : Bool) :
    (s.consumeFront packet len peek wantSource).2.rxRing.toList =
      if peek then s.rxRing.toList else s.rxRing.toList.tail := by
  unfold Socket.consumeFront
  cases peek
  · exact s.rxRing.toList_pop
  · rfl

theorem recvFrom_of_admits {s : Socket} {buffer : Bool} {len : Nat}
    (open_ : admits s buffer len = true) {packet : ReceivedPacket}
    (front : s.rxRing.front = some packet) (flags : UInt32) (wantSource : Bool) :
    s.recvFrom buffer len flags wantSource =
      s.consumeFront packet len (peeks flags) wantSource := by
  simp only [admits, Bool.and_eq_true, Bool.not_eq_true', decide_eq_true_eq, Bool.or_eq_true]
    at open_
  obtain ⟨⟨reads, alive⟩, space⟩ := open_
  have valid : (!buffer && decide (len > 0)) = false := by
    rcases space with given | zero
    · simp [given]
    · simp [zero]
  unfold Socket.recvFrom
  simp only [reads, alive, valid, front, Bool.false_eq_true, if_false]
  rfl

theorem recvFrom_of_none {s : Socket} {buffer : Bool} {len : Nat} (flags : UInt32)
    (wantSource : Bool) (none : admits s buffer len = false ∨ s.rxRing.front = none) :
    ProxySocketStream.Received.bytes (s.recvFrom buffer len flags wantSource).1 = [] ∧
      (s.recvFrom buffer len flags wantSource).2 = s := by
  unfold Socket.recvFrom
  by_cases shut : s.shutdownRead = true
  · rw [if_pos shut]
    exact ⟨rfl, rfl⟩
  rw [if_neg shut]
  by_cases closed : s.state = .closed
  · rw [if_pos closed]
    exact ⟨rfl, rfl⟩
  rw [if_neg closed]
  by_cases invalid : (!buffer && decide (len > 0)) = true
  · rw [if_pos invalid]
    exact ⟨rfl, rfl⟩
  rw [if_neg invalid]
  -- all checks passed, so it is the ring that is empty
  have open_ : admits s buffer len = true := by
    cases buffer <;> simp_all [admits]
  have empty : s.rxRing.front = Option.none := by
    rcases none with refused | empty
    · rw [open_] at refused
      cases refused
    · exact empty
  simp only [empty]
  split_ifs <;> exact ⟨rfl, rfl⟩

theorem isQueue_of_contents {h : History} (contents : h.socket.rxRing.toList = h.waiting) :
    IsQueue h := by
  have front : h.socket.rxRing.front = h.waiting.head? := by
    rw [Ring.front_eq_head?, contents]
  have taken : ∀ len flags wantSource packet rest, h.waiting = packet :: rest →
      (h.socket.consumeFront packet len (peeks flags) wantSource).2.rxRing.toList =
        if peeks flags then packet :: rest else rest := by
    intro len flags wantSource packet rest waiting
    rw [toList_consumeFront, contents, waiting, List.tail_cons]
  constructor
  · exact contents
  · exact h.socket.rxRing.count_le
  · exact h.socket.rxRing.tail_eq
  · rw [Socket.getPendingDataSize, Ring.foldl_eq, contents, List.sum_eq_foldl, List.foldl_map]
  · intro buffer len flags wantSource packet rest open_ waiting
    rw [waiting] at front
    rw [recvFrom_of_admits open_ front]
    exact ⟨rfl, taken len flags wantSource packet rest waiting⟩
  · intro len flags wantSource packet rest waiting
    rw [waiting] at front
    have resumed : h.socket.resumeRecvFrom len flags wantSource =
        h.socket.consumeFront packet len (peeks flags) wantSource := by
      simp only [Socket.resumeRecvFrom, front, List.head?_cons]
      rfl
    rw [resumed]
    exact ⟨rfl, taken len flags wantSource packet rest waiting⟩
  · intro buffer len flags wantSource none
    apply recvFrom_of_none
    refine none.imp_right ?_
    intro empty
    rw [front, empty, List.head?_nil]

theorem waiting_eq_drop (h : History) :
    h.waiting = h.arrived.drop (h.arrived.length - h.waiting.length) := by
  apply List.suffix_iff_eq_drop.mp
  exact (mostRecent_suffix _ _).trans (List.drop_suffix _ _)

theorem length_waiting_le (h : History) : h.waiting.length ≤ h.arrived.length :=
  ((mostRecent_suffix _ _).trans (List.drop_suffix _ _)).length_le

theorem waiting_arrived {h : History} (inside : h.mark ≤ h.arrived.length) (s : Socket)
    (packet : ReceivedPacket) :
    (History.mk s (h.arrived ++ [packet]) h.mark).waiting =
      mostRecent maxQueueSize (h.waiting ++ [packet]) := by
  rw [waiting, waiting, List.drop_append_of_le_length inside, mostRecent_append_singleton]

theorem waiting_consumed (h : History) (s : Socket) :
    (History.mk s h.arrived h.consumed).waiting = h.waiting.tail := by
  have short : h.waiting.length ≤ maxQueueSize := by
    rw [waiting, mostRecent, List.length_drop]
    omega
  have fits := h.length_waiting_le
  have left : (h.arrived.drop h.consumed).length ≤ maxQueueSize := by
    rw [List.length_drop, consumed]
    omega
  have dropped : h.arrived.drop h.consumed = h.waiting.tail := by
    rw [consumed, ← List.drop_drop, ← waiting_eq_drop, List.drop_one]
  rw [waiting, mostRecent_of_length_le left, dropped]

structure Sound (h : History) : Prop where
  contents : h.socket.rxRing.toList = h.waiting
  inside : h.mark ≤ h.arrived.length

theorem sound_received {h : History} (sound : h.Sound) {s : Socket} {taken : Bool}
    (nonempty : taken = true → h.waiting ≠ [])
    (ring : s.rxRing.toList = if taken then h.waiting.tail else h.waiting) :
    Sound ⟨s, h.arrived, if taken then h.consumed else h.mark⟩ := by
  cases taken with
  | false => exact ⟨ring, sound.inside⟩
  | true =>
      constructor
      · exact ring.trans (h.waiting_consumed s).symm
      · have some := List.length_pos_iff.mpr (nonempty rfl)
        have fits := h.length_waiting_le
        show h.arrived.length - h.waiting.length + 1 ≤ h.arrived.length
        omega

theorem sound_step {h : History} (sound : h.Sound) (e : Event) : (h.step e).Sound := by
  have queue := isQueue_of_contents sound.contents
  cases e with
  | incomingData data source =>
      constructor
      · unfold step Socket.incomingData
        rw [waiting_arrived sound.inside]
        dsimp only
        rw [Ring.toList_pushDropping_eq, sound.contents]
      · show h.mark ≤ (h.arrived ++ [_]).length
        rw [List.length_append]
        exact le_trans sound.inside (Nat.le_add_right _ _)
  | recvFrom buffer len flags wantSource =>
      apply sound_received sound
      · simp [removes]
      · cases waiting : h.waiting with
        | nil =>
            rw [(queue.untouched buffer len flags wantSource (Or.inr waiting)).2, sound.contents,
              waiting]
            simp
        | cons packet rest =>
            cases open_ : admits h.socket buffer len with
            | false =>
                rw [(queue.untouched buffer len flags wantSource (Or.inl open_)).2, sound.contents,
                  waiting]
                simp
            | true =>
                rw [(queue.oldest buffer len flags wantSource packet rest open_ waiting).2]
                cases peek : peeks flags <;> simp [removes, peek, waiting]
  | resume len flags wantSource =>
      apply sound_received sound
      · simp [removes]
      · cases waiting : h.waiting with
        | nil =>
            have front : h.socket.rxRing.front = none := by
              rw [Ring.front_eq_head?, sound.contents, waiting, List.head?_nil]
            simp only [Socket.resumeRecvFrom, front, sound.contents, waiting]
            simp
        | cons packet rest =>
            rw [(queue.resumed len flags wantSource packet rest waiting).2]
            cases peek : peeks flags <;> simp [removes, peek, waiting]
  | getPendingDataSize => exact sound
  | close => exact ⟨Ring.toList_clear _, Nat.zero_le _⟩
  | other change => exact ⟨sound.contents, sound.inside⟩

theorem sound_start (type : SocketType) (protocol : ProtocolType) :
    (start type protocol).Sound :=
  ⟨Ring.toList_fill _ _, Nat.zero_le _⟩

theorem sound_run {h : History} (sound : h.Sound) (events : List Event) :
    (events.foldl step h).Sound := by
  induction events generalizing h with
  | nil => exact sound
  | cons e events ih => exact ih (sound_step sound e)

/-- The receive ring is a drop-oldest queue in every run of a socket. -/
theorem receive_ring_isQueue (type : SocketType) (protocol : ProtocolType) (events : List Event) :
    (events.foldl step (start type protocol)).IsQueue :=
  isQueue_of_contents (sound_run (sound_start type protocol) events).contents

end History

end RyuLdn.ProxySocketQueue
