import Mathlib.Data.List.TakeDrop
import RyuLdn.ProxySocket
import RyuLdn.TransitionSystem

/-! A connected stream socket as a byte stream: the payloads that arrived against
the bytes the reads gave out. The receive ring keeps packets, and a read takes
one packet whatever the size of its buffer. A read of an empty ring waits for
`m_receive_event` and takes its packet when it wakes up. -/
namespace RyuLdn.ProxySocketStream

open BsdTypes ProxySocket RingBuffer TransitionSystem

def pendingBytes (s : Socket) : List UInt8 := s.rxRing.toList.flatMap (·.data)

def Received.bytes : Socket.Received → List UInt8
  | .data bytes _ => bytes
  | .failed _ => []
  | .blocked => []

/-- What the network thread and the game do to one socket. A read that had to wait
goes on in `resume`, with or without room for the sender's address. -/
inductive Event where
  | incomingData (payload : List UInt8) (source : SockAddrIn)
  | recv (len : Nat) (flags : UInt32)
  | recvFrom (len : Nat) (flags : UInt32)
  | read (len : Nat)
  | resume (len : Nat) (flags : UInt32) (wantSource : Bool)

structure Stream where
  socket : Socket
  arrived : List UInt8
  returned : List UInt8

def peeks (flags : UInt32) : Bool := flags &&& Socket.msgPeek ≠ 0

namespace Stream

def start (s : Socket) : Stream := ⟨s, pendingBytes s, []⟩

def after (h : Stream) (result : Socket.Received × Socket) (flags : UInt32) : Stream :=
  { h with socket := result.2,
           returned := if peeks flags then h.returned
                       else h.returned ++ Received.bytes result.1 }

def step (h : Stream) : Event → Stream
  | .incomingData payload source =>
      { h with socket := h.socket.incomingData payload source, arrived := h.arrived ++ payload }
  | .recv len flags => h.after (h.socket.recv true len flags) flags
  | .recvFrom len flags => h.after (h.socket.recvFrom true len flags true) flags
  -- the service's `Read` is `Recv` without flags
  | .read len => h.after (h.socket.recv true len 0) 0
  | .resume len flags wantSource =>
      h.after (h.socket.resumeRecvFrom len flags wantSource) flags

/-- Payloads of the size the sender side allows, never more than the ring holds,
and reads with some buffer. -/
def InDomain (h : Stream) : Event → Prop
  | .incomingData payload _ =>
      payload.length ≤ maxPayload ∧ h.socket.rxRing.count < maxQueueSize
  | .recv len _ => 0 < len
  | .recvFrom len _ => 0 < len
  | .read len => 0 < len
  | .resume len _ _ => 0 < len

def TakesWhole (h : Stream) (len : Nat) (flags : UInt32) : Prop :=
  peeks flags = false → ∀ packet ∈ h.socket.rxRing.front, packet.data.length ≤ len

/-- The condition on a read: shut down for reading it takes nothing, except when it
already waits, since `m_shutdown_read` is not looked at again after the wait. -/
def ReadsWhole (h : Stream) : Event → Prop
  | .incomingData _ _ => True
  | .recv len flags => h.socket.shutdownRead = false → h.TakesWhole len flags
  | .recvFrom len flags => h.socket.shutdownRead = false → h.TakesWhole len flags
  | .read len => h.socket.shutdownRead = false → h.TakesWhole len 0
  | .resume len flags _ => h.TakesWhole len flags

/-- The stream law: what was read is the beginning of what arrived, all of it once
nothing is pending, and what was not read is still there. -/
structure IsByteStream (h : Stream) : Prop where
  ordered : h.returned <+: h.arrived
  drained : h.socket.hasPendingData = false → h.returned = h.arrived
  kept : h.returned ++ pendingBytes h.socket = h.arrived

theorem isByteStream_iff {h : Stream} :
    IsByteStream h ↔ h.returned ++ pendingBytes h.socket = h.arrived := by
  constructor
  · exact IsByteStream.kept
  · intro kept
    refine ⟨⟨_, kept⟩, ?_, kept⟩
    intro none
    have empty : h.socket.rxRing.toList = [] := by
      apply List.length_eq_zero_iff.mp
      rw [Ring.length_toList]
      simpa [Socket.hasPendingData] using none
    rw [← kept, pendingBytes, empty]
    simp

theorem pendingBytes_incomingData (s : Socket) {payload : List UInt8} (source : SockAddrIn)
    (small : payload.length ≤ maxPayload) (room : s.rxRing.count < maxQueueSize) :
    pendingBytes (s.incomingData payload source) = pendingBytes s ++ payload := by
  unfold pendingBytes Socket.incomingData
  rw [Ring.toList_pushDropping, if_pos room, List.flatMap_append, List.take_of_length_le small]
  simp

theorem pendingBytes_front {s : Socket} {packet : ReceivedPacket}
    (front : s.rxRing.front = some packet) :
    pendingBytes s = packet.data ++ pendingBytes { s with rxRing := s.rxRing.pop } := by
  rw [Ring.front_eq_head?] at front
  unfold pendingBytes
  dsimp only
  rw [Ring.toList_pop]
  cases packets : s.rxRing.toList with
  | nil => simp [packets] at front
  | cons first rest =>
      rw [packets, List.head?_cons, Option.some.injEq] at front
      simp [front]

theorem recvFrom_cases (s : Socket) (len : Nat) (flags : UInt32) (wantSource : Bool)
    (up : s.state = .connected) :
    ((s.shutdownRead = true ∨ s.rxRing.front = none) ∧
      Received.bytes (s.recvFrom true len flags wantSource).1 = [] ∧
      (s.recvFrom true len flags wantSource).2 = s) ∨
    ∃ packet, s.shutdownRead = false ∧ s.rxRing.front = some packet ∧
      s.recvFrom true len flags wantSource =
        s.consumeFront packet len (peeks flags) wantSource := by
  have open_ : s.state ≠ .closed := by
    rw [up]
    decide
  unfold Socket.recvFrom
  by_cases shut : s.shutdownRead = true
  · left
    simp [shut, Received.bytes]
  · rw [if_neg shut, if_neg open_]
    simp only [Bool.not_true, Bool.false_and, Bool.false_eq_true, if_false]
    cases front : s.rxRing.front with
    | none =>
        left
        dsimp only
        split
        · exact ⟨Or.inr rfl, rfl, rfl⟩
        · split
          · exact ⟨Or.inr rfl, rfl, rfl⟩
          · exact ⟨Or.inr rfl, rfl, rfl⟩
    | some packet =>
        right
        exact ⟨packet, by simpa using shut, rfl, rfl⟩

theorem resumeRecvFrom_cases (s : Socket) (len : Nat) (flags : UInt32) (wantSource : Bool) :
    (s.rxRing.front = none ∧
      Received.bytes (s.resumeRecvFrom len flags wantSource).1 = [] ∧
      (s.resumeRecvFrom len flags wantSource).2 = s) ∨
    ∃ packet, s.rxRing.front = some packet ∧
      s.resumeRecvFrom len flags wantSource =
        s.consumeFront packet len (peeks flags) wantSource := by
  unfold Socket.resumeRecvFrom
  cases front : s.rxRing.front with
  | none => exact Or.inl ⟨rfl, rfl, rfl⟩
  | some packet => exact Or.inr ⟨packet, rfl, rfl⟩

theorem after_idle {h : Stream} (law : IsByteStream h) {result : Socket.Received × Socket}
    (bytes : Received.bytes result.1 = []) (same : result.2 = h.socket) (flags : UInt32) :
    IsByteStream (h.after result flags) := by
  rw [isByteStream_iff]
  unfold after
  dsimp only
  rw [bytes, same, List.append_nil, ite_self]
  exact law.kept

theorem after_consumeFront {h : Stream} (law : IsByteStream h) {packet : ReceivedPacket}
    (front : h.socket.rxRing.front = some packet) (len : Nat) (flags : UInt32)
    (wantSource : Bool) :
    IsByteStream (h.after (h.socket.consumeFront packet len (peeks flags) wantSource) flags) ↔
      h.TakesWhole len flags := by
  rw [isByteStream_iff]
  unfold after TakesWhole
  by_cases peek : peeks flags = true
  · have same : pendingBytes (h.socket.consumeFront packet len (peeks flags) wantSource).2 =
        pendingBytes h.socket := by
      rw [peek]
      rfl
    dsimp only
    rw [if_pos peek, same]
    simp [law.kept, peek]
  · have popped : pendingBytes (h.socket.consumeFront packet len (peeks flags) wantSource).2 =
        pendingBytes { h.socket with rxRing := h.socket.rxRing.pop } := by
      rw [Bool.not_eq_true] at peek
      rw [peek]
      rfl
    dsimp only
    rw [if_neg peek, popped, ← law.kept, pendingBytes_front front]
    rw [List.append_assoc, List.append_cancel_left_eq]
    unfold Socket.consumeFront Received.bytes
    rw [List.append_left_inj]
    simp [peek, front, List.take_eq_self_iff]

theorem after_recvFrom {h : Stream} (law : IsByteStream h) (len : Nat) (flags : UInt32)
    (wantSource : Bool) (up : h.socket.state = .connected) :
    IsByteStream (h.after (h.socket.recvFrom true len flags wantSource) flags) ↔
      (h.socket.shutdownRead = false → h.TakesWhole len flags) := by
  rcases recvFrom_cases h.socket len flags wantSource up with
    ⟨idle, bytes, same⟩ | ⟨packet, live, front, taken⟩
  · refine iff_of_true (after_idle law bytes same flags) ?_
    intro live _ packet first
    rcases idle with shut | none
    · rw [shut] at live
      cases live
    · rw [none] at first
      cases first
  · rw [taken, after_consumeFront law front]
    simp [live]

theorem after_resumeRecvFrom {h : Stream} (law : IsByteStream h) (len : Nat) (flags : UInt32)
    (wantSource : Bool) :
    IsByteStream (h.after (h.socket.resumeRecvFrom len flags wantSource) flags) ↔
      h.TakesWhole len flags := by
  rcases resumeRecvFrom_cases h.socket len flags wantSource with
    ⟨none, bytes, same⟩ | ⟨packet, front, taken⟩
  · refine iff_of_true (after_idle law bytes same flags) ?_
    intro _ packet first
    rw [none] at first
    cases first
  · rw [taken, after_consumeFront law front]

theorem recvFrom_state {s : Socket} (up : s.state = .connected) (len : Nat) (flags : UInt32)
    (wantSource : Bool) : (s.recvFrom true len flags wantSource).2.state = .connected := by
  rcases recvFrom_cases s len flags wantSource up with ⟨_, _, same⟩ | ⟨packet, _, _, taken⟩
  · rw [same, up]
  · rw [taken]
    exact up

theorem resumeRecvFrom_state {s : Socket} (up : s.state = .connected) (len : Nat)
    (flags : UInt32) (wantSource : Bool) :
    (s.resumeRecvFrom len flags wantSource).2.state = .connected := by
  rcases resumeRecvFrom_cases s len flags wantSource with ⟨_, _, same⟩ | ⟨packet, _, taken⟩
  · rw [same, up]
  · rw [taken]
    exact up

theorem step_state {h : Stream} (up : h.socket.state = .connected) (event : Event) :
    (h.step event).socket.state = .connected := by
  cases event with
  | incomingData payload source => exact up
  | recvFrom len flags => exact recvFrom_state up len flags true
  | recv len flags =>
      simp only [step, after, Socket.recv, if_pos up]
      exact recvFrom_state up len flags false
  | read len =>
      simp only [step, after, Socket.recv, if_pos up]
      exact recvFrom_state up len 0 false
  | resume len flags wantSource => exact resumeRecvFrom_state up len flags wantSource

theorem step_isByteStream_iff {h : Stream} (up : h.socket.state = .connected) (event : Event)
    (inside : h.InDomain event) (law : IsByteStream h) :
    IsByteStream (h.step event) ↔ h.ReadsWhole event := by
  cases event with
  | incomingData payload source =>
      have pending := pendingBytes_incomingData h.socket source inside.1 inside.2
      have kept : IsByteStream (h.step (.incomingData payload source)) := by
        rw [isByteStream_iff]
        unfold step
        dsimp only
        rw [pending, ← List.append_assoc, law.kept]
      exact iff_of_true kept trivial
  | recvFrom len flags => exact after_recvFrom law len flags true up
  | recv len flags =>
      simp only [step, Socket.recv, if_pos up]
      exact after_recvFrom law len flags false up
  | read len =>
      simp only [step, Socket.recv, if_pos up]
      exact after_recvFrom law len 0 false up
  | resume len flags wantSource => exact after_resumeRecvFrom law len flags wantSource

/-- A connected socket obeys the stream law along a run exactly if no non-peeking
read of the run has a buffer shorter than the packet it takes, at once or after a
wait. -/
theorem isByteStream_iff_readsWhole (s : Socket) (up : s.state = .connected) {events : List Event}
    (domain : StepsMeet step InDomain (start s) events) :
    (∀ h ∈ visited step (start s) events, IsByteStream h) ↔
      StepsMeet step ReadsWhole (start s) events := by
  have keep : ∀ h event, h.socket.state = .connected → InDomain h event →
      (h.step event).socket.state = .connected := fun h event open_ _ => step_state open_ event
  have exact_ : ∀ h event, h.socket.state = .connected → InDomain h event → IsByteStream h →
      (IsByteStream (h.step event) ↔ ReadsWhole h event) :=
    fun h event open_ inside law => step_isByteStream_iff open_ event inside law
  have inv : (fun h : Stream => h.socket.state = .connected) (start s) := up
  apply visited_iff_stepsMeet_of keep exact_ inv _ domain
  rw [isByteStream_iff]
  rfl

def connectedStream : Socket := { Socket.new .stream .tcp with state := .connected }

def shortRead : List Event :=
  [.recv 1 0, .incomingData [1, 2, 3] default, .resume 1 0 false, .recv 1 Socket.msgDontWait]

theorem shortRead_inDomain : StepsMeet step InDomain (start connectedStream) shortRead := by
  simp only [shortRead, StepsMeet, InDomain]
  decide

/-- The second read finds nothing: two bytes of the segment are gone. -/
theorem shortRead_not_isByteStream :
    connectedStream.state = .connected ∧ connectedStream.type = .stream ∧
      StepsMeet step InDomain (start connectedStream) shortRead ∧
      ¬ ∀ h ∈ visited step (start connectedStream) shortRead, IsByteStream h := by
  refine ⟨rfl, rfl, shortRead_inDomain, ?_⟩
  intro all
  have last := (all _ (foldl_mem_visited (start connectedStream) shortRead)).drained (by decide)
  revert last
  decide

theorem isByteStream_iff_readsWhole_shortRead :
    (∀ h ∈ visited step (start connectedStream) shortRead, IsByteStream h) ↔
      StepsMeet step ReadsWhole (start connectedStream) shortRead :=
  isByteStream_iff_readsWhole connectedStream rfl shortRead_inDomain

end Stream

end RyuLdn.ProxySocketStream
