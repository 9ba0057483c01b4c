import RyuLdn.TcpSendQueue
import Mathlib.Data.List.Nodup

/-! What becomes of the packets in the send queue. The queue is always the newest
part of what was accepted, so order is kept as long as the packet being written
stays where the sender thread will look for it. A head-drop can take it away:
`keepsPlace` is the condition on a step that rules this out, and `Flow` says what
then holds at each place of the sender thread. -/
namespace RyuLdn.TcpSendQueue

open ProtocolCodec ProtocolTypes TcpSocket TcpClient TransitionSystem
open TcpClient.Client (encodeProxyData)

def Link.betweenPieces (l : Link) : Bool :=
  match l.phase with
  | .top | .fetch => 0 < l.sendOffset
  | _ => false

/-- `send_proxy_data` would drop the head of the queue. -/
def Link.dropsHead (l : Link) (info : ProxyInfo) (payload : List UInt8) : Bool :=
  (encodeProxyData info payload).1 = .success &&
    l.queue.overflows (encodeProxyData info payload).2.length

/-- The answer to the write leaves `temp_data` part-written. -/
def Link.leavesPiece (l : Link) (tempData : Queued) (reply : WriteReply) : Bool :=
  match l.socket.send (l.toSend tempData) reply with
  | (.success, sent, _) =>
      0 < (l.sendOffset + sent) % 2 ^ 64 &&
        (l.sendOffset + sent) % 2 ^ 64 < tempData.data.length
  | (.wouldBlock, _, _) => 0 < l.sendOffset
  | _ => false

/-- No step takes a part-written packet out of the sender thread's reach: none is
dropped between two pieces, and none that was dropped during a write is left unfinished. -/
def keepsPlace (l : Link) : Action → Bool
  | .sendProxyData info payload _ => !(l.betweenPieces && l.dropsHead info payload)
  | .senderSend reply _ =>
      match l.phase with
      | .send tempData =>
          !(l.leavesPiece tempData reply) || l.queue.packets.head? = some tempData
      | _ => true
  | _ => true

def Link.Untouched (l : Link) (p : Queued) : Prop := ∀ c ∈ l.cells, c.packet ≠ p.id

/-- The next bytes of the queue to be written are those of `p`. -/
def Link.NextUp (l : Link) (p : Queued) : Prop :=
  match l.phase with
  | .top | .fetch => l.queue.packets.head? = some p
  | .send tempData => tempData = p
  | .pop => False
  | .stopped => True

/-- Each accepted packet is written completely, once and in the order of acceptance;
or it is the one being written; or nothing of it is written. And `to_send` is the number
of bytes left. -/
structure Link.Orderly (l : Link) : Prop where
  distinct : (l.accepted.map Queued.id).Nodup
  written : ∃ (written : List Queued) (inFlight : Option Queued),
    (written ++ inFlight.toList).Sublist l.accepted ∧
    l.cells = written.flatMap Queued.cells ++
      (inFlight.toList.flatMap Queued.cells).take l.sendOffset ∧
    (∀ p ∈ inFlight, 0 < l.sendOffset ∧ l.sendOffset < p.data.length ∧ l.NextUp p) ∧
    ∀ p ∈ l.accepted, p ∈ written ∨ p ∈ inFlight ∨ l.Untouched p
  noUnderflow : ∀ tempData, l.phase = .send tempData →
    l.sendOffset ≤ tempData.data.length ∧
      l.toSend tempData = tempData.data.length - l.sendOffset

/-- What has left the queue, `past`, holds everything written; while a packet is sent or
about to be popped, it may still be the head of the queue. -/
def Link.Placed (l : Link) (written : List Queued) (inFlight : Option Queued)
    (past : List Queued) : Prop :=
  match l.phase with
  | .top | .fetch =>
      written.Sublist past ∧ (inFlight = none → l.sendOffset = 0) ∧
        ∀ p ∈ inFlight, l.queue.packets.head? = some p
  | .send tempData =>
      (written ++ [tempData]).Sublist (past ++ l.queue.packets.take 1) ∧
        (inFlight = none → l.sendOffset = 0) ∧ ∀ p ∈ inFlight, p = tempData
  | .pop => written.Sublist (past ++ l.queue.packets.take 1) ∧ inFlight = none
  | .stopped => (written ++ inFlight.toList).Sublist l.accepted

structure Link.Flow (l : Link) (written : List Queued) (inFlight : Option Queued) : Prop where
  ids : l.accepted.map Queued.id = List.range l.accepted.length
  placed : ∃ past, l.accepted = past ++ l.queue.packets ∧ l.Placed written inFlight past
  cells : l.cells = written.flatMap Queued.cells ++
    (inFlight.toList.flatMap Queued.cells).take l.sendOffset
  begun : ∀ p ∈ inFlight, 0 < l.sendOffset ∧ l.sendOffset < p.data.length

namespace Link.Flow

variable {l : Link} {written : List Queued} {inFlight : Option Queued}

theorem sublist_accepted (flow : l.Flow written inFlight) :
    (written ++ inFlight.toList).Sublist l.accepted := by
  obtain ⟨past, split, placed⟩ := flow.placed
  unfold Placed at placed
  have head : ∀ rest : Option Queued, (∀ p ∈ rest, l.queue.packets.head? = some p) →
      rest.toList.Sublist l.queue.packets := by
    intro rest front
    cases rest with
    | none => simp
    | some p => simpa using List.mem_of_mem_head? (front p rfl)
  cases place : l.phase with
  | stopped => simpa [place] using placed
  | pop =>
      simp only [place] at placed
      rw [placed.2, split]
      simpa using placed.1.trans ((List.take_sublist 1 _).append_left past)
  | send tempData =>
      simp only [place] at placed
      have one : inFlight.toList.Sublist [tempData] := by
        cases inFlight with
        | none => simp
        | some p => simp [placed.2.2 p rfl]
      rw [split]
      exact (one.append_left written).trans
        (placed.1.trans ((List.take_sublist 1 _).append_left past))
  | top =>
      simp only [place] at placed
      rw [split]
      exact placed.1.append (head inFlight placed.2.2)
  | fetch =>
      simp only [place] at placed
      rw [split]
      exact placed.1.append (head inFlight placed.2.2)

theorem nextUp (flow : l.Flow written inFlight) {p : Queued} (flight : p ∈ inFlight) :
    l.NextUp p := by
  obtain ⟨past, split, placed⟩ := flow.placed
  unfold Placed at placed
  unfold NextUp
  cases place : l.phase with
  | stopped => trivial
  | pop =>
      simp only [place] at placed
      rw [placed.2] at flight
      cases flight
  | send tempData =>
      simp only [place] at placed
      exact (placed.2.2 p flight).symm
  | top =>
      simp only [place] at placed
      exact placed.2.2 p flight
  | fetch =>
      simp only [place] at placed
      exact placed.2.2 p flight

theorem sendOffset_le (flow : l.Flow written inFlight) {tempData : Queued}
    (place : l.phase = .send tempData) : l.sendOffset ≤ tempData.data.length := by
  obtain ⟨past, split, placed⟩ := flow.placed
  simp only [Placed, place] at placed
  cases inFlight with
  | none => simp [placed.2.1 rfl]
  | some p =>
      rw [← placed.2.2 p rfl]
      exact (flow.begun p rfl).2.le

theorem toSend_eq (flow : l.Flow written inFlight) {tempData : Queued}
    (place : l.phase = .send tempData) :
    l.toSend tempData = tempData.data.length - l.sendOffset := by
  have bound := flow.sendOffset_le place
  have small := tempData.fits
  unfold sendBufferSize at small
  unfold toSend
  omega

theorem untouched (flow : l.Flow written inFlight) {p : Queued} (known : p ∈ l.accepted)
    (other : p ∉ written ++ inFlight.toList) : l.Untouched p := by
  intro c present same
  have owner : ∃ q ∈ written ++ inFlight.toList, c.packet = q.id := by
    have cellOf : ∀ q : Queued, ∀ c ∈ q.cells, c.packet = q.id := by
      intro q c present
      obtain ⟨index, bound, rfl⟩ := List.mem_mapIdx.mp present
      rfl
    rw [flow.cells, List.mem_append] at present
    rcases present with done | part
    · obtain ⟨q, inside, present⟩ := List.mem_flatMap.mp done
      exact ⟨q, List.mem_append_left _ inside, cellOf q c present⟩
    · obtain ⟨q, inside, present⟩ := List.mem_flatMap.mp (List.mem_of_mem_take part)
      exact ⟨q, List.mem_append_right _ inside, cellOf q c present⟩
  obtain ⟨q, inside, named⟩ := owner
  have nodup : (l.accepted.map Queued.id).Nodup := by
    rw [flow.ids]
    exact List.nodup_range
  have equal : p = q := List.inj_on_of_nodup_map nodup known
    (flow.sublist_accepted.subset inside) (same.symm.trans named)
  exact other (equal ▸ inside)

theorem orderly (flow : l.Flow written inFlight) : l.Orderly where
  distinct := by
    rw [flow.ids]
    exact List.nodup_range
  written := by
    refine ⟨written, inFlight, flow.sublist_accepted, flow.cells, ?_, ?_⟩
    · intro p flight
      exact ⟨(flow.begun p flight).1, (flow.begun p flight).2, flow.nextUp flight⟩
    · intro p known
      by_cases touched : p ∈ written ++ inFlight.toList
      · rcases List.mem_append.mp touched with done | part
        · exact Or.inl done
        · exact Or.inr (Or.inl (Option.mem_toList.mp part))
      · exact Or.inr (Or.inr (flow.untouched known touched))
  noUnderflow := by
    intro tempData place
    exact ⟨flow.sendOffset_le place, flow.toSend_eq place⟩

theorem of_sameQueue {next : Link} (same : l.SameQueue next) (flow : l.Flow written inFlight) :
    next.Flow written inFlight := by
  obtain ⟨accepted, queue, phase, offset, cells⟩ := same
  obtain ⟨past, split, placed⟩ := flow.placed
  constructor
  · rw [accepted]
    exact flow.ids
  · refine ⟨past, by rw [accepted, queue, split], ?_⟩
    unfold Placed at placed ⊢
    rw [accepted, queue, phase, offset]
    exact placed
  · rw [cells, offset]
    exact flow.cells
  · rw [offset]
    exact flow.begun

theorem accept (flow : l.Flow written inFlight) {p : Queued} (fresh : p.id = l.accepted.length)
    (safe : (l.betweenPieces && l.queue.overflows p.data.length) = false) :
    (l.accept p).Flow written inFlight := by
  obtain ⟨past, split, placed⟩ := flow.placed
  obtain ⟨dropped, kept, need⟩ := l.queue.makeRoom_packets p.data.length
  have packets : (l.accept p).queue.packets = l.queue.packets.drop dropped ++ [p] := by
    simp [Link.accept, kept]
  have window : (past ++ l.queue.packets.take 1).Sublist
      ((past ++ l.queue.packets.take dropped) ++ (l.accept p).queue.packets.take 1) := by
    rw [packets, List.append_assoc]
    apply List.Sublist.append_left
    cases dropped with
    | zero => cases l.queue.packets <;> simp
    | succ dropped => cases l.queue.packets <;> simp
  constructor
  · simp [Link.accept, flow.ids, fresh, List.range_succ]
  · refine ⟨past ++ l.queue.packets.take dropped, ?_, ?_⟩
    · rw [packets, List.append_assoc, ← List.append_assoc (l.queue.packets.take dropped),
        List.take_append_drop, ← List.append_assoc, ← split]
      rfl
    · have front : (0 < l.sendOffset → l.betweenPieces = true) → ∀ q ∈ inFlight,
          l.queue.packets.head? = some q → (l.accept p).queue.packets.head? = some q := by
        intro between q flight head
        have none : dropped = 0 := by
          rcases need with zero | full
          · exact zero
          · rw [full, between (flow.begun q flight).1] at safe
            cases safe
        rw [packets, none, List.drop_zero, List.head?_append, head]
        rfl
      have phase : (l.accept p).phase = l.phase := rfl
      unfold Placed at placed ⊢
      rw [phase]
      cases place : l.phase with
      | top =>
          simp only [place] at placed
          refine ⟨placed.1.trans (List.sublist_append_left _ _), placed.2.1, ?_⟩
          intro q flight
          exact front (by simp [betweenPieces, place]) q flight (placed.2.2 q flight)
      | fetch =>
          simp only [place] at placed
          refine ⟨placed.1.trans (List.sublist_append_left _ _), placed.2.1, ?_⟩
          intro q flight
          exact front (by simp [betweenPieces, place]) q flight (placed.2.2 q flight)
      | send tempData =>
          simp only [place] at placed
          exact ⟨placed.1.trans window, placed.2⟩
      | pop =>
          simp only [place] at placed
          exact ⟨placed.1.trans window, placed.2⟩
      | stopped =>
          simp only [place] at placed
          exact placed.trans (List.sublist_append_left _ _)
  · exact flow.cells
  · exact flow.begun

theorem popStale (flow : l.Flow written inFlight) (between : l.phase = .top ∨ l.phase = .fetch)
    (unsent : l.sendOffset = 0) :
    Flow { l with queue := l.queue.pop, phase := .top } written inFlight := by
  obtain ⟨past, split, placed⟩ := flow.placed
  have idle : inFlight = none := by
    cases inFlight with
    | none => rfl
    | some p =>
        have := (flow.begun p rfl).1
        omega
  have before : written.Sublist past := by
    rcases between with place | place
    all_goals
      simp only [Placed, place] at placed
      exact placed.1
  refine ⟨flow.ids, ⟨past ++ l.queue.packets.take 1, ?_, ?_⟩, flow.cells, flow.begun⟩
  · rw [SendQueue.pop_packets, ← List.drop_one, List.append_assoc, List.take_append_drop]
    exact split
  · exact ⟨before.trans (List.sublist_append_left _ _), fun _ => unsent, by simp [idle]⟩

theorem senderTop (flow : l.Flow written inFlight) (place : l.phase = .top) {nowMs : Nat}
    {next : Link} (taken : l.senderTop nowMs = some next) : next.Flow written inFlight := by
  have fetching : Flow { l with phase := .fetch } written inFlight := by
    obtain ⟨past, split, placed⟩ := flow.placed
    refine ⟨flow.ids, ⟨past, split, ?_⟩, flow.cells, flow.begun⟩
    simpa only [Placed, place] using placed
  unfold Link.senderTop at taken
  split_ifs at taken with halted unsent
  · cases taken
    exact ⟨flow.ids, ⟨_, flow.placed.choose_spec.1, flow.sublist_accepted⟩, flow.cells, flow.begun⟩
  · split at taken
    · cases taken
    · split_ifs at taken with old
      · cases taken
        have popped := flow.popStale (Or.inl place) unsent
        rwa [← place] at popped
      · cases taken
        exact fetching
  · cases taken
    exact fetching

theorem senderFetch (flow : l.Flow written inFlight) (place : l.phase = .fetch) (nowMs : Nat) :
    (l.senderFetch nowMs).Flow written inFlight := by
  obtain ⟨past, split, placed⟩ := flow.placed
  simp only [Placed, place] at placed
  unfold Link.senderFetch
  cases waiting : l.queue.packets with
  | nil =>
      have idle : inFlight = none := by
        cases inFlight with
        | none => rfl
        | some p => simpa [waiting] using placed.2.2 p rfl
      refine ⟨flow.ids, ⟨past, split, placed.1, fun _ => rfl, by simp [idle]⟩, ?_, by simp [idle]⟩
      have cells := flow.cells
      simpa [idle] using cells
  | cons p rest =>
      dsimp only
      split_ifs with old
      · exact flow.popStale (Or.inr place) old.1
      · refine ⟨flow.ids, ⟨past, split, ?_, placed.2.1, ?_⟩, flow.cells, flow.begun⟩
        · rw [waiting]
          simpa using placed.1
        · intro q flight
          have head := placed.2.2 q flight
          rw [waiting] at head
          exact (Option.some.inj head).symm

theorem senderPop (flow : l.Flow written inFlight) (place : l.phase = .pop) :
    l.senderPop.Flow written inFlight := by
  obtain ⟨past, split, placed⟩ := flow.placed
  simp only [Placed, place] at placed
  obtain ⟨before, idle⟩ := placed
  refine ⟨flow.ids, ⟨past ++ l.queue.packets.take 1, ?_, before, fun _ => rfl, by simp [idle]⟩,
    ?_, by simp [idle]⟩
  · rw [Link.senderPop, SendQueue.pop_packets, ← List.drop_one, List.append_assoc,
      List.take_append_drop]
    exact split
  · have cells := flow.cells
    simpa [idle, Link.senderPop] using cells

theorem closeDown (flow : l.Flow written inFlight) (place : l.phase = .stopped) :
    l.closeDown.Flow written inFlight := by
  have kept := flow.sublist_accepted
  refine ⟨flow.ids, ⟨l.accepted, (List.append_nil _).symm, ?_⟩, flow.cells, flow.begun⟩
  have same : l.closeDown.phase = .stopped := place
  unfold Placed
  rw [same]
  exact kept

end Link.Flow

theorem Queued.length_cells (p : Queued) : p.cells.length = p.data.length := List.length_mapIdx

/-- The first `count` bytes after `send_offset` are written. -/
def Link.wrote (l : Link) (p : Queued) (count : Nat) : Link :=
  { l with
    sendOffset := l.sendOffset + count
    phase := if p.data.length ≤ l.sendOffset + count then .pop else .top
    wire := l.wire ++ (p.data.drop l.sendOffset).take count
    cells := l.cells ++ (p.cells.drop l.sendOffset).take count }

theorem Link.senderSend_cases {l next : Link} {tempData : Queued} {reply : WriteReply}
    {behind : List UInt8} (within : l.sendOffset ≤ tempData.data.length)
    (taken : l.senderSend tempData reply behind = some next) :
    (∃ count, l.sendOffset + count ≤ tempData.data.length ∧ next = l.wrote tempData count ∧
        l.leavesPiece tempData reply =
          (decide (0 < l.sendOffset + count) &&
            decide (l.sendOffset + count < tempData.data.length))) ∨
      (next = { l with phase := .top } ∧
        l.leavesPiece tempData reply = decide (0 < l.sendOffset)) ∨
      ∃ lost : Socket, lost.connected = false ∧
        next = { l with socket := lost, phase := .stopped } := by
  have small := tempData.fits
  unfold sendBufferSize at small
  have left : l.toSend tempData = tempData.data.length - l.sendOffset := by
    unfold toSend
    omega
  revert taken
  unfold senderSend leavesPiece
  rcases l.socket.send_cases (l.toSend tempData) reply with
    ⟨count, most, sent⟩ | sent | ⟨result, lost, sent, notSuccess, notBlocked, gone⟩
  · have inside : l.sendOffset + count ≤ tempData.data.length := by omega
    have wrap : (l.sendOffset + count) % 2 ^ 64 = l.sendOffset + count :=
      Nat.mod_eq_of_lt (by omega)
    rw [sent]
    simp only [wrap]
    rw [if_neg (by rw [List.length_append]; omega)]
    intro taken
    refine Or.inl ⟨count, inside, ?_, rfl⟩
    rw [← Option.some.inj taken, wrote]
    congr 1
    · rw [List.drop_append_of_le_length within,
        List.take_append_of_le_length (by rw [List.length_drop]; omega)]
    · rw [addressed, List.mapIdx_append, ← addressed, ← Queued.cells,
        List.drop_append_of_le_length (by rw [tempData.length_cells]; exact within),
        List.take_append_of_le_length (by rw [List.length_drop, tempData.length_cells]; omega)]
  · rw [sent]
    intro taken
    exact Or.inr (Or.inl ⟨(Option.some.inj taken).symm, rfl⟩)
  · rw [sent]
    intro taken
    refine Or.inr (Or.inr ⟨lost, gone, ?_⟩)
    cases result <;> simp_all

namespace Link.Flow

variable {l : Link} {written : List Queued} {inFlight : Option Queued} {tempData : Queued}

theorem cells_sending (flow : l.Flow written inFlight) (place : l.phase = .send tempData) :
    l.cells = written.flatMap Queued.cells ++ tempData.cells.take l.sendOffset := by
  obtain ⟨past, split, placed⟩ := flow.placed
  simp only [Placed, place] at placed
  rw [flow.cells]
  cases inFlight with
  | none => simp [placed.2.1 rfl]
  | some p => simp [placed.2.2 p rfl]

theorem cells_wrote (flow : l.Flow written inFlight) (place : l.phase = .send tempData)
    (count : Nat) :
    (l.wrote tempData count).cells =
      written.flatMap Queued.cells ++ tempData.cells.take (l.sendOffset + count) := by
  rw [wrote, flow.cells_sending place, List.append_assoc, List.take_add]

theorem finish (flow : l.Flow written inFlight) (place : l.phase = .send tempData) {count : Nat}
    (all : l.sendOffset + count = tempData.data.length) :
    (l.wrote tempData count).Flow (written ++ [tempData]) none := by
  obtain ⟨past, split, placed⟩ := flow.placed
  simp only [Placed, place] at placed
  refine ⟨flow.ids, ⟨past, split, ?_⟩, ?_, by simp⟩
  · have phase : (l.wrote tempData count).phase = .pop := if_pos all.ge
    unfold Placed
    rw [phase]
    exact ⟨placed.1, rfl⟩
  · rw [flow.cells_wrote place, all, ← tempData.length_cells, List.take_length]
    simp

theorem sublist_past {past : List Queued} {p : Queued} {packets : List Queued}
    (window : (written ++ [p]).Sublist (past ++ packets.take 1)) : written.Sublist past := by
  cases packets with
  | nil => exact (List.sublist_append_left _ _).trans (by simpa using window)
  | cons q rest =>
      have turned := window.reverse.tail
      simpa using turned.reverse

theorem unfinished (flow : l.Flow written inFlight) (place : l.phase = .send tempData)
    (next : Link) (top : next.phase = .top) (accepted : next.accepted = l.accepted)
    (queue : next.queue = l.queue)
    (cells : next.cells = written.flatMap Queued.cells ++ tempData.cells.take next.sendOffset)
    (short : next.sendOffset ≠ 0 → next.sendOffset < tempData.data.length)
    (front : next.sendOffset ≠ 0 → l.queue.packets.head? = some tempData) :
    next.Flow written (if next.sendOffset = 0 then none else some tempData) := by
  obtain ⟨past, split, placed⟩ := flow.placed
  simp only [Placed, place] at placed
  refine ⟨by rw [accepted]; exact flow.ids, ⟨past, by rw [accepted, queue, split], ?_⟩, ?_, ?_⟩
  · unfold Placed
    rw [top, queue]
    refine ⟨sublist_past placed.1, ?_, ?_⟩
    · simp
    · intro p flight
      split_ifs at flight with zero
      · cases flight
      · cases flight
        exact front zero
  · rw [cells]
    split_ifs with zero
    · simp [zero]
    · simp
  · intro p flight
    split_ifs at flight with zero
    · cases flight
    · cases flight
      exact ⟨Nat.pos_of_ne_zero zero, short zero⟩

theorem inFlight_sending (flow : l.Flow written inFlight) (place : l.phase = .send tempData) :
    inFlight = if l.sendOffset = 0 then none else some tempData := by
  obtain ⟨past, split, placed⟩ := flow.placed
  simp only [Placed, place] at placed
  cases inFlight with
  | none => simp [placed.2.1 rfl]
  | some p =>
      have started := (flow.begun p rfl).1
      simp [placed.2.2 p rfl, started.ne']

theorem senderSend (flow : l.Flow written inFlight) (place : l.phase = .send tempData)
    {reply : WriteReply} {behind : List UInt8} {next : Link}
    (taken : l.senderSend tempData reply behind = some next)
    (safe : l.leavesPiece tempData reply = true → l.queue.packets.head? = some tempData) :
    (∃ count, l.sendOffset + count = tempData.data.length ∧ next = l.wrote tempData count ∧
        next.Flow (written ++ [tempData]) none) ∨
      (∃ count, l.sendOffset + count < tempData.data.length ∧ next = l.wrote tempData count ∧
        next.Flow written (if l.sendOffset + count = 0 then none else some tempData)) ∨
      (next = { l with phase := .top } ∧ next.Flow written inFlight) ∨
      ∃ lost : Socket, lost.connected = false ∧
        next = { l with socket := lost, phase := .stopped } ∧ next.Flow written inFlight := by
  rcases senderSend_cases (flow.sendOffset_le place) taken with
    ⟨count, within, rfl, leaves⟩ | ⟨rfl, leaves⟩ | ⟨lost, gone, rfl⟩
  · rcases within.eq_or_lt with all | short
    · exact Or.inl ⟨count, all, rfl, flow.finish place all⟩
    · refine Or.inr (Or.inl ⟨count, short, rfl, ?_⟩)
      have top : (l.wrote tempData count).phase = .top := if_neg (by omega)
      apply flow.unfinished place _ top rfl rfl (flow.cells_wrote place count) (fun _ => short)
      intro some
      apply safe
      have started : 0 < l.sendOffset + count := Nat.pos_of_ne_zero some
      simp [leaves, started, short]
  · refine Or.inr (Or.inr (Or.inl ⟨rfl, ?_⟩))
    rw [flow.inFlight_sending place]
    apply flow.unfinished place { l with phase := .top } rfl rfl rfl (flow.cells_sending place)
    · intro some
      have part := flow.begun tempData (by rw [flow.inFlight_sending place, if_neg some]; rfl)
      exact part.2
    · intro some
      apply safe
      simpa [leaves] using Nat.pos_of_ne_zero some
  · refine Or.inr (Or.inr (Or.inr ⟨lost, gone, rfl, ?_⟩))
    exact ⟨flow.ids, ⟨_, flow.placed.choose_spec.1, flow.sublist_accepted⟩, flow.cells, flow.begun⟩

end Link.Flow

theorem Link.directStart_sameQueue (l : Link) (prepare : List UInt8 → Client.Prepared) :
    l.SameQueue (l.directStart prepare) := by
  unfold directStart
  cases prepare l.sendBuffer <;> exact ⟨rfl, rfl, rfl, rfl, rfl⟩

theorem Link.directWrite_sameQueue (l : Link) (data : List UInt8) (totalSent : Nat)
    (reply : WriteReply) : l.SameQueue (l.directWrite data totalSent reply) := by
  unfold directWrite
  obtain ⟨result, sent, socket⟩ := l.socket.send (data.length - totalSent) reply
  cases result <;> exact ⟨rfl, rfl, rfl, rfl, rfl⟩

theorem Link.directPoll_sameQueue (l : Link) (data : List UInt8) (totalSent : Nat)
    (reply : PollReply) : l.SameQueue (l.directPoll data totalSent reply) := by
  unfold directPoll
  obtain ⟨result, socket⟩ := l.socket.waitReady reply
  cases result <;> exact ⟨rfl, rfl, rfl, rfl, rfl⟩

theorem Link.Flow.quiet {l next : Link} {written : List Queued} {inFlight : Option Queued}
    {a : Action} (flow : l.Flow written inFlight) (taken : step l a = some next)
    (safe : keepsPlace l a = true) (other : ∀ reply behind, a ≠ .senderSend reply behind) :
    next.Flow written inFlight := by
  cases a with
  | sendProxyData info payload nowMs =>
      obtain ⟨-, rfl⟩ := step_sendProxyData_eq_some.mp taken
      unfold Link.sendProxyData
      split_ifs with encoded
      · apply flow.accept rfl
        simp only [keepsPlace, dropsHead] at safe
        rwa [decide_eq_true encoded, Bool.true_and, Bool.not_eq_true'] at safe
      · exact flow
  | directStart prepare =>
      obtain ⟨-, rfl⟩ := step_directStart_eq_some.mp taken
      exact flow.of_sameQueue (l.directStart_sameQueue prepare)
  | directWrite reply =>
      obtain ⟨data, totalSent, -, rfl⟩ := step_directWrite_eq_some.mp taken
      exact flow.of_sameQueue (l.directWrite_sameQueue data totalSent reply)
  | directPoll reply =>
      obtain ⟨data, totalSent, -, rfl⟩ := step_directPoll_eq_some.mp taken
      exact flow.of_sameQueue (l.directPoll_sameQueue data totalSent reply)
  | senderTop nowMs =>
      obtain ⟨place, taken⟩ := step_senderTop_eq_some.mp taken
      exact flow.senderTop place taken
  | senderFetch nowMs =>
      obtain ⟨place, rfl⟩ := step_senderFetch_eq_some.mp taken
      exact flow.senderFetch place nowMs
  | senderSend reply behind => exact absurd rfl (other reply behind)
  | senderPop =>
      obtain ⟨place, rfl⟩ := step_senderPop_eq_some.mp taken
      exact flow.senderPop place
  | lose =>
      rw [← Option.some.inj taken]
      exact of_sameQueue (l := l) ⟨rfl, rfl, rfl, rfl, rfl⟩ flow
  | halt =>
      rw [← Option.some.inj taken]
      exact of_sameQueue (l := l) ⟨rfl, rfl, rfl, rfl, rfl⟩ flow
  | closeDown =>
      obtain ⟨⟨stopped, -⟩, rfl⟩ := step_closeDown_eq_some.mp taken
      exact flow.closeDown stopped

theorem step_senderSend {l next : Link} {reply : WriteReply} {behind : List UInt8}
    (taken : step l (.senderSend reply behind) = some next)
    (safe : keepsPlace l (.senderSend reply behind) = true) :
    ∃ tempData, l.phase = .send tempData ∧ l.direct = none ∧
      l.senderSend tempData reply behind = some next ∧
      (l.leavesPiece tempData reply = true → l.queue.packets.head? = some tempData) := by
  obtain ⟨tempData, place, free, taken⟩ := step_senderSend_eq_some.mp taken
  refine ⟨tempData, place, free, taken, ?_⟩
  intro leaves
  simpa [keepsPlace, place, leaves] using safe

theorem step_flow {l next : Link} {a : Action}
    (taken : guarded keepsPlace step l a = some next)
    (before : ∃ written inFlight, l.Flow written inFlight) :
    ∃ written inFlight, next.Flow written inFlight := by
  obtain ⟨safe, taken⟩ := guarded_eq_some.mp taken
  obtain ⟨written, inFlight, flow⟩ := before
  by_cases write : ∃ reply behind, a = .senderSend reply behind
  · obtain ⟨reply, behind, rfl⟩ := write
    obtain ⟨tempData, place, -, taken, safe⟩ := step_senderSend taken safe
    rcases flow.senderSend place taken safe with
      ⟨_, _, _, after⟩ | ⟨_, _, _, after⟩ | ⟨_, after⟩ | ⟨_, _, _, after⟩
    all_goals exact ⟨_, _, after⟩
  · exact ⟨written, inFlight, flow.quiet taken safe (fun reply behind same => write ⟨reply, behind, same⟩)⟩

theorem start_flow (t : Client) : (start t).Flow [] none := by
  refine ⟨rfl, ⟨[], rfl, List.Sublist.refl _, fun _ => rfl, by simp⟩, rfl, by simp⟩

/-- In every run that keeps part-written packets in reach, packets are written whole,
once and in order. -/
theorem queued_packets_orderly {t : Client} {actions : List Action} {l : Link}
    (steps : run (guarded keepsPlace step) (start t) actions = some l) : l.Orderly := by
  obtain ⟨written, inFlight, flow⟩ :=
    run_invariant (fun l => ∃ written inFlight, Link.Flow l written inFlight) step_flow steps
      ⟨[], none, start_flow t⟩
  exact flow.orderly

/-- Two packets are written in three pieces, with a third accepted in between. -/
theorem queued_packets_orderly_three :
    let client := (Client.new.startUp.2.connect [0x61] false .established true).2
    let packet := fun byte => Action.sendProxyData default [byte] 0
    ∃ l, run (guarded keepsPlace step) (start client)
      [packet 1, packet 2, .senderTop 5, .senderFetch 5, .senderSend (.written 10) [], packet 3,
        .senderTop 5, .senderFetch 5, .senderSend (.written 99) [], .senderPop, .senderTop 5,
        .senderFetch 6, .senderSend (.failed .eagain) [], .senderTop 7, .senderFetch 7,
        .senderSend (.written 20) []] = some l ∧ l.Orderly := by
  intro client packet
  obtain ⟨l, steps⟩ := Option.isSome_iff_exists.mp (show (run (guarded keepsPlace step)
    (start client)
    [packet 1, packet 2, .senderTop 5, .senderFetch 5, .senderSend (.written 10) [], packet 3,
      .senderTop 5, .senderFetch 5, .senderSend (.written 99) [], .senderPop, .senderTop 5,
      .senderFetch 6, .senderSend (.failed .eagain) [], .senderTop 7, .senderFetch 7,
      .senderSend (.written 20) []]).isSome = true by decide +kernel)
  exact ⟨l, steps, queued_packets_orderly steps⟩

/-- A packet of 2048 bytes is part-written when the queue fills up. The next call drops it,
and the thread goes on at offset 1000 of the 32-byte packet behind it. -/
theorem head_drop_tears_packet :
    let client := (Client.new.startUp.2.connect [0x61] false .established true).2
    let full := Action.sendProxyData default (List.replicate 2016 0) 0
    ∃ l, run step (start client)
      ([full, .senderTop 0, .senderFetch 0, .senderSend (.written 1000) [],
        .sendProxyData default [] 0] ++ List.replicate 127 full ++
        [.senderTop 0, .senderFetch 0]) = some l ∧
      (∃ tempData, l.phase = .send tempData ∧ l.toSend tempData = 2 ^ 64 - 968) ∧
      ¬ l.Orderly := by
  intro client full
  have reached : (run step (start client)
      ([full, .senderTop 0, .senderFetch 0, .senderSend (.written 1000) [],
        .sendProxyData default [] 0] ++ List.replicate 127 full ++
        [.senderTop 0, .senderFetch 0])).map (fun l =>
          match l.phase with
          | .send p => some (l.sendOffset, p.data.length, l.toSend p)
          | _ => none) = some (some (1000, 32, 2 ^ 64 - 968)) := by decide +kernel
  obtain ⟨l, steps, seen⟩ := Option.map_eq_some_iff.mp reached
  refine ⟨l, steps, ?_⟩
  cases place : l.phase with
  | send tempData =>
      simp only [place, Option.some.injEq, Prod.mk.injEq] at seen
      obtain ⟨offset, size, left⟩ := seen
      refine ⟨⟨tempData, rfl, left⟩, ?_⟩
      intro orderly
      have bound := (orderly.noUnderflow tempData place).1
      omega
  | _ => simp [place] at seen

end RyuLdn.TcpSendQueue
