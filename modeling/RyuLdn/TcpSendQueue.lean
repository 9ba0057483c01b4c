import RyuLdn.TcpClient
import RyuLdn.TransitionSystem

/-! The send side of `TcpClient` during one connection: the callers of `send_*`,
the queue behind `send_proxy_data`, and the thread that drains it. A step is one
critical section or one system call made under `m_send_mutex`. A direct send holds
that mutex from its first write to its return, so it is part of the state.

`accepted`, `handed`, `wire` and `cells` record what happened and decide nothing. -/
namespace RyuLdn.TcpSendQueue

open ProtocolCodec ProtocolTypes TcpSocket TcpClient TransitionSystem
open TcpClient.Client (Prepared encodeProxyData overwrite)
open TcpSocket.Socket (WriteTurn)

def maxSendQueueSize : Nat := 256 * 1024

def maxQueuedPacketAgeMs : Nat := 2000

/-- An element of `m_send_queue`; `id` is its place among all accepted packets. -/
structure Queued where
  id : Nat
  timestampMs : Nat
  data : List UInt8
  fits : data.length ≤ sendBufferSize
  whole : IsPacket data
  deriving DecidableEq

def Queued.stale (p : Queued) (nowMs : Nat) : Bool :=
  p.timestampMs < nowMs && maxQueuedPacketAgeMs < nowMs - p.timestampMs

def totalSize (packets : List Queued) : Nat := (packets.map fun p => p.data.length).sum

structure SendQueue where
  packets : List Queued
  size : Nat
  exact : size = totalSize packets
  deriving DecidableEq

namespace SendQueue

def empty : SendQueue := ⟨[], 0, rfl⟩

def pop (q : SendQueue) : SendQueue where
  packets := q.packets.tail
  size := q.size - totalSize (q.packets.take 1)
  exact := by
    rw [q.exact]
    cases q.packets <;> simp [totalSize]

def push (q : SendQueue) (p : Queued) : SendQueue where
  packets := q.packets ++ [p]
  size := q.size + p.data.length
  exact := by
    rw [q.exact]
    simp [totalSize]

@[simp] theorem pop_packets (q : SendQueue) : q.pop.packets = q.packets.tail := rfl

@[simp] theorem push_packets (q : SendQueue) (p : Queued) :
    (q.push p).packets = q.packets ++ [p] := rfl

def overflows (q : SendQueue) (encodedSize : Nat) : Bool :=
  maxSendQueueSize < q.size + encodedSize

/-- The head-drop loop of `send_proxy_data`, over the packets still in the queue. -/
def makeRoomFrom (encodedSize : Nat) : List Queued → SendQueue → SendQueue
  | [], q => q
  | _ :: rest, q => if q.overflows encodedSize then makeRoomFrom encodedSize rest q.pop else q

def makeRoom (q : SendQueue) (encodedSize : Nat) : SendQueue :=
  makeRoomFrom encodedSize q.packets q

theorem makeRoom_fits {q : SendQueue} {encodedSize : Nat}
    (fits : q.overflows encodedSize = false) : q.makeRoom encodedSize = q := by
  unfold makeRoom
  cases q.packets with
  | nil => rfl
  | cons p rest => simp [makeRoomFrom, fits]

theorem makeRoomFrom_packets (encodedSize : Nat) (packets : List Queued) (q : SendQueue) :
    ∃ dropped, (makeRoomFrom encodedSize packets q).packets = q.packets.drop dropped := by
  induction packets generalizing q with
  | nil => exact ⟨0, rfl⟩
  | cons p rest ih =>
      unfold makeRoomFrom
      split
      · obtain ⟨dropped, same⟩ := ih q.pop
        refine ⟨dropped + 1, ?_⟩
        rw [same, pop_packets, ← List.drop_one, List.drop_drop, Nat.add_comm]
      · exact ⟨0, rfl⟩

theorem makeRoom_packets (q : SendQueue) (encodedSize : Nat) :
    ∃ dropped, (q.makeRoom encodedSize).packets = q.packets.drop dropped ∧
      (dropped = 0 ∨ q.overflows encodedSize = true) := by
  cases full : q.overflows encodedSize with
  | false =>
      refine ⟨0, ?_, Or.inl rfl⟩
      rw [makeRoom_fits full, List.drop_zero]
  | true =>
      obtain ⟨dropped, same⟩ := makeRoomFrom_packets encodedSize q.packets q
      exact ⟨dropped, same, Or.inr rfl⟩

end SendQueue

structure Cell where
  packet : Nat
  index : Nat
  byte : UInt8
  deriving DecidableEq

def addressed (packet : Nat) (bytes : List UInt8) : List Cell :=
  bytes.mapIdx fun index byte => ⟨packet, index, byte⟩

def Queued.cells (p : Queued) : List Cell := addressed p.id p.data

/-- Where the sender thread stands: at the loop condition, before its second look at
the queue, before the write of `temp_data`, before the pop of a packet it has written,
or behind the loop. -/
inductive Phase where
  | top
  | fetch
  | send (tempData : Queued)
  | pop
  | stopped
  deriving DecidableEq

/-- A direct send inside `send_all`; `waiting` when its last write would have blocked. -/
structure Direct where
  data : List UInt8
  totalSent : Nat
  waiting : Bool
  deriving DecidableEq

def Direct.proceed (data : List UInt8) (totalSent : Nat) : Option Direct :=
  if totalSent < data.length then some ⟨data, totalSent, false⟩ else none

structure Link where
  socket : Socket
  sendBuffer : List UInt8
  queue : SendQueue
  sendThreadRunning : Bool
  phase : Phase
  sendOffset : Nat
  direct : Option Direct
  accepted : List Queued
  handed : List (List UInt8)
  wire : List UInt8
  cells : List Cell

def start (t : Client) : Link where
  socket := t.socket
  sendBuffer := t.sendBuffer
  queue := .empty
  sendThreadRunning := true
  phase := .top
  sendOffset := 0
  direct := none
  accepted := []
  handed := []
  wire := []
  cells := []

theorem encodeProxyData_fits {info : ProxyInfo} {payload : List UInt8}
    (encoded : (encodeProxyData info payload).1 = .success) :
    (encodeProxyData info payload).2.length ≤ sendBufferSize := by
  revert encoded
  unfold encodeProxyData ProtocolRoundTrip.encodeProxyData encodeWithData
  split
  · simp
  · intro _
    simp only [List.length_append, encodeHeader_length]
    omega

theorem encodeProxyData_isPacket {info : ProxyInfo} {payload : List UInt8}
    (encoded : (encodeProxyData info payload).1 = .success) :
    IsPacket (encodeProxyData info payload).2 := by
  revert encoded
  unfold encodeProxyData ProtocolRoundTrip.encodeProxyData encodeWithData
  split
  next => simp
  next small =>
    intro _
    rw [← List.length_append, List.append_assoc]
    apply isPacket_encode
    rw [List.length_append]
    simp only [sendBufferSize, headerSize, maxPacketSize] at small ⊢
    omega

namespace Link

def accept (l : Link) (p : Queued) : Link :=
  { l with
    sendBuffer := overwrite l.sendBuffer p.data
    queue := (l.queue.makeRoom p.data.length).push p
    accepted := l.accepted ++ [p]
    handed := l.handed ++ [p.data] }

/-- `send_proxy_data` under its locks. Whether the socket was connected is asked before. -/
def sendProxyData (l : Link) (info : ProxyInfo) (payload : List UInt8) (nowMs : Nat) : Link :=
  if encoded : (encodeProxyData info payload).1 = .success then
    l.accept ⟨l.accepted.length, nowMs, (encodeProxyData info payload).2,
      encodeProxyData_fits encoded, encodeProxyData_isPacket encoded⟩
  else l

def directStart (l : Link) (prepare : List UInt8 → Prepared) : Link :=
  match prepare l.sendBuffer with
  | .ready sendBuffer data =>
      { l with
        sendBuffer := sendBuffer
        direct := Direct.proceed data 0
        handed := l.handed ++ [data] }
  | _ => l

def directWrite (l : Link) (data : List UInt8) (totalSent : Nat) (reply : WriteReply) : Link :=
  match l.socket.send (data.length - totalSent) reply with
  | (.success, sent, socket) =>
      { l with
        socket := socket
        direct := Direct.proceed data (totalSent + sent)
        wire := l.wire ++ (data.drop totalSent).take sent }
  | (.wouldBlock, _, socket) =>
      { l with socket := socket, direct := some ⟨data, totalSent, true⟩ }
  | (_, _, socket) => { l with socket := socket, direct := none }

/-- The `wait_ready` of `send_all`; anything but success ends the call. -/
def directPoll (l : Link) (data : List UInt8) (totalSent : Nat) (reply : PollReply) : Link :=
  match l.socket.waitReady reply with
  | (.success, socket) => { l with socket := socket, direct := some ⟨data, totalSent, false⟩ }
  | (_, socket) => { l with socket := socket, direct := none }

/-- Step 1 of the loop; `none` while the thread waits for the queue to fill. -/
def senderTop (l : Link) (nowMs : Nat) : Option Link :=
  if !l.sendThreadRunning then some { l with phase := .stopped }
  else if l.sendOffset = 0 then
    match l.queue.packets with
    | [] => none
    | p :: _ =>
        if p.stale nowMs then some { l with queue := l.queue.pop }
        else some { l with phase := .fetch }
  else some { l with phase := .fetch }

def senderFetch (l : Link) (nowMs : Nat) : Link :=
  match l.queue.packets with
  | [] => { l with sendOffset := 0, phase := .top }
  | p :: _ =>
      if l.sendOffset = 0 ∧ p.stale nowMs then { l with queue := l.queue.pop, phase := .top }
      else { l with phase := .send p }

/-- `temp_data.size() - send_offset`. -/
def toSend (l : Link) (tempData : Queued) : Nat :=
  (tempData.data.length + 2 ^ 64 - l.sendOffset) % 2 ^ 64

/-- Step 3 without the pop; `behind` is the memory behind `temp_data`, which a write
of too many bytes runs into. A write does not report bytes it could not read. -/
def senderSend (l : Link) (tempData : Queued) (reply : WriteReply) (behind : List UInt8) :
    Option Link :=
  match l.socket.send (l.toSend tempData) reply with
  | (.success, sent, socket) =>
      let memory := tempData.data ++ behind
      let sendOffset := (l.sendOffset + sent) % 2 ^ 64
      if memory.length < l.sendOffset + sent then none
      else
        some { l with
          socket := socket
          sendOffset := sendOffset
          phase := if tempData.data.length ≤ sendOffset then .pop else .top
          wire := l.wire ++ (memory.drop l.sendOffset).take sent
          cells := l.cells ++ ((addressed tempData.id memory).drop l.sendOffset).take sent }
  | (.wouldBlock, _, socket) => some { l with socket := socket, phase := .top }
  | (_, _, socket) => some { l with socket := socket, phase := .stopped }

def senderPop (l : Link) : Link :=
  { l with queue := l.queue.pop, sendOffset := 0, phase := .top }

/-- The rest of `disconnect`, once the thread has ended. -/
def closeDown (l : Link) : Link :=
  { l with queue := .empty, socket := if l.socket.connected then l.socket.close else l.socket }

end Link

inductive Action where
  | sendProxyData (info : ProxyInfo) (payload : List UInt8) (nowMs : Nat)
  | directStart (prepare : List UInt8 → Prepared)
  | directWrite (reply : WriteReply)
  | directPoll (reply : PollReply)
  | senderTop (nowMs : Nat)
  | senderFetch (nowMs : Nat)
  | senderSend (reply : WriteReply) (behind : List UInt8)
  | senderPop
  | lose
  | halt
  | closeDown

def step (l : Link) : Action → Option Link
  | .sendProxyData info payload nowMs =>
      if l.direct.isSome then none else some (l.sendProxyData info payload nowMs)
  | .directStart prepare => if l.direct.isSome then none else some (l.directStart prepare)
  | .directWrite reply =>
      match l.direct with
      | some ⟨data, totalSent, false⟩ => some (l.directWrite data totalSent reply)
      | _ => none
  | .directPoll reply =>
      match l.direct with
      | some ⟨data, totalSent, true⟩ => some (l.directPoll data totalSent reply)
      | _ => none
  | .senderTop nowMs => if l.phase = .top then l.senderTop nowMs else none
  | .senderFetch nowMs => if l.phase = .fetch then some (l.senderFetch nowMs) else none
  | .senderSend reply behind =>
      match l.phase with
      | .send tempData =>
          if l.direct.isSome then none else l.senderSend tempData reply behind
      | _ => none
  | .senderPop => if l.phase = .pop then some l.senderPop else none
  | .lose => some { l with socket := { l.socket with connected := false } }
  | .halt => some { l with sendThreadRunning := false }
  | .closeDown =>
      if l.phase = .stopped ∧ l.sendThreadRunning = false then some l.closeDown else none

section Taken

variable {l next : Link}

theorem step_sendProxyData_eq_some {info : ProxyInfo} {payload : List UInt8} {nowMs : Nat} :
    step l (.sendProxyData info payload nowMs) = some next ↔
      l.direct = none ∧ l.sendProxyData info payload nowMs = next := by
  cases held : l.direct <;> simp [step, held]

theorem step_directStart_eq_some {prepare : List UInt8 → Prepared} :
    step l (.directStart prepare) = some next ↔
      l.direct = none ∧ l.directStart prepare = next := by
  cases held : l.direct <;> simp [step, held]

theorem step_directWrite_eq_some {reply : WriteReply} :
    step l (.directWrite reply) = some next ↔
      ∃ data totalSent, l.direct = some ⟨data, totalSent, false⟩ ∧
        l.directWrite data totalSent reply = next := by
  constructor
  · intro taken
    simp only [step] at taken
    split at taken
    next data totalSent held => exact ⟨data, totalSent, held, Option.some.inj taken⟩
    next => cases taken
  · rintro ⟨data, totalSent, held, rfl⟩
    simp only [step, held]

theorem step_directPoll_eq_some {reply : PollReply} :
    step l (.directPoll reply) = some next ↔
      ∃ data totalSent, l.direct = some ⟨data, totalSent, true⟩ ∧
        l.directPoll data totalSent reply = next := by
  constructor
  · intro taken
    simp only [step] at taken
    split at taken
    next data totalSent held => exact ⟨data, totalSent, held, Option.some.inj taken⟩
    next => cases taken
  · rintro ⟨data, totalSent, held, rfl⟩
    simp only [step, held]

theorem step_senderTop_eq_some {nowMs : Nat} :
    step l (.senderTop nowMs) = some next ↔ l.phase = .top ∧ l.senderTop nowMs = some next := by
  rw [step, Option.ite_none_right_eq_some]

theorem step_senderFetch_eq_some {nowMs : Nat} :
    step l (.senderFetch nowMs) = some next ↔ l.phase = .fetch ∧ l.senderFetch nowMs = next := by
  rw [step, Option.ite_none_right_eq_some, Option.some_inj]

theorem step_senderSend_eq_some {reply : WriteReply} {behind : List UInt8} :
    step l (.senderSend reply behind) = some next ↔
      ∃ tempData, l.phase = .send tempData ∧ l.direct = none ∧
        l.senderSend tempData reply behind = some next := by
  constructor
  · intro taken
    simp only [step] at taken
    split at taken
    next tempData place =>
      split_ifs at taken with held
      exact ⟨tempData, place, by simpa using held, taken⟩
    next => cases taken
  · rintro ⟨tempData, place, free, taken⟩
    simp [step, place, free, taken]

theorem step_senderPop_eq_some :
    step l .senderPop = some next ↔ l.phase = .pop ∧ l.senderPop = next := by
  rw [step, Option.ite_none_right_eq_some, Option.some_inj]

theorem step_closeDown_eq_some :
    step l .closeDown = some next ↔
      (l.phase = .stopped ∧ l.sendThreadRunning = false) ∧ l.closeDown = next := by
  rw [step, Option.ite_none_right_eq_some, Option.some_inj]

end Taken

-- Nobody else writes during a direct send, so its steps are read as one call of the client.

theorem Direct.mem_proceed {data : List UInt8} {totalSent : Nat} {d : Direct}
    (more : d ∈ Direct.proceed data totalSent) :
    d = ⟨data, totalSent, false⟩ ∧ totalSent < data.length := by
  unfold proceed at more
  split_ifs at more with short
  · exact ⟨(Option.some.inj more).symm, short⟩
  · cases more

theorem Link.directWrite_cases (l : Link) (data : List UInt8) (totalSent : Nat)
    (reply : WriteReply) :
    (∃ sent ≤ data.length - totalSent,
        (l.socket.send (data.length - totalSent) reply).2.1 = sent ∧
        l.directWrite data totalSent reply =
          { l with
            direct := Direct.proceed data (totalSent + sent)
            wire := l.wire ++ (data.drop totalSent).take sent }) ∨
      l.directWrite data totalSent reply = { l with direct := some ⟨data, totalSent, true⟩ } ∨
      ∃ lost : Socket, lost.connected = false ∧
        l.directWrite data totalSent reply = { l with socket := lost, direct := none } := by
  unfold directWrite
  rcases l.socket.send_cases (data.length - totalSent) reply with
    ⟨sent, most, done⟩ | done | ⟨result, lost, done, notSuccess, notBlocked, gone⟩
  · rw [done]
    exact Or.inl ⟨sent, most, rfl, rfl⟩
  · rw [done]
    exact Or.inr (Or.inl rfl)
  · rw [done]
    refine Or.inr (Or.inr ⟨lost, gone, ?_⟩)
    cases result <;> simp_all

theorem Link.directPoll_cases (l : Link) (data : List UInt8) (totalSent : Nat)
    (reply : PollReply) :
    l.directPoll data totalSent reply = { l with direct := some ⟨data, totalSent, false⟩ } ∨
      ∃ socket : Socket, (socket = l.socket ∨ socket.connected = false) ∧
        (l.socket.waitReady reply).1 ≠ .success ∧ (l.socket.waitReady reply).2 = socket ∧
        l.directPoll data totalSent reply = { l with socket := socket, direct := none } := by
  cases reply with
  | failed errno =>
      refine Or.inr ⟨l.socket, Or.inl rfl, ?_, rfl, ?_⟩
      · cases errno <;> simp [Socket.waitReady, PollErrno.toErrno, errnoToResult]
      · cases errno <;> rfl
  | timedOut => exact Or.inr ⟨l.socket, Or.inl rfl, by simp [Socket.waitReady], rfl, rfl⟩
  | ready hangup =>
      cases hangup with
      | true => exact Or.inr ⟨_, Or.inr rfl, by simp [Socket.waitReady], rfl, rfl⟩
      | false => exact Or.inl rfl

def Link.SameQueue (l next : Link) : Prop :=
  next.accepted = l.accepted ∧ next.queue = l.queue ∧ next.phase = l.phase ∧
    next.sendOffset = l.sendOffset ∧ next.cells = l.cells

structure Link.Returned (l : Link) (data : List UInt8) (totalSent : Nat)
    (outcome : SocketResult × Nat × Socket) (next : Link) : Prop where
  direct : next.direct = none
  socket : next.socket = outcome.2.2
  sendBuffer : next.sendBuffer = l.sendBuffer
  sameQueue : l.SameQueue next
  wire : ∃ bytes, next.wire = l.wire ++ bytes ∧ data.take totalSent ++ bytes = data.take outcome.2.1

theorem Link.Returned.now {l : Link} {data : List UInt8} {totalSent : Nat}
    (socket : Socket) (result : SocketResult) :
    l.Returned data totalSent (result, totalSent, socket)
      { l with socket := socket, direct := none } :=
  ⟨rfl, rfl, rfl, ⟨rfl, rfl, rfl, rfl, rfl⟩, [], (List.append_nil _).symm, List.append_nil _⟩

theorem Link.Returned.none {l : Link} {data : List UInt8} {totalSent : Nat}
    (free : l.direct = none) (result : SocketResult) :
    l.Returned data totalSent (result, totalSent, l.socket) l :=
  ⟨free, rfl, rfl, ⟨rfl, rfl, rfl, rfl, rfl⟩, [], (List.append_nil _).symm, List.append_nil _⟩

theorem Link.Returned.after {l next : Link} {d : Option Direct} {data : List UInt8}
    {totalSent sent : Nat} {outcome : SocketResult × Nat × Socket}
    (rest : Returned { l with direct := d, wire := l.wire ++ (data.drop totalSent).take sent } data
      (totalSent + sent) outcome next) : l.Returned data totalSent outcome next := by
  obtain ⟨bytes, written, total⟩ := rest.wire
  refine ⟨rest.direct, rest.socket, rest.sendBuffer, rest.sameQueue,
    (data.drop totalSent).take sent ++ bytes, ?_, ?_⟩
  · rw [written, List.append_assoc]
  · rw [← total, List.take_add, List.append_assoc]

theorem Link.Returned.hold {l next : Link} {d : Option Direct} {data : List UInt8}
    {totalSent : Nat} {outcome : SocketResult × Nat × Socket}
    (rest : Returned { l with direct := d } data totalSent outcome next) :
    l.Returned data totalSent outcome next :=
  ⟨rest.direct, rest.socket, rest.sendBuffer, rest.sameQueue, rest.wire⟩

theorem step_directWrite {l : Link} {data : List UInt8} {totalSent : Nat}
    (busy : l.direct = some ⟨data, totalSent, false⟩) (reply : WriteReply) :
    step l (.directWrite reply) = some (l.directWrite data totalSent reply) :=
  step_directWrite_eq_some.mpr ⟨data, totalSent, busy, rfl⟩

theorem lastWrite_run {l : Link} {data : List UInt8} {totalSent : Nat}
    (busy : l.direct = some ⟨data, totalSent, false⟩) (more : totalSent < data.length) :
    ∃ next, run step l [.directWrite (.written data.length)] = some next ∧
      l.Returned data totalSent (Socket.sendAllFrom 5000 data.length totalSent l.socket []) next := by
  refine ⟨_, by rw [run, step_directWrite busy]; rfl, ?_⟩
  rw [Socket.sendAllFrom, if_neg (by omega)]
  by_cases up : l.socket.connected = true
  · have sent : l.socket.send (data.length - totalSent) (.written data.length) =
        (.success, data.length - totalSent, l.socket) := by
      have least : min data.length (data.length - totalSent) = data.length - totalSent := by
        omega
      simp only [Socket.send, up, least]
      simp
      omega
    have full : totalSent + (data.length - totalSent) = data.length := by omega
    have wrote : l.directWrite data totalSent (.written data.length) =
        { l with
          direct := none
          wire := l.wire ++ (data.drop totalSent).take (data.length - totalSent) } := by
      rw [Link.directWrite, sent]
      simp [Direct.proceed, full]
    rw [wrote, if_neg (by simp [up])]
    apply Link.Returned.after (d := none)
    rw [full]
    exact .none rfl .success
  · rw [Link.directWrite, if_pos (by simp [up])]
    simp only [Socket.send, up]
    exact .now l.socket .notConnected

theorem step_directWrite_blocked {l : Link} {data : List UInt8} {totalSent : Nat}
    (busy : l.direct = some ⟨data, totalSent, false⟩) {write : WriteReply} {sent : Nat}
    (done : l.socket.send (data.length - totalSent) write = (.wouldBlock, sent, l.socket)) :
    step l (.directWrite write) = some { l with direct := some ⟨data, totalSent, true⟩ } := by
  rw [step_directWrite busy, Link.directWrite, done]

theorem failedPoll_run {l : Link} {data : List UInt8} {totalSent : Nat} {write : WriteReply}
    (poll : PollReply) (socket : Socket) (result : SocketResult)
    (first : step l (.directWrite write) = some { l with direct := some ⟨data, totalSent, true⟩ })
    (second : step { l with direct := some ⟨data, totalSent, true⟩ } (.directPoll poll) =
      some { l with socket := socket, direct := none }) :
    ∃ actions next, run step l actions = some next ∧
      l.Returned data totalSent (result, totalSent, socket) next :=
  ⟨[.directWrite write, .directPoll poll], _,
    run_cons_eq_some.mpr ⟨_, first, run_cons_eq_some.mpr ⟨_, second, rfl⟩⟩, .now socket result⟩

theorem sendAllFrom_run (turns : List WriteTurn) {l : Link} {data : List UInt8} {totalSent : Nat}
    (held : l.direct = Direct.proceed data totalSent) :
    ∃ actions next, run step l actions = some next ∧
      l.Returned data totalSent (Socket.sendAllFrom 5000 data.length totalSent l.socket turns)
        next := by
  induction turns generalizing l totalSent with
  | nil =>
      by_cases all : data.length ≤ totalSent
      · rw [Socket.sendAllFrom_done all]
        exact ⟨[], l, rfl, .none (by rw [held, Direct.proceed, if_neg (by omega)]) .success⟩
      · have busy : l.direct = some ⟨data, totalSent, false⟩ := by
          rw [held, Direct.proceed, if_pos (by omega)]
        exact ⟨_, lastWrite_run busy (by omega)⟩
  | cons turn turns ih =>
      obtain ⟨write, poll⟩ := turn
      by_cases all : data.length ≤ totalSent
      · rw [Socket.sendAllFrom_done all]
        exact ⟨[], l, rfl, .none (by rw [held, Direct.proceed, if_neg (by omega)]) .success⟩
      · have busy : l.direct = some ⟨data, totalSent, false⟩ := by
          rw [held, Direct.proceed, if_pos (by omega)]
        rw [Socket.sendAllFrom, if_neg all]
        rcases l.socket.send_cases (data.length - totalSent) write with
          ⟨sent, most, done⟩ | done | ⟨result, lost, done, notSuccess, notBlocked, gone⟩
        · have wrote : l.directWrite data totalSent write =
              { l with
                direct := Direct.proceed data (totalSent + sent)
                wire := l.wire ++ (data.drop totalSent).take sent } := by
            rw [Link.directWrite, done]
          obtain ⟨actions, next, steps, rest⟩ := ih (l := { l with
            direct := Direct.proceed data (totalSent + sent)
            wire := l.wire ++ (data.drop totalSent).take sent }) rfl
          refine ⟨.directWrite write :: actions, next, run_cons_eq_some.mpr ⟨_, ?_, steps⟩, ?_⟩
          · rw [step_directWrite busy, wrote]
          · rw [done]
            exact rest.after
        · have first := step_directWrite_blocked busy done
          rw [done]
          dsimp only
          rw [if_neg (by simp)]
          cases poll with
          | failed errno =>
              cases errno with
              | eagain => exact failedPoll_run (.failed .eagain) l.socket _ first rfl
              | other => exact failedPoll_run (.failed .other) l.socket _ first rfl
          | timedOut => exact failedPoll_run .timedOut l.socket .timeout first rfl
          | ready hangup =>
              cases hangup with
              | true =>
                  exact failedPoll_run (.ready true) { l.socket with connected := false }
                    .connectionReset first rfl
              | false =>
                  obtain ⟨actions, next, steps, rest⟩ := ih
                    (l := { l with direct := some ⟨data, totalSent, false⟩ })
                    (busy.symm.trans held)
                  exact ⟨.directWrite write :: .directPoll (.ready false) :: actions, next,
                    run_cons_eq_some.mpr ⟨_, first, run_cons_eq_some.mpr ⟨_, rfl, steps⟩⟩,
                    rest.hold⟩
        · have off : l.directWrite data totalSent write =
              { l with socket := lost, direct := none } := by
            rw [Link.directWrite, done]
            cases result <;> simp_all
          refine ⟨[.directWrite write], _, by rw [run, step_directWrite busy, off]; rfl, ?_⟩
          rw [done]
          cases result
          case success => exact absurd rfl notSuccess
          case wouldBlock => exact absurd rfl notBlocked
          all_goals exact .now lost _

theorem sendPrepared_run {l : Link} {t : Client} (socket : l.socket = t.socket)
    (sendBuffer : l.sendBuffer = t.sendBuffer) (free : l.direct = none)
    (up : t.socket.connected = true) (prepare : List UInt8 → Prepared) (turns : List WriteTurn) :
    ∃ actions next, run step l (.directStart prepare :: actions) = some next ∧
      next.direct = none ∧ next.socket = (t.sendPrepared prepare turns).2.socket ∧
      next.sendBuffer = (t.sendPrepared prepare turns).2.sendBuffer ∧ l.SameQueue next := by
  have first : step l (.directStart prepare) = some (l.directStart prepare) :=
    step_directStart_eq_some.mpr ⟨free, rfl⟩
  unfold Link.directStart at first
  unfold Client.sendPrepared
  rw [if_neg (by simp [up])]
  rw [sendBuffer] at first
  cases prepared : prepare t.sendBuffer with
  | encodingError =>
      rw [prepared] at first
      exact ⟨[], l, run_cons_eq_some.mpr ⟨l, first, rfl⟩, free, socket, sendBuffer,
        rfl, rfl, rfl, rfl, rfl⟩
  | bufferTooSmall =>
      rw [prepared] at first
      exact ⟨[], l, run_cons_eq_some.mpr ⟨l, first, rfl⟩, free, socket, sendBuffer,
        rfl, rfl, rfl, rfl, rfl⟩
  | ready filled data =>
      rw [prepared] at first
      obtain ⟨actions, next, steps, returned⟩ := sendAllFrom_run turns
        (l := { l with
          sendBuffer := filled
          direct := Direct.proceed data 0
          handed := l.handed ++ [data] }) rfl
      refine ⟨actions, next, run_cons_eq_some.mpr ⟨_, first, steps⟩, returned.direct, ?_,
        returned.sendBuffer, returned.sameQueue⟩
      rw [returned.socket, socket]
      rfl

end RyuLdn.TcpSendQueue
