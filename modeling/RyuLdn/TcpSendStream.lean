import RyuLdn.TcpSendOrder

/-! The framing of the byte stream. Direct sends and the sender thread share the
socket, and the thread gives the mutex back between the pieces of one packet: a
direct send that finds a packet part-written puts its own bytes into it. A direct
send that gives up after a partial write leaves the stream in the same state.
`keepsFraming` is the condition on a step that excludes both, and a lost place in
the queue. -/
namespace RyuLdn.TcpSendQueue

open ProtocolCodec ProtocolTypes TcpSocket TcpClient TransitionSystem
open TcpClient.Client (Prepared Blob encodeProxyData)

def Link.midPacket (l : Link) : Bool := 0 < l.sendOffset && l.phase ≠ .pop

def keepsFraming (l : Link) (a : Action) : Bool :=
  keepsPlace l a &&
    match a, l.direct with
    | .directWrite reply, some d =>
        !(l.midPacket && 0 < (l.socket.send (d.data.length - d.totalSent) reply).2.1)
    | .directPoll reply, some d =>
        !(0 < d.totalSent && (l.socket.waitReady reply).1 ≠ .success &&
          (l.socket.waitReady reply).2.connected)
    | _, _ => true

/-- The wire holds whole packets and at most a part of one more, which the next bytes
continue; and a direct send that ends after a partial write has either written the
rest or lost the connection. `move` is the system that goes on. -/
structure Link.Framed (move : Link → Action → Option Link) (l : Link) : Prop where
  packets : ∃ (whole : List (List UInt8)) (part rest : List UInt8),
    (∀ packet ∈ whole, packet ∈ l.handed) ∧ (part = [] ∨ part ++ rest ∈ l.handed) ∧
      l.wire = whole.flatten ++ part ∧
      (part ≠ [] → ∀ a next, move l a = some next →
        ∃ bytes, next.wire = l.wire ++ bytes ∧ bytes <+: rest)
  givesUp : ∀ a next, move l a = some next → ∀ d ∈ l.direct, 0 < d.totalSent →
    next.direct = none →
      next.wire = l.wire ++ d.data.drop d.totalSent ∨ next.socket.connected = false

def Link.queuePart (l : Link) (inFlight : Option Queued) : List UInt8 :=
  (inFlight.toList.flatMap Queued.data).take l.sendOffset

def Link.directPart (l : Link) : List UInt8 :=
  l.direct.toList.flatMap fun d => d.data.take d.totalSent

structure Link.Stream (l : Link) (inFlight : Option Queued) : Prop where
  queued : ∀ p ∈ l.accepted, p.data ∈ l.handed
  direct : ∀ d ∈ l.direct, d.data ∈ l.handed ∧ d.totalSent < d.data.length
  alone : ∀ d ∈ l.direct, 0 < d.totalSent → inFlight = none
  wire : ∃ whole : List (List UInt8), (∀ packet ∈ whole, packet ∈ l.handed) ∧
    l.wire = whole.flatten ++ (l.queuePart inFlight ++ l.directPart)

theorem Link.Flow.midPacket {l : Link} {written : List Queued} {inFlight : Option Queued}
    (flow : l.Flow written inFlight) {p : Queued} (flight : p ∈ inFlight) :
    l.midPacket = true := by
  have started := (flow.begun p flight).1
  have next := flow.nextUp flight
  unfold Link.midPacket
  cases place : l.phase with
  | pop => simp [NextUp, place] at next
  | _ => simp [started]

def Action.quiet : Action → Bool
  | .directStart _ | .directWrite _ | .directPoll _ | .senderSend _ _ => false
  | _ => true

structure Link.Quiet (l next : Link) : Prop where
  direct : next.direct = l.direct
  wire : next.wire = l.wire
  handed : ∃ more : List Queued, next.handed = l.handed ++ more.map Queued.data
  accepted : ∀ p ∈ next.accepted, p ∈ l.accepted ∨ p.data ∈ next.handed
  offset : next.sendOffset = l.sendOffset ∨ l.phase = .pop ∨
    l.phase = .fetch ∧ l.queue.packets = []
  connected : next.socket.connected = true → l.socket.connected = true

theorem Link.Quiet.of_eq {l next : Link} (direct : next.direct = l.direct)
    (wire : next.wire = l.wire) (handed : next.handed = l.handed)
    (accepted : next.accepted = l.accepted) (offset : next.sendOffset = l.sendOffset)
    (connected : next.socket.connected = true → l.socket.connected = true) : l.Quiet next where
  direct := direct
  wire := wire
  handed := ⟨[], by simp [handed]⟩
  accepted := by
    rw [accepted]
    exact fun p known => Or.inl known
  offset := Or.inl offset
  connected := connected

theorem step_quiet {l next : Link} {a : Action} (taken : step l a = some next)
    (quiet : a.quiet = true) : l.Quiet next := by
  cases a with
  | sendProxyData info payload nowMs =>
      obtain ⟨-, rfl⟩ := step_sendProxyData_eq_some.mp taken
      unfold Link.sendProxyData
      split_ifs with encoded
      · refine ⟨rfl, rfl, ⟨[_], rfl⟩, ?_, Or.inl rfl, id⟩
        intro p known
        rcases List.mem_append.mp known with old | new
        · exact Or.inl old
        · refine Or.inr (List.mem_append_right _ ?_)
          rw [List.mem_singleton.mp new]
          exact List.mem_singleton.mpr rfl
      · exact .of_eq rfl rfl rfl rfl rfl id
  | senderTop nowMs =>
      have moves := (step_senderTop_eq_some.mp taken).2
      unfold Link.senderTop at moves
      split_ifs at moves
      · cases moves
        exact .of_eq rfl rfl rfl rfl rfl id
      · split at moves
        · cases moves
        · split_ifs at moves
          all_goals
            cases moves
            exact .of_eq rfl rfl rfl rfl rfl id
      · cases moves
        exact .of_eq rfl rfl rfl rfl rfl id
  | senderFetch nowMs =>
      obtain ⟨place, rfl⟩ := step_senderFetch_eq_some.mp taken
      unfold Link.senderFetch
      split
      next empty =>
        exact ⟨rfl, rfl, ⟨[], by simp⟩, fun p known => Or.inl known,
          Or.inr (Or.inr ⟨place, empty⟩), id⟩
      next =>
        split_ifs
        all_goals exact .of_eq rfl rfl rfl rfl rfl id
  | senderPop =>
      obtain ⟨place, rfl⟩ := step_senderPop_eq_some.mp taken
      exact ⟨rfl, rfl, ⟨[], by simp [Link.senderPop]⟩, fun p known => Or.inl known,
        Or.inr (Or.inl place), id⟩
  | lose =>
      rw [← Option.some.inj taken]
      exact .of_eq rfl rfl rfl rfl rfl (by simp)
  | halt =>
      rw [← Option.some.inj taken]
      exact .of_eq rfl rfl rfl rfl rfl id
  | closeDown =>
      obtain ⟨-, rfl⟩ := step_closeDown_eq_some.mp taken
      refine .of_eq rfl rfl rfl rfl rfl ?_
      intro up
      unfold Link.closeDown at up
      split_ifs at up with before
      · exact before
      · exact up
  | _ => cases quiet

namespace Link.Stream

variable {l next : Link} {written : List Queued} {inFlight : Option Queued}

theorem quiet (stream : l.Stream inFlight) (flow : l.Flow written inFlight)
    (quiet : l.Quiet next) : next.Stream inFlight := by
  have part : next.queuePart inFlight = l.queuePart inFlight := by
    unfold queuePart
    rcases quiet.offset with same | place | ⟨place, empty⟩
    · rw [same]
    · cases inFlight with
      | none => simp
      | some p => simpa [NextUp, place] using flow.nextUp rfl
    · cases inFlight with
      | none => simp
      | some p => simpa [NextUp, place, empty] using flow.nextUp rfl
  have handed : l.handed ⊆ next.handed := by
    obtain ⟨more, same⟩ := quiet.handed
    rw [same]
    exact List.subset_append_left _ _
  obtain ⟨whole, known, wire⟩ := stream.wire
  constructor
  · intro p accepted
    rcases quiet.accepted p accepted with old | new
    · exact handed (stream.queued p old)
    · exact new
  · rw [quiet.direct]
    intro d held
    exact ⟨handed (stream.direct d held).1, (stream.direct d held).2⟩
  · rw [quiet.direct]
    exact stream.alone
  · refine ⟨whole, fun packet inside => handed (known packet inside), ?_⟩
    rw [quiet.wire, wire, part, directPart, directPart, quiet.direct]

end Link.Stream

namespace Link.Stream

variable {l next : Link} {written : List Queued} {inFlight : Option Queued}

theorem directStart (stream : l.Stream inFlight) (free : l.direct = none)
    (prepare : List UInt8 → Prepared) : (l.directStart prepare).Stream inFlight := by
  obtain ⟨whole, known, wire⟩ := stream.wire
  unfold Link.directStart
  cases prepare l.sendBuffer with
  | encodingError => exact stream
  | bufferTooSmall => exact stream
  | ready sendBuffer data =>
      refine ⟨fun p old => List.mem_append_left _ (stream.queued p old), ?_, ?_, whole,
        fun packet inside => List.mem_append_left _ (known packet inside), ?_⟩
      · intro d held
        obtain ⟨rfl, short⟩ := Direct.mem_proceed held
        exact ⟨List.mem_append_right _ (List.mem_singleton.mpr rfl), short⟩
      · intro d held sent
        obtain ⟨rfl, -⟩ := Direct.mem_proceed held
        cases sent
      · have fresh : (Direct.proceed data 0).toList.flatMap
            (fun d => d.data.take d.totalSent) = [] := by
          unfold Direct.proceed
          split_ifs <;> simp
        dsimp only [directPart]
        rw [fresh, wire, directPart, free]
        rfl

theorem hold (stream : l.Stream inFlight) {data : List UInt8} {totalSent : Nat}
    {before : Bool} (held : l.direct = some ⟨data, totalSent, before⟩) (waiting : Bool) :
    Stream { l with direct := some ⟨data, totalSent, waiting⟩ } inFlight := by
  have mine := stream.direct _ held
  have alone := stream.alone _ held
  obtain ⟨whole, known, wire⟩ := stream.wire
  refine ⟨stream.queued, ?_, ?_, whole, known, ?_⟩
  · intro d here
    cases here
    exact mine
  · intro d here
    cases here
    exact alone
  · rw [wire, directPart, directPart, held]
    rfl

theorem write (stream : l.Stream inFlight) {data : List UInt8} {totalSent sent : Nat}
    {waiting : Bool} (held : l.direct = some ⟨data, totalSent, waiting⟩)
    (most : sent ≤ data.length - totalSent) (alone : 0 < sent → inFlight = none) :
    Stream { l with
      direct := Direct.proceed data (totalSent + sent)
      wire := l.wire ++ (data.drop totalSent).take sent } inFlight := by
  have mine := stream.direct _ held
  rcases Nat.eq_zero_or_pos sent with rfl | some
  · simpa [Direct.proceed, mine.2] using stream.hold held false
  · obtain ⟨whole, known, wire⟩ := stream.wire
    have idle := alone some
    have written : l.wire ++ (data.drop totalSent).take sent =
        whole.flatten ++ data.take (totalSent + sent) := by
      rw [wire, queuePart, idle, directPart, held, List.take_add]
      simp
    by_cases short : totalSent + sent < data.length
    · rw [Direct.proceed, if_pos short]
      refine ⟨stream.queued, ?_, fun _ _ _ => idle, whole, known, ?_⟩
      · intro d here
        cases here
        exact ⟨mine.1, short⟩
      · rw [written, queuePart, idle, directPart]
        simp
    · have all : totalSent + sent = data.length := by omega
      rw [Direct.proceed, if_neg short]
      refine ⟨stream.queued, by simp, by simp, whole ++ [data], ?_, ?_⟩
      · intro packet inside
        rcases List.mem_append.mp inside with old | new
        · exact known packet old
        · rw [List.mem_singleton.mp new]
          exact mine.1
      · rw [written, all, List.take_length, queuePart, idle, directPart]
        simp

theorem directWrite (stream : l.Stream inFlight) (flow : l.Flow written inFlight)
    {data : List UInt8} {totalSent : Nat} (held : l.direct = some ⟨data, totalSent, false⟩)
    {reply : WriteReply} (safe : keepsFraming l (.directWrite reply) = true)
    (up : (l.directWrite data totalSent reply).socket.connected = true) :
    (l.directWrite data totalSent reply).Stream inFlight := by
  rcases l.directWrite_cases data totalSent reply with
    ⟨sent, most, count, same⟩ | same | ⟨lost, gone, same⟩
  · rw [same]
    apply stream.write held most
    intro some
    cases inFlight with
    | none => rfl
    | some p =>
        have mid := flow.midPacket rfl
        simp [keepsFraming, held, mid, count, some] at safe
  · rw [same]
    exact stream.hold held true
  · rw [same] at up
    exact absurd up (by simp [gone])

theorem directPoll (stream : l.Stream inFlight) {data : List UInt8} {totalSent : Nat}
    (held : l.direct = some ⟨data, totalSent, true⟩) {reply : PollReply}
    (safe : keepsFraming l (.directPoll reply) = true)
    (up : (l.directPoll data totalSent reply).socket.connected = true) :
    (l.directPoll data totalSent reply).Stream inFlight := by
  rcases l.directPoll_cases data totalSent reply with
    same | ⟨socket, after, failed, result, same⟩
  · rw [same]
    exact stream.hold held false
  · rw [same] at up ⊢
    have on : socket.connected = true := up
    have none : totalSent = 0 := by
      simpa [keepsFraming, keepsPlace, held, failed, result, on] using safe
    obtain ⟨whole, known, wire⟩ := stream.wire
    refine ⟨stream.queued, by simp, by simp, whole, known, ?_⟩
    rw [wire, directPart, directPart, held, none]
    rfl

theorem queuePart_sending (flow : l.Flow written inFlight) {tempData : Queued}
    (place : l.phase = .send tempData) :
    l.queuePart inFlight = tempData.data.take l.sendOffset := by
  unfold queuePart
  rw [flow.inFlight_sending place]
  split_ifs with zero
  · simp [zero]
  · simp

theorem wrote (stream : l.Stream inFlight) (flow : l.Flow written inFlight)
    {tempData : Queued} (place : l.phase = .send tempData) (free : l.direct = none)
    (count : Nat) :
    ∃ whole : List (List UInt8), (∀ packet ∈ whole, packet ∈ l.handed) ∧
      (l.wrote tempData count).wire =
        whole.flatten ++ tempData.data.take (l.sendOffset + count) := by
  obtain ⟨whole, known, wire⟩ := stream.wire
  refine ⟨whole, known, ?_⟩
  rw [Link.wrote, wire, queuePart_sending flow place, directPart, free, List.take_add]
  simp

theorem senderSend (stream : l.Stream inFlight) (flow : l.Flow written inFlight)
    {tempData : Queued} (place : l.phase = .send tempData) (free : l.direct = none)
    {reply : WriteReply} {behind : List UInt8}
    (taken : l.senderSend tempData reply behind = some next)
    (safe : l.leavesPiece tempData reply = true → l.queue.packets.head? = some tempData)
    (up : next.socket.connected = true) :
    ∃ written' inFlight', next.Flow written' inFlight' ∧ next.Stream inFlight' := by
  rcases flow.senderSend place taken safe with
    ⟨count, all, rfl, after⟩ | ⟨count, short, rfl, after⟩ | ⟨rfl, after⟩ | ⟨lost, gone, rfl, after⟩
  · obtain ⟨whole, known, wire⟩ := stream.wrote flow place free count
    refine ⟨_, none, after, stream.queued, by simp [Link.wrote, free], by simp [Link.wrote, free],
      whole ++ [tempData.data], ?_, ?_⟩
    · intro packet inside
      rcases List.mem_append.mp inside with old | new
      · exact known packet old
      · rw [List.mem_singleton.mp new]
        exact stream.queued tempData (after.sublist_accepted.subset (by simp))
    · rw [wire, all, List.take_length, directPart]
      simp [queuePart, Link.wrote, free]
  · obtain ⟨whole, known, wire⟩ := stream.wrote flow place free count
    refine ⟨_, _, after, stream.queued, by simp [Link.wrote, free], by simp [Link.wrote, free],
      whole, known, ?_⟩
    rw [wire, directPart]
    split_ifs with zero
    · simp [queuePart, Link.wrote, free, zero]
    · simp [queuePart, Link.wrote, free]
  · exact ⟨written, inFlight, after, stream.queued, stream.direct, stream.alone, stream.wire⟩
  · exact absurd up (by simp [gone])

end Link.Stream

def Link.Sound (l : Link) : Prop :=
  ∃ written inFlight, l.Flow written inFlight ∧
    (l.socket.connected = true → l.Stream inFlight)

theorem keepsPlace_of_keepsFraming {l : Link} {a : Action} (safe : keepsFraming l a = true) :
    keepsPlace l a = true := by
  unfold keepsFraming at safe
  exact (Bool.and_eq_true_iff.mp safe).1

theorem Link.senderSend_frame {l next : Link} {tempData : Queued} {reply : WriteReply}
    {behind : List UInt8} (taken : l.senderSend tempData reply behind = some next) :
    next.handed = l.handed ∧
      (next.socket.connected = true → l.socket.connected = true) := by
  unfold senderSend at taken
  rcases l.socket.send_cases (l.toSend tempData) reply with
    ⟨sent, most, done⟩ | done | ⟨result, lost, done, notSuccess, notBlocked, gone⟩
  · simp only [done] at taken
    split_ifs at taken
    all_goals
      rw [← Option.some.inj taken]
      exact ⟨rfl, id⟩
  · simp only [done] at taken
    rw [← Option.some.inj taken]
    exact ⟨rfl, id⟩
  · rw [done] at taken
    have off : next = { l with socket := lost, phase := .stopped } := by
      cases result <;> simp_all
    simp [off, gone]

theorem step_connected {l next : Link} {a : Action} (taken : step l a = some next)
    (up : next.socket.connected = true) : l.socket.connected = true := by
  by_cases quiet : a.quiet = true
  · exact (step_quiet taken quiet).connected up
  · cases a with
    | directStart prepare =>
        obtain ⟨-, rfl⟩ := step_directStart_eq_some.mp taken
        unfold Link.directStart at up
        cases prepared : prepare l.sendBuffer <;> simpa [prepared] using up
    | directWrite reply =>
        obtain ⟨data, totalSent, held, rfl⟩ := step_directWrite_eq_some.mp taken
        rcases l.directWrite_cases data totalSent reply with
          ⟨sent, most, count, same⟩ | same | ⟨lost, gone, same⟩
        · simpa [same] using up
        · simpa [same] using up
        · simp [same, gone] at up
    | directPoll reply =>
        obtain ⟨data, totalSent, held, rfl⟩ := step_directPoll_eq_some.mp taken
        rcases l.directPoll_cases data totalSent reply with
          same | ⟨socket, rfl | gone, failed, result, same⟩
        · simpa [same] using up
        · simpa [same] using up
        · simp [same, gone] at up
    | senderSend reply behind =>
        obtain ⟨tempData, -, -, taken⟩ := step_senderSend_eq_some.mp taken
        exact (Link.senderSend_frame taken).2 up
    | _ => exact absurd rfl quiet

theorem step_sound {l next : Link} {a : Action}
    (taken : guarded keepsFraming step l a = some next) (sound : l.Sound) : next.Sound := by
  obtain ⟨safe, taken⟩ := guarded_eq_some.mp taken
  have place := keepsPlace_of_keepsFraming safe
  obtain ⟨written, inFlight, flow, stream⟩ := sound
  by_cases up : next.socket.connected = true
  · replace stream := stream (step_connected taken up)
    by_cases quiet : a.quiet = true
    · refine ⟨written, inFlight, flow.quiet taken place ?_, ?_⟩
      · rintro reply behind rfl
        cases quiet
      · exact fun _ => stream.quiet flow (step_quiet taken quiet)
    · cases a with
      | directStart prepare =>
          refine ⟨written, inFlight, flow.quiet taken place (by simp), fun _ => ?_⟩
          obtain ⟨free, rfl⟩ := step_directStart_eq_some.mp taken
          exact stream.directStart free prepare
      | directWrite reply =>
          refine ⟨written, inFlight, flow.quiet taken place (by simp), fun _ => ?_⟩
          obtain ⟨data, totalSent, held, rfl⟩ := step_directWrite_eq_some.mp taken
          exact stream.directWrite flow held safe up
      | directPoll reply =>
          refine ⟨written, inFlight, flow.quiet taken place (by simp), fun _ => ?_⟩
          obtain ⟨data, totalSent, held, rfl⟩ := step_directPoll_eq_some.mp taken
          exact stream.directPoll held safe up
      | senderSend reply behind =>
          obtain ⟨tempData, sending, free, taken, safe⟩ := step_senderSend taken place
          obtain ⟨written, inFlight, after, stream⟩ :=
            stream.senderSend flow sending free taken safe up
          exact ⟨written, inFlight, after, fun _ => stream⟩
      | _ => exact absurd rfl quiet
  · obtain ⟨written, inFlight, after⟩ :=
      step_flow (guarded_eq_some.mpr ⟨place, taken⟩) ⟨written, inFlight, flow⟩
    exact ⟨written, inFlight, after, fun on => absurd on up⟩

theorem step_wire {l next : Link} {a : Action} {written : List Queued} {inFlight : Option Queued}
    (flow : l.Flow written inFlight) (safe : keepsFraming l a = true)
    (taken : step l a = some next) :
    next.wire = l.wire ∨
      (∃ d ∈ l.direct, ∃ sent, next.wire = l.wire ++ (d.data.drop d.totalSent).take sent ∧
        (0 < sent → inFlight = none)) ∨
      ∃ tempData count, l.phase = .send tempData ∧ l.direct = none ∧
        next.wire = l.wire ++ (tempData.data.drop l.sendOffset).take count := by
  by_cases quiet : a.quiet = true
  · exact Or.inl (step_quiet taken quiet).wire
  · cases a with
    | directStart prepare =>
        obtain ⟨-, rfl⟩ := step_directStart_eq_some.mp taken
        unfold Link.directStart
        left
        cases prepare l.sendBuffer <;> rfl
    | directWrite reply =>
        obtain ⟨data, totalSent, held, rfl⟩ := step_directWrite_eq_some.mp taken
        rcases l.directWrite_cases data totalSent reply with
          ⟨sent, most, count, same⟩ | same | ⟨lost, gone, same⟩
        · refine Or.inr (Or.inl ⟨_, held, sent, by rw [same], ?_⟩)
          intro some
          cases inFlight with
          | none => rfl
          | some p =>
              have mid := flow.midPacket rfl
              simp [keepsFraming, held, mid, count, some] at safe
        · exact Or.inl (by rw [same])
        · exact Or.inl (by rw [same])
    | directPoll reply =>
        obtain ⟨data, totalSent, held, rfl⟩ := step_directPoll_eq_some.mp taken
        left
        rcases l.directPoll_cases data totalSent reply with
          same | ⟨socket, after, failed, result, same⟩
        · rw [same]
        · rw [same]
    | senderSend reply behind =>
        obtain ⟨tempData, sending, free, taken, front⟩ :=
          step_senderSend taken (keepsPlace_of_keepsFraming safe)
        rcases flow.senderSend sending taken front with
          ⟨count, all, rfl, after⟩ | ⟨count, short, rfl, after⟩ | ⟨rfl, after⟩ |
            ⟨lost, gone, rfl, after⟩
        · exact Or.inr (Or.inr ⟨tempData, count, sending, free, rfl⟩)
        · exact Or.inr (Or.inr ⟨tempData, count, sending, free, rfl⟩)
        · exact Or.inl rfl
        · exact Or.inl rfl
    | _ => exact absurd rfl quiet

theorem step_givesUp {l next : Link} {a : Action} (safe : keepsFraming l a = true)
    (taken : step l a = some next) {d : Direct} (held : d ∈ l.direct) (begun : 0 < d.totalSent)
    (ended : next.direct = none) :
    next.wire = l.wire ++ d.data.drop d.totalSent ∨ next.socket.connected = false := by
  have busy : l.direct = some d := held
  by_cases quiet : a.quiet = true
  · rw [(step_quiet taken quiet).direct, busy] at ended
    cases ended
  · cases a with
    | directStart prepare => simp [step, busy] at taken
    | directWrite reply =>
        obtain ⟨data, totalSent, same, rfl⟩ := step_directWrite_eq_some.mp taken
        cases Option.some.inj (busy.symm.trans same)
        rcases l.directWrite_cases data totalSent reply with
          ⟨sent, most, count, same⟩ | same | ⟨lost, gone, same⟩
        · left
          rw [same] at ended ⊢
          simp only [Direct.proceed] at ended
          split_ifs at ended with short
          rw [List.take_of_length_le (by rw [List.length_drop]; omega)]
        · rw [same] at ended
          cases ended
        · right
          rw [same]
          exact gone
    | directPoll reply =>
        obtain ⟨data, totalSent, same, rfl⟩ := step_directPoll_eq_some.mp taken
        cases Option.some.inj (busy.symm.trans same)
        rcases l.directPoll_cases data totalSent reply with
          same | ⟨socket, after, failed, result, same⟩
        · rw [same] at ended
          cases ended
        · right
          rw [same]
          simpa [keepsFraming, keepsPlace, busy, failed, result, Nat.ne_of_gt begun] using safe
    | senderSend reply behind =>
        obtain ⟨tempData, sending, free, taken, front⟩ :=
          step_senderSend taken (keepsPlace_of_keepsFraming safe)
        rw [busy] at free
        cases free
    | _ => exact absurd rfl quiet

theorem Link.Sound.framed {l : Link} (sound : l.Sound) (up : l.socket.connected = true) :
    l.Framed (guarded keepsFraming step) := by
  obtain ⟨written, inFlight, flow, stream⟩ := sound
  replace stream := stream up
  obtain ⟨whole, known, wire⟩ := stream.wire
  constructor
  · by_cases busy : ∃ d ∈ l.direct, 0 < d.totalSent
    · -- The part belongs to the direct send; the mutex keeps everybody else away.
      obtain ⟨d, held, begun⟩ := busy
      have idle := stream.alone d held begun
      refine ⟨whole, d.data.take d.totalSent, d.data.drop d.totalSent, known, Or.inr ?_, ?_, ?_⟩
      · rw [List.take_append_drop]
        exact (stream.direct d held).1
      · rw [wire, queuePart, idle, directPart, show l.direct = some d from held]
        simp
      · intro _ a next taken
        obtain ⟨safe, taken⟩ := guarded_eq_some.mp taken
        rcases step_wire flow safe taken with same | ⟨e, same, sent, bytes, -⟩ | ⟨_, _, _, free, _⟩
        · exact ⟨[], by simp [same], List.nil_prefix⟩
        · cases Option.mem_unique held same
          exact ⟨_, bytes, List.take_prefix _ _⟩
        · rw [free] at held
          cases held
    · -- The part belongs to the packet in flight.
      have none : l.directPart = [] := by
        unfold directPart
        cases held : l.direct with
        | none => rfl
        | some d =>
            have zero : d.totalSent = 0 := by
              by_contra some
              exact busy ⟨d, held, Nat.pos_of_ne_zero some⟩
            simp [zero]
      rw [none, List.append_nil] at wire
      cases inFlight with
      | none =>
          refine ⟨whole, [], [], known, Or.inl rfl, ?_, fun other => absurd rfl other⟩
          rw [wire]
          simp [queuePart]
      | some p =>
          refine ⟨whole, p.data.take l.sendOffset, p.data.drop l.sendOffset, known, Or.inr ?_, ?_, ?_⟩
          · rw [List.take_append_drop]
            exact stream.queued p (flow.sublist_accepted.subset (by simp))
          · rw [wire]
            simp [queuePart]
          · intro _ a next taken
            obtain ⟨safe, taken⟩ := guarded_eq_some.mp taken
            rcases step_wire flow safe taken with
              same | ⟨d, held, sent, bytes, alone⟩ | ⟨tempData, count, place, free, bytes⟩
            · exact ⟨[], by simp [same], List.nil_prefix⟩
            · have zero : sent = 0 := by
                by_contra some
                cases alone (Nat.pos_of_ne_zero some)
              exact ⟨[], by simp [bytes, zero], List.nil_prefix⟩
            · have same : tempData = p := by simpa [NextUp, place] using flow.nextUp rfl
              rw [same] at bytes
              exact ⟨_, bytes, List.take_prefix _ _⟩
  · intro a next taken d held begun ended
    obtain ⟨safe, taken⟩ := guarded_eq_some.mp taken
    exact step_givesUp safe taken held begun ended

theorem start_sound (t : Client) : (start t).Sound :=
  ⟨[], none, start_flow t, fun _ => ⟨by simp [start], by simp [start], by simp [start],
    [], by simp, rfl⟩⟩

/-- What the call hands to `send_all` is a whole packet. -/
def PreparesPackets (prepare : List UInt8 → Prepared) : Prop :=
  ∀ buffer sendBuffer data, prepare buffer = .ready sendBuffer data → IsPacket data

theorem preparesPackets_encoded {result : EncodeResult × List UInt8}
    (packet : result.1 = .success → IsPacket result.2) :
    PreparesPackets (Client.encoded result) := by
  intro buffer sendBuffer data ready
  obtain ⟨outcome, wire⟩ := result
  cases outcome with
  | success =>
      cases ready
      exact packet rfl
  | _ => cases ready

theorem preparesPackets_message (type : PacketId) (image : List UInt8) :
    PreparesPackets (Client.message type image) := by
  apply preparesPackets_encoded
  unfold encode
  split_ifs with long
  · simp
  · intro _
    apply isPacket_encode
    simp only [sendBufferSize, headerSize, maxPacketSize] at long ⊢
    omega

theorem preparesPackets_accessPoint (type : PacketId) (request advertise : List UInt8) :
    PreparesPackets (Client.accessPoint type request (.bytes advertise)) := by
  intro buffer sendBuffer data ready
  unfold Client.accessPoint Blob.size Blob.data at ready
  dsimp only at ready
  by_cases long : request.length + advertise.length > sendBufferSize - headerSize
  · rw [if_pos long] at ready
    cases ready
  · rw [if_neg long] at ready
    cases ready
    rw [List.append_assoc, ← List.length_append]
    apply isPacket_encode
    rw [List.length_append]
    simp only [sendBufferSize, headerSize, maxPacketSize] at long ⊢
    omega

theorem preparesPackets_setAdvertiseData (data : List UInt8) :
    PreparesPackets (Client.setAdvertiseData (.bytes data)) := by
  intro buffer sendBuffer packet ready
  cases ready
  have size : (data.take (min data.length 384)).length = min data.length 384 := by
    rw [List.length_take]
    omega
  have framed := isPacket_encode .setAdvertiseData
    (show (data.take (min data.length 384)).length ≤ maxPacketSize by
      rw [size, maxPacketSize]
      omega)
  rw [size] at framed
  unfold Client.overwrite
  rw [List.take_append_of_le_length (by
    rw [List.length_append, encodeHeader_length]
    exact (congrArg _ size).ge), List.take_of_length_le (by
    rw [List.length_append, encodeHeader_length]
    exact (congrArg _ size).le)]
  exact framed

theorem step_handed {l next : Link} {a : Action} (taken : step l a = some next)
    (calls : ∀ prepare, a = .directStart prepare → PreparesPackets prepare)
    (packets : ∀ packet ∈ l.handed, IsPacket packet) : ∀ packet ∈ next.handed, IsPacket packet := by
  by_cases quiet : a.quiet = true
  · obtain ⟨more, same⟩ := (step_quiet taken quiet).handed
    rw [same]
    intro packet inside
    rcases List.mem_append.mp inside with old | new
    · exact packets packet old
    · obtain ⟨p, -, rfl⟩ := List.mem_map.mp new
      exact p.whole
  · cases a with
    | directStart prepare =>
        obtain ⟨-, rfl⟩ := step_directStart_eq_some.mp taken
        unfold Link.directStart
        cases prepared : prepare l.sendBuffer with
        | encodingError => exact packets
        | bufferTooSmall => exact packets
        | ready sendBuffer data =>
            intro packet inside
            rcases List.mem_append.mp inside with old | new
            · exact packets packet old
            · rw [List.mem_singleton.mp new]
              exact calls prepare rfl _ _ _ prepared
    | directWrite reply =>
        obtain ⟨data, totalSent, held, rfl⟩ := step_directWrite_eq_some.mp taken
        rcases l.directWrite_cases data totalSent reply with
          ⟨sent, most, count, same⟩ | same | ⟨lost, gone, same⟩
        all_goals
          rw [same]
          exact packets
    | directPoll reply =>
        obtain ⟨data, totalSent, held, rfl⟩ := step_directPoll_eq_some.mp taken
        rcases l.directPoll_cases data totalSent reply with
          same | ⟨socket, after, failed, result, same⟩
        all_goals
          rw [same]
          exact packets
    | senderSend reply behind =>
        obtain ⟨tempData, -, -, taken⟩ := step_senderSend_eq_some.mp taken
        rw [(Link.senderSend_frame taken).1]
        exact packets
    | _ => exact absurd rfl quiet

theorem run_handed {ok : Link → Action → Bool} {actions : List Action} {l next : Link}
    (steps : run (guarded ok step) l actions = some next)
    (calls : ∀ prepare, Action.directStart prepare ∈ actions → PreparesPackets prepare)
    (packets : ∀ packet ∈ l.handed, IsPacket packet) : ∀ packet ∈ next.handed, IsPacket packet := by
  induction actions generalizing l with
  | nil =>
      cases steps
      exact packets
  | cons a actions ih =>
      obtain ⟨m, one, rest⟩ := run_cons_eq_some.mp steps
      refine ih rest (fun prepare later => calls prepare (List.mem_cons_of_mem a later)) ?_
      apply step_handed (guarded_eq_some.mp one).2 _ packets
      rintro prepare rfl
      exact calls prepare List.mem_cons_self

/-- In every run that keeps the framing, a connected client has written whole packets and
at most a part of one that is being continued. -/
theorem stream_framed {t : Client} {actions : List Action} {l : Link}
    (steps : run (guarded keepsFraming step) (start t) actions = some l)
    (up : l.socket.connected = true) :
    l.Framed (guarded keepsFraming step) ∧
      ((∀ prepare, Action.directStart prepare ∈ actions → PreparesPackets prepare) →
        ∀ packet ∈ l.handed, IsPacket packet) := by
  constructor
  · exact (run_invariant Link.Sound step_sound steps (start_sound t)).framed up
  · intro calls
    exact run_handed steps calls (by simp [start])

/-- A ping goes out in two pieces between two queued packets, the second part-written. -/
theorem stream_framed_ping :
    let client := (Client.new.startUp.2.connect [0x61] false .established true).2
    let packet := fun byte => Action.sendProxyData default [byte] 0
    let ping := Action.directStart (Client.message .ping [0, 7])
    ∃ l, run (guarded keepsFraming step) (start client)
      [packet 1, packet 2, .senderTop 5, .senderFetch 5, .senderSend (.written 10) [], ping,
        .directWrite (.failed .eagain), .directPoll .timedOut, .senderTop 5, .senderFetch 5,
        .senderSend (.written 99) [], ping, .directWrite (.written 3), .senderPop,
        .directWrite (.failed .eagain), .directPoll (.ready false), .directWrite (.written 11),
        .senderTop 5, .senderFetch 5, .senderSend (.written 20) []] = some l ∧
      l.Framed (guarded keepsFraming step) ∧ ∀ packet ∈ l.handed, IsPacket packet := by
  intro client packet ping
  have reached : ((run (guarded keepsFraming step) (start client)
      [packet 1, packet 2, .senderTop 5, .senderFetch 5, .senderSend (.written 10) [], ping,
        .directWrite (.failed .eagain), .directPoll .timedOut, .senderTop 5, .senderFetch 5,
        .senderSend (.written 99) [], ping, .directWrite (.written 3), .senderPop,
        .directWrite (.failed .eagain), .directPoll (.ready false), .directWrite (.written 11),
        .senderTop 5, .senderFetch 5, .senderSend (.written 20) []]).map
          fun l => l.socket.connected) = some true := by decide +kernel
  obtain ⟨l, steps, up⟩ := Option.map_eq_some_iff.mp reached
  obtain ⟨framed, packets⟩ := stream_framed steps up
  refine ⟨l, steps, framed, packets ?_⟩
  intro prepare call
  have same : prepare = Client.message .ping [0, 7] := by simpa [packet, ping] using call
  rw [same]
  exact preparesPackets_message .ping [0, 7]

theorem Link.Framed.begins {move : Link → Action → Option Link} {l : Link}
    (framed : l.Framed move) (some : l.wire ≠ []) :
    ∃ packet ∈ l.handed, packet <+: l.wire ∨ l.wire <+: packet := by
  obtain ⟨whole, part, rest, known, continued, wire, -⟩ := framed.packets
  cases whole with
  | nil =>
      rw [List.flatten_nil, List.nil_append] at wire
      rcases continued with none | begun
      · exact absurd (wire.trans none) some
      · refine ⟨part ++ rest, begun, Or.inr ?_⟩
        rw [wire]
        exact List.prefix_append _ _
  | cons first others =>
      refine ⟨first, known first List.mem_cons_self, Or.inl ?_⟩
      rw [wire, List.flatten_cons, List.append_assoc]
      exact List.prefix_append _ _

/-- A ping goes out between two pieces of a queued packet; and a ping that times out after
five bytes is followed by another one. The client is still connected. -/
theorem packets_interleaved :
    let client := (Client.new.startUp.2.connect [0x61] false .established true).2
    let ping := Action.directStart (Client.message .ping [0, 7])
    (∃ l, run step (start client)
        [.sendProxyData default [1] 0, .senderTop 0, .senderFetch 0,
          .senderSend (.written 10) [], ping, .directWrite (.written 14)] = some l ∧
        l.socket.connected = true ∧ ¬ l.Framed step) ∧
      ∃ l, run step (start client)
        [ping, .directWrite (.written 5), .directWrite (.failed .eagain), .directPoll .timedOut,
          ping, .directWrite (.written 14)] = some l ∧
        l.socket.connected = true ∧ ¬ l.Framed step := by
  intro client ping
  have between : (run step (start client)
      [.sendProxyData default [1] 0, .senderTop 0, .senderFetch 0,
        .senderSend (.written 10) [], ping, .directWrite (.written 14)]).map
      (fun l => (l.socket.connected, decide (l.wire = []),
        decide (∃ packet ∈ l.handed, packet <+: l.wire ∨ l.wire <+: packet))) =
      some (true, false, false) := by decide +kernel
  have timedOut : (run step (start client)
      [ping, .directWrite (.written 5), .directWrite (.failed .eagain), .directPoll .timedOut,
        ping, .directWrite (.written 14)]).map
      (fun l => (l.socket.connected, decide (l.wire = []),
        decide (∃ packet ∈ l.handed, packet <+: l.wire ∨ l.wire <+: packet))) =
      some (true, false, false) := by decide +kernel
  have broken : ∀ l : Link, (l.socket.connected, decide (l.wire = []),
      decide (∃ packet ∈ l.handed, packet <+: l.wire ∨ l.wire <+: packet)) = (true, false, false) →
      l.socket.connected = true ∧ ¬ l.Framed step := by
    intro l seen
    simp only [Prod.mk.injEq, decide_eq_false_iff_not] at seen
    exact ⟨seen.1, fun framed => seen.2.2 (framed.begins seen.2.1)⟩
  obtain ⟨first, firstRun, firstSeen⟩ := Option.map_eq_some_iff.mp between
  obtain ⟨second, secondRun, secondSeen⟩ := Option.map_eq_some_iff.mp timedOut
  exact ⟨⟨first, firstRun, broken first firstSeen⟩, ⟨second, secondRun, broken second secondSeen⟩⟩

end RyuLdn.TcpSendQueue
