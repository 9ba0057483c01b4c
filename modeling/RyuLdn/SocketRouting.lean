import RyuLdn.PendingRing

/-! Which proxy sockets a packet reaches. `FindAllSocketsByDestination` is written out
as its two loops over the sockets in the order of the table; the manager's version
of it says what they find. On top: unicast delivery, broadcast fan-out, and the
agreement of the packets that wait with the packets that come live. -/
namespace RyuLdn.SocketRouting

open BsdTypes ProtocolTypes ProxySocket ProxySocketManager LockedProgram Program RingBuffer
open PendingRing.RingManager (matched hand Buffers)

abbrev Entry := Sigma fun _ : Int => Socket

/-- `wildcard_match` is remembered, an exact match ends the loop. -/
def unicastLoop (destIp : UInt32) (destPort : UInt16) (protocol : ProtocolType) :
    (wildcardMatch : Option Entry) → List Entry → Option Entry
  | wildcardMatch, [] => wildcardMatch
  | wildcardMatch, e :: sockets =>
      if e.2.protocol ≠ protocol then unicastLoop destIp destPort protocol wildcardMatch sockets
      else if e.2.localAddr.getPort ≠ destPort then
        unicastLoop destIp destPort protocol wildcardMatch sockets
      else if e.2.localAddr.getAddr = destIp then some e
      else if e.2.localAddr.getAddr = 0 then
        unicastLoop destIp destPort protocol (wildcardMatch.or (some e)) sockets
      else unicastLoop destIp destPort protocol wildcardMatch sockets

/-- `out_sockets[count++]` for each match, as long as there is room. -/
def broadcastLoop (destIp : UInt32) (destPort : UInt16) (protocol : ProtocolType)
    (maxSockets : Nat) : (count : Nat) → List Entry → List Entry
  | _, [] => []
  | count, e :: sockets =>
      if count ≥ maxSockets then []
      else if e.2.protocol ≠ protocol then
        broadcastLoop destIp destPort protocol maxSockets count sockets
      else if e.2.localAddr.getPort ≠ destPort then
        broadcastLoop destIp destPort protocol maxSockets count sockets
      else if e.2.localAddr.getAddr = 0 then
        e :: broadcastLoop destIp destPort protocol maxSockets (count + 1) sockets
      else if destIp = 0xFFFFFFFF || isMulticast destIp then
        e :: broadcastLoop destIp destPort protocol maxSockets (count + 1) sockets
      else if e.2.localAddr.getAddr = destIp then
        e :: broadcastLoop destIp destPort protocol maxSockets (count + 1) sockets
      else if sameSubnet e.2.localAddr.getAddr destIp then
        e :: broadcastLoop destIp destPort protocol maxSockets (count + 1) sockets
      else broadcastLoop destIp destPort protocol maxSockets count sockets

def findAllSocketsByDestination (sockets : List Entry) (destIp : UInt32) (destPort : UInt16)
    (protocol : ProtocolType) (maxSockets : Nat) : List Entry :=
  if maxSockets = 0 then []
  else if !isBroadcast destIp then (unicastLoop destIp destPort protocol none sockets).toList
  else broadcastLoop destIp destPort protocol maxSockets 0 sockets

section Loops

variable (destIp : UInt32) (destPort : UInt16) (protocol : ProtocolType)

def onPort (e : Entry) : Bool := e.2.protocol = protocol && e.2.localAddr.getPort = destPort

def isExact (e : Entry) : Bool :=
  onPort destPort protocol e && e.2.localAddr.getAddr = destIp

def isWildcard (e : Entry) : Bool := onPort destPort protocol e && e.2.localAddr.getAddr = 0

def wants (s : Socket) : Bool :=
  s.protocol = protocol && s.localAddr.getPort = destPort &&
    (s.localAddr.getAddr = 0 || destIp = 0xFFFFFFFF || isMulticast destIp ||
      s.localAddr.getAddr = destIp || sameSubnet s.localAddr.getAddr destIp)

theorem unicastLoop_eq (wildcardMatch : Option Entry) (sockets : List Entry) :
    unicastLoop destIp destPort protocol wildcardMatch sockets =
      (sockets.find? (isExact destIp destPort protocol)).or
        (wildcardMatch.or (sockets.find? (isWildcard destPort protocol))) := by
  induction sockets generalizing wildcardMatch with
  | nil => simp [unicastLoop]
  | cons e sockets ih =>
      rw [unicastLoop, List.find?_cons, List.find?_cons]
      split_ifs with other elsewhere exact any
      · simp [isExact, isWildcard, onPort, other, ih]
      · simp [isExact, isWildcard, onPort, elsewhere, ih]
      · rw [not_not] at other elsewhere
        have found : isExact destIp destPort protocol e = true := by
          simp [isExact, onPort, other, elsewhere, exact]
        rw [found]
        rfl
      · rw [not_not] at other elsewhere
        have missed : isExact destIp destPort protocol e = false := by simp [isExact, exact]
        have found : isWildcard destPort protocol e = true := by
          simp [isWildcard, onPort, other, elsewhere, any]
        rw [missed, found, ih]
        -- the first wildcard hides the later ones
        cases wildcardMatch <;> rfl
      · simp [isExact, isWildcard, exact, any, ih]

theorem broadcastLoop_cons (maxSockets count : Nat) (e : Entry) (sockets : List Entry) :
    broadcastLoop destIp destPort protocol maxSockets count (e :: sockets) =
      if count ≥ maxSockets then []
      else if wants destIp destPort protocol e.2 then
        e :: broadcastLoop destIp destPort protocol maxSockets (count + 1) sockets
      else broadcastLoop destIp destPort protocol maxSockets count sockets := by
  rw [broadcastLoop]
  split_ifs <;> simp_all [wants]

theorem broadcastLoop_eq (maxSockets count : Nat) (sockets : List Entry) :
    broadcastLoop destIp destPort protocol maxSockets count sockets =
      (sockets.filter fun e => wants destIp destPort protocol e.2).take (maxSockets - count) := by
  induction sockets generalizing count with
  | nil => simp [broadcastLoop]
  | cons e sockets ih =>
      rw [broadcastLoop_cons, List.filter_cons]
      split_ifs with full wanted
      · rw [Nat.sub_eq_zero_of_le full, List.take_zero]
      · rw [Nat.sub_eq_zero_of_le full, List.take_zero]
      · have room : maxSockets - count = maxSockets - (count + 1) + 1 := by omega
        rw [ih, room, List.take_succ_cons]
      · rw [ih]

theorem findAllSocketsByDestination_eq (m : Manager) (maxSockets : Nat) :
    ProxySocketManager.findAllSocketsByDestination m destIp destPort protocol maxSockets =
      findAllSocketsByDestination m.sockets.entries destIp destPort protocol maxSockets := by
  unfold ProxySocketManager.findAllSocketsByDestination findAllSocketsByDestination
  dsimp only
  split_ifs
  · rfl
  · have exact : (fun e : Entry => (decide (e.2.protocol = protocol) &&
          decide (e.2.localAddr.getPort = destPort)) && decide (e.2.localAddr.getAddr = destIp)) =
        isExact destIp destPort protocol := rfl
    have any : (fun e : Entry => (decide (e.2.protocol = protocol) &&
          decide (e.2.localAddr.getPort = destPort)) && decide (e.2.localAddr.getAddr = 0)) =
        isWildcard destPort protocol := rfl
    rw [unicastLoop_eq, List.find?_filter, List.find?_filter]
    simp only [Bool.decide_and, Bool.decide_eq_true, exact, any]
    cases m.sockets.entries.find? (isExact destIp destPort protocol) <;> rfl
  · rw [broadcastLoop_eq, List.filter_filter, Nat.sub_zero]
    congr 2
    funext e
    exact Bool.and_comm _ _

end Loops

theorem find?_of_perm {sockets other : List Entry} {p : Entry → Bool} (perm : other.Perm sockets)
    (unique : ∀ a ∈ sockets, ∀ b ∈ sockets, p a = true → p b = true → a = b) :
    other.find? p = sockets.find? p := by
  cases found : sockets.find? p with
  | none =>
      rw [List.find?_eq_none] at found ⊢
      intro e member
      exact found e (perm.mem_iff.mp member)
  | some e =>
      have member := List.mem_of_find?_eq_some found
      have holds := List.find?_some found
      cases first : other.find? p with
      | none =>
          rw [List.find?_eq_none] at first
          exact absurd holds (first e (perm.mem_iff.mpr member))
      | some a =>
          have inside := perm.mem_iff.mp (List.mem_of_find?_eq_some first)
          rw [unique a inside e member (List.find?_some first) holds]

/-- What a unicast lookup promises of a table of sockets. -/
structure PicksMostSpecific (sockets : List Entry) (destIp : UInt32) (destPort : UInt16)
    (protocol : ProtocolType) (found : List Entry) : Prop where
  one : found.length ≤ 1
  registered : ∀ e ∈ found, e ∈ sockets
  exists_iff : found ≠ [] ↔ ∃ e ∈ sockets, e.2.protocol = protocol ∧
    e.2.localAddr.getPort = destPort ∧
      (e.2.localAddr.getAddr = destIp ∨ e.2.localAddr.getAddr = 0)
  fits : ∀ e ∈ found, e.2.protocol = protocol ∧ e.2.localAddr.getPort = destPort ∧
    (e.2.localAddr.getAddr = destIp ∨ e.2.localAddr.getAddr = 0)
  specific : (∃ e ∈ sockets, e.2.protocol = protocol ∧ e.2.localAddr.getPort = destPort ∧
    e.2.localAddr.getAddr = destIp) → ∀ e ∈ found, e.2.localAddr.getAddr = destIp

section Unicast

variable (sockets : List Entry) {destIp : UInt32} (destPort : UInt16) (protocol : ProtocolType)

def mostSpecific (destIp : UInt32) : Option Entry :=
  (sockets.find? (isExact destIp destPort protocol)).or
    (sockets.find? (isWildcard destPort protocol))

theorem findAllSocketsByDestination_unicast (unicast : isBroadcast destIp = false)
    {maxSockets : Nat} (space : 0 < maxSockets) :
    findAllSocketsByDestination sockets destIp destPort protocol maxSockets =
      (mostSpecific sockets destPort protocol destIp).toList := by
  unfold findAllSocketsByDestination mostSpecific
  rw [if_neg (by omega), unicast, unicastLoop_eq]
  rfl

variable {sockets destPort protocol}

theorem isExact_iff {e : Entry} :
    isExact destIp destPort protocol e = true ↔
      e.2.protocol = protocol ∧ e.2.localAddr.getPort = destPort ∧
        e.2.localAddr.getAddr = destIp := by
  simp [isExact, onPort, and_assoc]

theorem isWildcard_iff {e : Entry} :
    isWildcard destPort protocol e = true ↔
      e.2.protocol = protocol ∧ e.2.localAddr.getPort = destPort ∧ e.2.localAddr.getAddr = 0 := by
  simp [isWildcard, onPort, and_assoc]

theorem mostSpecific_eq_some {e : Entry}
    (found : mostSpecific sockets destPort protocol destIp = some e) :
    e ∈ sockets ∧ (isExact destIp destPort protocol e = true ∨
      isWildcard destPort protocol e = true ∧
        ∀ a ∈ sockets, ¬ isExact destIp destPort protocol a = true) := by
  unfold mostSpecific at found
  cases exact : sockets.find? (isExact destIp destPort protocol) with
  | some a =>
      rw [exact, Option.some_or] at found
      cases found
      exact ⟨List.mem_of_find?_eq_some exact, Or.inl (List.find?_some exact)⟩
  | none =>
      rw [exact, Option.none_or] at found
      refine ⟨List.mem_of_find?_eq_some found, Or.inr ⟨List.find?_some found, ?_⟩⟩
      exact List.find?_eq_none.mp exact

theorem mostSpecific_eq_none :
    mostSpecific sockets destPort protocol destIp = none ↔
      ∀ e ∈ sockets, ¬ isExact destIp destPort protocol e = true ∧
        ¬ isWildcard destPort protocol e = true := by
  unfold mostSpecific
  rw [Option.or_eq_none_iff, List.find?_eq_none, List.find?_eq_none]
  exact ⟨fun all e member => ⟨all.1 e member, all.2 e member⟩,
    fun all => ⟨fun e member => (all e member).1, fun e member => (all e member).2⟩⟩

theorem picksMostSpecific :
    PicksMostSpecific sockets destIp destPort protocol
      (mostSpecific sockets destPort protocol destIp).toList := by
  cases found : mostSpecific sockets destPort protocol destIp with
  | none =>
      have nobody := mostSpecific_eq_none.mp found
      constructor
      · simp
      · simp
      · simp only [Option.toList_none, ne_eq, not_true_eq_false, false_iff]
        rintro ⟨e, member, sameProtocol, samePort, exact | any⟩
        · exact (nobody e member).1 (isExact_iff.mpr ⟨sameProtocol, samePort, exact⟩)
        · exact (nobody e member).2 (isWildcard_iff.mpr ⟨sameProtocol, samePort, any⟩)
      · simp
      · simp
  | some e =>
      obtain ⟨member, kind⟩ := mostSpecific_eq_some found
      have fits : e.2.protocol = protocol ∧ e.2.localAddr.getPort = destPort ∧
          (e.2.localAddr.getAddr = destIp ∨ e.2.localAddr.getAddr = 0) := by
        rcases kind with exact | ⟨any, -⟩
        · obtain ⟨sameProtocol, samePort, here⟩ := isExact_iff.mp exact
          exact ⟨sameProtocol, samePort, Or.inl here⟩
        · obtain ⟨sameProtocol, samePort, here⟩ := isWildcard_iff.mp any
          exact ⟨sameProtocol, samePort, Or.inr here⟩
      constructor
      · simp
      · simpa using member
      · simp only [Option.toList_some, ne_eq, List.cons_ne_nil, not_false_eq_true, true_iff]
        exact ⟨e, member, fits⟩
      · simpa using fits
      · rintro ⟨a, inside, sameProtocol, samePort, here⟩
        simp only [Option.toList_some, List.mem_singleton, forall_eq]
        rcases kind with exact | ⟨-, nobody⟩
        · exact (isExact_iff.mp exact).2.2
        · exact absurd (isExact_iff.mpr ⟨sameProtocol, samePort, here⟩) (nobody a inside)

/-- Unicast delivery goes to one socket, the most specific one, and where that is
unique in no matter which order the table is walked. -/
theorem unicast_most_specific (sockets : List Entry) (destIp : UInt32) (destPort : UInt16)
    (protocol : ProtocolType) (maxSockets : Nat) (space : 0 < maxSockets)
    (unicast : isBroadcast destIp = false) :
    PicksMostSpecific sockets destIp destPort protocol
        (findAllSocketsByDestination sockets destIp destPort protocol maxSockets) ∧
      ∀ other : List Entry, other.Perm sockets →
        (∀ a ∈ sockets, ∀ b ∈ sockets, isExact destIp destPort protocol a = true →
          isExact destIp destPort protocol b = true → a = b) →
        (∀ a ∈ sockets, ∀ b ∈ sockets, isWildcard destPort protocol a = true →
          isWildcard destPort protocol b = true → a = b) →
        findAllSocketsByDestination other destIp destPort protocol maxSockets =
          findAllSocketsByDestination sockets destIp destPort protocol maxSockets := by
  constructor
  · rw [findAllSocketsByDestination_unicast sockets destPort protocol unicast space]
    exact picksMostSpecific
  · intro other perm oneExact oneWildcard
    rw [findAllSocketsByDestination_unicast sockets destPort protocol unicast space,
      findAllSocketsByDestination_unicast other destPort protocol unicast space, mostSpecific,
      mostSpecific, find?_of_perm perm oneExact, find?_of_perm perm oneWildcard]

/-- An exact match behind a wildcard still wins. -/
theorem unicast_most_specific_behind_wildcard :
    let any : Entry := ⟨3, { Socket.new .dgram .udp with localAddr := .ofHost 0 80 }⟩
    let exact : Entry := ⟨4, { Socket.new .dgram .udp with localAddr := .ofHost 0x0A720002 80 }⟩
    PicksMostSpecific [any, exact] 0x0A720002 80 .udp
        (findAllSocketsByDestination [any, exact] 0x0A720002 80 .udp 8) ∧
      (findAllSocketsByDestination [any, exact] 0x0A720002 80 .udp 8).map (·.1) = [4] :=
  ⟨(unicast_most_specific _ 0x0A720002 80 .udp 8 (by decide) (by decide)).1, by decide +kernel⟩

end Unicast

structure Packet where
  sourceIp : UInt32
  sourcePort : UInt16
  destIp : UInt32
  destPort : UInt16
  protocol : ProtocolType
  data : List UInt8

namespace Packet

def route (p : Packet) (now : Nat) : Program Manager Bool :=
  routeIncomingData p.sourceIp p.sourcePort p.destIp p.destPort p.protocol p.data now

/-- `IncomingData` of the packet. -/
def received (p : Packet) (s : Socket) : Socket :=
  s.incomingData p.data (.ofHost p.sourceIp p.sourcePort)

def pending (p : Packet) (now : Nat) : PendingPacket :=
  ⟨p.sourceIp, p.sourcePort, p.destIp, p.destPort, p.protocol, now, p.data.take pendingPayloadMax⟩

def IsOwn (p : Packet) (m : Manager) : Prop := m.localIp ≠ 0 ∧ p.sourceIp = m.localIp

def found (p : Packet) (m : Manager) : List Entry :=
  findAllSocketsByDestination m.sockets.entries p.destIp p.destPort p.protocol 8

theorem received_ne (p : Packet) (s : Socket) : p.received s ≠ s := by
  intro same
  exact Ring.pushDropping_ne s.rxRing _ (by decide) (congrArg (·.rxRing) same)

theorem route_own {p : Packet} {m : Manager} (own : p.IsOwn m) (now : Nat) :
    p.route now false m = some (true, m) := by
  unfold IsOwn at own
  unfold route routeIncomingData
  simp only [withLock_free, bind_apply, read_apply, Option.bind_some, id_eq]
  rw [if_pos own]
  rfl

theorem route_none {p : Packet} {m : Manager} (foreign : ¬ p.IsOwn m) (none : p.found m = [])
    (now : Nat) :
    p.route now false m =
      some (false, if p.protocol = .udp then m else bufferPending m (p.pending now)) := by
  unfold IsOwn at foreign
  unfold route routeIncomingData
  simp only [withLock_free, bind_apply, read_apply, Option.bind_some, id_eq]
  rw [if_neg foreign, findAllSocketsByDestination_eq]
  rw [found] at none
  rw [none]
  dsimp only
  split <;> rfl

theorem route_found {p : Packet} {m : Manager} (foreign : ¬ p.IsOwn m) (some_ : p.found m ≠ [])
    (now : Nat) :
    p.route now false m =
      some (true, deliverTo m p.data (.ofHost p.sourceIp p.sourcePort) (p.found m)) := by
  unfold IsOwn at foreign
  unfold route routeIncomingData
  simp only [withLock_free, bind_apply, read_apply, Option.bind_some, id_eq]
  rw [if_neg foreign, findAllSocketsByDestination_eq]
  rw [found] at some_ ⊢
  cases targets : findAllSocketsByDestination m.sockets.entries p.destIp p.destPort p.protocol 8 with
  | nil => exact absurd targets some_
  | cons target others => rfl

end Packet

theorem of_find?_key {entries : List Entry} {fd : Int} {e : Entry}
    (found : entries.find? (fun a => a.1 = fd) = some e) : e ∈ entries ∧ e.1 = fd := by
  have holds := List.find?_some found
  exact ⟨List.mem_of_find?_eq_some found, of_decide_eq_true holds⟩

theorem lookup_deliverTo {m : Manager} {targets : List Entry} (p : Packet)
    (distinct : (targets.map (·.1)).Nodup) (fd : Int) :
    (deliverTo m p.data (.ofHost p.sourceIp p.sourcePort) targets).sockets.lookup fd =
      match targets.find? (fun e => e.1 = fd) with
      | some e => some (p.received e.2)
      | none => m.sockets.lookup fd := by
  induction targets generalizing m with
  | nil => rfl
  | cons e targets ih =>
      rw [List.map_cons, List.nodup_cons] at distinct
      rw [deliverTo, ih distinct.2, List.find?_cons]
      by_cases here : e.1 = fd
      · have later : targets.find? (fun e => decide (e.1 = fd)) = none := by
          rw [List.find?_eq_none]
          intro a member same
          apply distinct.1
          rw [here, ← of_decide_eq_true same]
          exact List.mem_map_of_mem member
        simp only [later, here, decide_true]
        exact Manager.lookup_setSocket m fd _
      · simp only [here, decide_false]
        cases targets.find? (fun e => decide (e.1 = fd)) with
        | some a => rfl
        | none => exact Manager.lookup_setSocket_ne _ (Ne.symm here)

namespace Packet

def targets (p : Packet) (m : Manager) : List Entry :=
  m.sockets.entries.filter fun e => wants p.destIp p.destPort p.protocol e.2

/-- The packet is handed once to each socket it is meant for and to no other. -/
def FansOut (p : Packet) (m : Manager) (now : Nat) : Prop :=
  ∃ answer after, p.route now false m = some (answer, after) ∧
    ∀ fd, after.sockets.lookup fd = (m.sockets.lookup fd).map fun s =>
      if wants p.destIp p.destPort p.protocol s then p.received s else s

theorem found_of_broadcast {p : Packet} (broadcast : isBroadcast p.destIp = true) (m : Manager) :
    p.found m = (p.targets m).take 8 := by
  unfold found findAllSocketsByDestination targets
  rw [broadcast, broadcastLoop_eq]
  rfl

theorem targets_nodup (p : Packet) (m : Manager) : ((p.targets m).map (·.1)).Nodup := by
  have keys : (m.sockets.entries.map (·.1)).Nodup := m.sockets.nodupKeys
  exact keys.sublist (List.filter_sublist.map _)

theorem mem_targets {p : Packet} {m : Manager} {e : Entry} :
    e ∈ p.targets m ↔ m.sockets.lookup e.1 = some e.2 ∧
      wants p.destIp p.destPort p.protocol e.2 = true := by
  rw [targets, List.mem_filter, ← AList.mem_lookup_iff]
  rfl

theorem unchanged_iff (p : Packet) (m : Manager) :
    (∀ fd, m.sockets.lookup fd = (m.sockets.lookup fd).map fun s =>
      if wants p.destIp p.destPort p.protocol s then p.received s else s) ↔ p.targets m = [] := by
  constructor
  · intro same
    by_contra some_
    obtain ⟨e, member⟩ := List.exists_mem_of_ne_nil _ some_
    obtain ⟨found, wanted⟩ := mem_targets.mp member
    have stays := same e.1
    rw [found, Option.map_some, if_pos wanted] at stays
    exact p.received_ne e.2 (Option.some.inj stays).symm
  · intro none fd
    cases found : m.sockets.lookup fd with
    | none => rfl
    | some s =>
        have unwanted : ¬ wants p.destIp p.destPort p.protocol s = true := by
          intro wanted
          have member : (⟨fd, s⟩ : Entry) ∈ p.targets m := mem_targets.mpr ⟨found, wanted⟩
          rw [none] at member
          exact List.not_mem_nil member
        rw [Option.map_some, if_neg unwanted]

theorem lookup_delivered {p : Packet} {m : Manager} {taken : List Entry}
    (sub : taken.Sublist (p.targets m)) {e : Entry} (found : m.sockets.lookup e.1 = some e.2) :
    (deliverTo m p.data (.ofHost p.sourceIp p.sourcePort) taken).sockets.lookup e.1 =
      some (if e ∈ taken then p.received e.2 else e.2) := by
  have distinct : (taken.map (·.1)).Nodup := (p.targets_nodup m).sublist (sub.map _)
  rw [lookup_deliverTo p distinct]
  cases first : taken.find? (fun a => a.1 = e.1) with
  | some a =>
      obtain ⟨member, key⟩ := of_find?_key first
      have registered := (mem_targets.mp (sub.subset member)).1
      rw [key, found] at registered
      have same : a = e := Sigma.ext key (heq_of_eq (Option.some.inj registered).symm)
      rw [same] at member
      rw [if_pos member]
      dsimp only
      rw [same]
  | none =>
      have absent : e ∉ taken := by
        intro member
        exact absurd (decide_eq_true rfl) (List.find?_eq_none.mp first e member)
      rw [if_neg absent]
      exact found

theorem lookup_delivered_none {p : Packet} {m : Manager} {taken : List Entry}
    (sub : taken.Sublist (p.targets m)) {fd : Int} (absent : m.sockets.lookup fd = none) :
    (deliverTo m p.data (.ofHost p.sourceIp p.sourcePort) taken).sockets.lookup fd = none := by
  have distinct : (taken.map (·.1)).Nodup := (p.targets_nodup m).sublist (sub.map _)
  rw [lookup_deliverTo p distinct]
  cases first : taken.find? (fun a => a.1 = fd) with
  | none => exact absent
  | some a =>
      obtain ⟨member, key⟩ := of_find?_key first
      have registered := (mem_targets.mp (sub.subset member)).1
      rw [key, absent] at registered
      cases registered

theorem delivered_iff {p : Packet} {m : Manager} {taken : List Entry}
    (sub : taken.Sublist (p.targets m)) :
    (∀ fd, (deliverTo m p.data (.ofHost p.sourceIp p.sourcePort) taken).sockets.lookup fd =
      (m.sockets.lookup fd).map fun s =>
        if wants p.destIp p.destPort p.protocol s then p.received s else s) ↔
      ∀ e ∈ p.targets m, e ∈ taken := by
  constructor
  · intro fansOut e member
    obtain ⟨found, wanted⟩ := mem_targets.mp member
    by_contra missed
    have reached := fansOut e.1
    rw [lookup_delivered sub found, found, Option.map_some, if_pos wanted, if_neg missed]
      at reached
    exact p.received_ne e.2 (Option.some.inj reached).symm
  · intro all fd
    cases found : m.sockets.lookup fd with
    | none => rw [lookup_delivered_none sub found, Option.map_none]
    | some s =>
        have reached := lookup_delivered sub (e := ⟨fd, s⟩) found
        rw [Option.map_some]
        refine reached.trans (congrArg some ?_)
        by_cases wanted : wants p.destIp p.destPort p.protocol s = true
        · rw [if_pos wanted, if_pos (all ⟨fd, s⟩ (mem_targets.mpr ⟨found, wanted⟩))]
        · rw [if_neg wanted, if_neg]
          intro member
          exact wanted (mem_targets.mp (sub.subset member)).2

theorem targets_taken_iff (p : Packet) (m : Manager) :
    (∀ e ∈ p.targets m, e ∈ (p.targets m).take 8) ↔ (p.targets m).length ≤ 8 := by
  constructor
  · intro all
    by_contra many
    have left : (p.targets m).drop 8 ≠ [] := by
      rw [ne_eq, List.drop_eq_nil_iff]
      exact many
    obtain ⟨e, member⟩ := List.exists_mem_of_ne_nil _ left
    have distinct : (p.targets m).Nodup := (p.targets_nodup m).of_map _
    rw [← List.take_append_drop 8 (p.targets m)] at distinct
    exact List.disjoint_of_nodup_append distinct (all e (List.mem_of_mem_drop member)) member
  · intro few e member
    rw [List.take_of_length_le few]
    exact member

/-- A broadcast reaches everybody it is meant for unless there are more than eight of
them; packets of our own reach nobody. -/
theorem fansOut_iff (p : Packet) (m : Manager) (now : Nat)
    (broadcast : isBroadcast p.destIp = true) :
    p.FansOut m now ↔ p.targets m = [] ∨ ¬ p.IsOwn m ∧ (p.targets m).length ≤ 8 := by
  have ends : ∀ {answer after}, p.route now false m = some (answer, after) →
      (p.FansOut m now ↔ ∀ fd, after.sockets.lookup fd = (m.sockets.lookup fd).map fun s =>
        if wants p.destIp p.destPort p.protocol s then p.received s else s) := by
    intro answer after done
    constructor
    · rintro ⟨answer', after', done', fansOut⟩
      rw [done] at done'
      cases done'
      exact fansOut
    · intro fansOut
      exact ⟨answer, after, done, fansOut⟩
  by_cases own : p.IsOwn m
  · rw [ends (route_own own now), unchanged_iff]
    simp [own]
  · have found := p.found_of_broadcast broadcast m
    by_cases none : p.targets m = []
    · have nobody : p.found m = [] := by rw [found, none, List.take_nil]
      rw [ends (route_none own nobody now)]
      have same : (if p.protocol = .udp then m else bufferPending m (p.pending now)).sockets =
          m.sockets := by
        split <;> rfl
      rw [same, unchanged_iff]
      simp [none]
    · have somebody : p.found m ≠ [] := by
        rw [found, ne_eq, List.take_eq_nil_iff]
        simp [none]
      rw [ends (route_found own somebody now), found, delivered_iff (List.take_sublist _ _),
        targets_taken_iff]
      simp [none, own]

/-- A manager with sockets `0, …, n - 1` on UDP port 80 of the LDN address 10.114.0.2. -/
def crowd (n : Nat) : Manager :=
  (List.range n).foldl (fun m fd => m.setSocket fd
    { Socket.new .dgram .udp with localAddr := .ofHost 0x0A720002 80 }) Manager.init

def announcement : Packet := ⟨0x0A720001, 5000, 0x0A72FFFF, 80, .udp, [1]⟩

theorem fansOut_iff_three :
    isBroadcast announcement.destIp = true ∧ announcement.FansOut (crowd 3) 0 := by
  have broadcast : isBroadcast announcement.destIp = true := by decide
  have few : (announcement.targets (crowd 3)).length ≤ 8 := by decide +kernel
  refine ⟨broadcast, (fansOut_iff announcement (crowd 3) 0 broadcast).mpr (Or.inr ⟨?_, few⟩)⟩
  intro own
  exact own.1 rfl

/-- Of nine sockets on one port, one does not get the broadcast. -/
theorem broadcast_misses_ninth_socket :
    ¬ ∀ (p : Packet) (m : Manager) (now : Nat), m.sockets.keys.length ≤ maxProxySockets →
      ¬ p.IsOwn m → isBroadcast p.destIp = true → p.FansOut m now := by
  intro all
  have foreign : ¬ announcement.IsOwn (crowd 9) := fun own => own.1 rfl
  obtain ⟨answer, after, done, fansOut⟩ :=
    all announcement (crowd 9) 0 (by decide +kernel) foreign (by decide)
  have missed : (announcement.route 0 false (crowd 9)).map
      (fun r => (r.2.sockets.lookup 0).map (·.rxRing.count)) = some (some 0) := by
    decide +kernel
  have wanted : ((crowd 9).sockets.lookup 0).map (fun s =>
      (if wants announcement.destIp announcement.destPort announcement.protocol s then
        announcement.received s else s).rxRing.count) = some 1 := by
    decide +kernel
  rw [done, Option.map_some] at missed
  have reached := congrArg (Option.map fun s : Socket => s.rxRing.count) (fansOut 0)
  rw [Option.map_map] at reached
  have differ : some 0 = some 1 :=
    (Option.some.inj missed).symm.trans (reached.trans wanted)
  exact absurd differ (by decide)

end Packet

def alone (m : Manager) (fd : Int) (s : Socket) : Manager :=
  { m with sockets := (∅ : Registry).insert fd s }

namespace Packet

def DeliveredLive (p : Packet) (m : Manager) (fd : Int) (s : Socket) (now : Nat) : Prop :=
  ∃ answer after, p.route now false (alone m fd s) = some (answer, after) ∧
    after.sockets.lookup fd = some (p.received s)

/-- What `DeliverPendingPackets` hands to the newly bound socket. -/
def handedLate (m : Manager) (s : Socket) (later : Nat) : List PendingPacket :=
  m.pending.filter fun q => !isStale later q && matched s s.localAddr.getPort s.protocol q

theorem deliverPendingPackets_alone (m : Manager) (fd : Int) (s : Socket) (later : Nat) :
    ∃ after, ProxySocketManager.deliverPendingPackets fd s.localAddr.getPort s.protocol later false
        (alone m fd s) = some ((), after) ∧
      after.sockets.lookup fd = some ((handedLate m s later).foldl hand s) := by
  have found : (alone m fd s).sockets.lookup fd = some s := AList.lookup_insert _
  unfold ProxySocketManager.deliverPendingPackets
  simp only [withLock_free, bind_apply, read_apply, Option.bind_some, id_eq, found, update_apply]
  refine ⟨_, rfl, ?_⟩
  dsimp only
  rw [Manager.lookup_setSocket, List.filter_filter]
  have due : (fun q => matched s s.localAddr.getPort s.protocol q && !isStale later q) =
      fun q => !isStale later q && matched s s.localAddr.getPort s.protocol q :=
    funext fun q => Bool.and_comm _ _
  unfold handedLate
  rw [← due]
  rfl

/-- The packet found no socket, waits, and then `s` is bound as the only socket, soon
enough: it gets the packet, with the payload it would have got live, exactly if it
would have got it live. -/
def LateAgrees (p : Packet) (m : Manager) (fd : Int) (s : Socket) (now later : Nat) : Prop :=
  ∃ waiting after, p.route now false m = some (false, waiting) ∧
    ProxySocketManager.deliverPendingPackets fd s.localAddr.getPort s.protocol later false
      (alone waiting fd s) = some ((), after) ∧
    after.sockets.lookup fd = some ((handedLate waiting s later).foldl hand s) ∧
    (p.pending now ∈ handedLate waiting s later ∧ hand s (p.pending now) = p.received s ↔
      p.DeliveredLive m fd s now)

/-- The rule of `FindAllSocketsByDestination` for a table of one socket. -/
def takesLive (p : Packet) (s : Socket) : Bool :=
  s.protocol = p.protocol && s.localAddr.getPort = p.destPort &&
    if isBroadcast p.destIp then
      s.localAddr.getAddr = 0 || p.destIp = 0xFFFFFFFF || isMulticast p.destIp ||
        s.localAddr.getAddr = p.destIp || sameSubnet s.localAddr.getAddr p.destIp
    else s.localAddr.getAddr = p.destIp || s.localAddr.getAddr = 0

theorem found_alone (p : Packet) (m : Manager) (fd : Int) (s : Socket) :
    p.found (alone m fd s) = if p.takesLive s then [⟨fd, s⟩] else [] := by
  have entries : (alone m fd s).sockets.entries = [⟨fd, s⟩] := rfl
  unfold found findAllSocketsByDestination takesLive
  rw [entries, broadcastLoop_eq, unicastLoop_eq, if_neg (show ¬ 8 = 0 by decide)]
  cases broadcast : isBroadcast p.destIp with
  | true =>
      simp only [Bool.not_true, List.filter_cons, List.filter_nil, wants, if_true]
      rw [if_neg Bool.false_ne_true]
      split_ifs <;> rfl
  | false =>
      simp only [Bool.not_false, Bool.false_eq_true, if_false, if_true, List.find?_cons,
        List.find?_nil, Option.none_or, isExact, isWildcard, onPort]
      cases decide (s.protocol = p.protocol) <;>
        cases decide (s.localAddr.getPort = p.destPort) <;>
        cases decide (s.localAddr.getAddr = p.destIp) <;>
        cases decide (s.localAddr.getAddr = 0) <;> rfl

theorem deliveredLive_iff {p : Packet} {m : Manager} (foreign : ¬ p.IsOwn m) (fd : Int)
    (s : Socket) (now : Nat) : p.DeliveredLive m fd s now ↔ p.takesLive s = true := by
  have foreign' : ¬ p.IsOwn (alone m fd s) := foreign
  have registered : (alone m fd s).sockets.lookup fd = some s := AList.lookup_insert _
  cases takes : p.takesLive s with
  | false =>
      have nobody : p.found (alone m fd s) = [] := by rw [found_alone, takes]; rfl
      simp only [Bool.false_eq_true, iff_false]
      rintro ⟨answer, after, done, delivered⟩
      rw [route_none foreign' nobody] at done
      cases done
      have same : (if p.protocol = .udp then alone m fd s else
          bufferPending (alone m fd s) (p.pending now)).sockets = (alone m fd s).sockets := by
        split <;> rfl
      rw [same, registered] at delivered
      exact p.received_ne s (Option.some.inj delivered).symm
  | true =>
      have target : p.found (alone m fd s) = [⟨fd, s⟩] := by rw [found_alone, takes]; rfl
      simp only [iff_true]
      refine ⟨true, _, route_found foreign' (by rw [target]; exact List.cons_ne_nil _ _) now, ?_⟩
      rw [target]
      exact Manager.lookup_setSocket (alone m fd s) fd (p.received s)

/-- Only 255.255.255.255 and multicast tell the two rules apart: live they reach every
bound address, later only those the subnet rule lets through. -/
def SlowPathMisses (p : Packet) (s : Socket) : Prop :=
  s.protocol = p.protocol ∧ s.localAddr.getPort = p.destPort ∧
    (p.destIp = 0xFFFFFFFF ∨ isMulticast p.destIp = true) ∧
    s.localAddr.getAddr ≠ 0 ∧ s.localAddr.getAddr ≠ p.destIp ∧
    ¬ (isBroadcastDestinationIp p.destIp = true ∧
      sameSubnet s.localAddr.getAddr p.destIp = true)

/-- Live the payload arrives as it is, later as much of it as the slot has room for. -/
def CutWhileWaiting (p : Packet) (s : Socket) : Prop :=
  p.takesLive s = true ∧ pendingPayloadMax < p.data.length

theorem isBroadcast_eq (ip : UInt32) :
    isBroadcast ip = (decide (ip = 0xFFFFFFFF) || isBroadcastDestinationIp ip || isMulticast ip) := by
  simp [isBroadcast, isBroadcastDestinationIp, Bool.or_assoc]

theorem rules_agree_iff (sameProtocol samePort any exact subnet limited multicast ends : Bool) :
    ((sameProtocol && samePort && (any || exact || ends && subnet)) = true ↔
      (sameProtocol && samePort &&
        if limited || ends || multicast then any || limited || multicast || exact || subnet
        else exact || any) = true) ↔
      ¬ (sameProtocol = true ∧ samePort = true ∧ (limited = true ∨ multicast = true) ∧
        ¬ any = true ∧ ¬ exact = true ∧ ¬ (ends = true ∧ subnet = true)) := by
  revert subnet limited multicast ends
  cases sameProtocol <;> cases samePort <;> cases any <;> cases exact <;> decide

theorem slow_rule_stricter (sameProtocol samePort any exact subnet limited multicast ends : Bool) :
    (sameProtocol && samePort && (any || exact || ends && subnet)) = true →
      (sameProtocol && samePort &&
        if limited || ends || multicast then any || limited || multicast || exact || subnet
        else exact || any) = true := by
  revert subnet limited multicast ends
  cases sameProtocol <;> cases samePort <;> cases any <;> cases exact <;> decide

section Rules

variable (p : Packet) (s : Socket) (now : Nat)

theorem matched_eq :
    matched s s.localAddr.getPort s.protocol (p.pending now) =
      (decide (s.protocol = p.protocol) && decide (s.localAddr.getPort = p.destPort) &&
        (decide (s.localAddr.getAddr = 0) || decide (s.localAddr.getAddr = p.destIp) ||
          isBroadcastDestinationIp p.destIp && sameSubnet s.localAddr.getAddr p.destIp)) := by
  unfold matched packetMatchesSocketDestination
  have protocols : decide (p.protocol = s.protocol) = decide (s.protocol = p.protocol) :=
    decide_eq_decide.mpr eq_comm
  have ports : decide (p.destPort = s.localAddr.getPort) =
      decide (s.localAddr.getPort = p.destPort) := decide_eq_decide.mpr eq_comm
  rw [← protocols, ← ports]
  rfl

theorem takesLive_eq :
    p.takesLive s =
      (decide (s.protocol = p.protocol) && decide (s.localAddr.getPort = p.destPort) &&
        if decide (p.destIp = 0xFFFFFFFF) || isBroadcastDestinationIp p.destIp ||
          isMulticast p.destIp then
          decide (s.localAddr.getAddr = 0) || decide (p.destIp = 0xFFFFFFFF) ||
            isMulticast p.destIp || decide (s.localAddr.getAddr = p.destIp) ||
            sameSubnet s.localAddr.getAddr p.destIp
        else decide (s.localAddr.getAddr = p.destIp) || decide (s.localAddr.getAddr = 0)) := by
  unfold takesLive
  rw [isBroadcast_eq]

theorem matched_iff_takesLive :
    (matched s s.localAddr.getPort s.protocol (p.pending now) = true ↔ p.takesLive s = true) ↔
      ¬ p.SlowPathMisses s := by
  rw [matched_eq, takesLive_eq, rules_agree_iff]
  unfold SlowPathMisses
  simp only [decide_eq_true_eq, ne_eq]

theorem takesLive_of_matched
    (matches_ : matched s s.localAddr.getPort s.protocol (p.pending now) = true) :
    p.takesLive s = true := by
  rw [matched_eq] at matches_
  rw [takesLive_eq]
  exact slow_rule_stricter _ _ _ _ _ _ _ _ matches_

theorem hand_eq_received_iff :
    hand s (p.pending now) = p.received s ↔ p.data.length ≤ pendingPayloadMax := by
  unfold hand received pending Socket.incomingData
  rw [List.take_take, Nat.min_eq_right (by decide)]
  constructor
  · intro same
    have packets := (Ring.pushDropping_inj _).mp (congrArg (·.rxRing) same)
    have lengths := congrArg (·.data.length) packets
    simp only [List.length_take] at lengths
    have bounds : pendingPayloadMax < maxPayload := by decide
    omega
  · intro fits
    rw [List.take_of_length_le fits, List.take_of_length_le (le_trans fits (by decide))]

end Rules

theorem lateAgrees_iff (p : Packet) (m : Manager) (fd : Int) (s : Socket) (now later : Nat)
    (foreign : ¬ p.IsOwn m) (unmatched : p.found m = []) (notUdp : p.protocol ≠ .udp)
    (fresh : isStale later (p.pending now) = false) :
    p.LateAgrees m fd s now later ↔ ¬ p.SlowPathMisses s ∧ ¬ p.CutWhileWaiting s := by
  have waits : p.route now false m = some (false, bufferPending m (p.pending now)) := by
    rw [route_none foreign unmatched, if_neg notUdp]
  have handed : p.pending now ∈ handedLate (bufferPending m (p.pending now)) s later ↔
      matched s s.localAddr.getPort s.protocol (p.pending now) = true := by
    have member : p.pending now ∈ (bufferPending m (p.pending now)).pending :=
      List.mem_append_right _ (List.mem_singleton_self _)
    rw [handedLate, List.mem_filter, fresh]
    simp [member]
  -- the slow rule is the stricter one, so they differ where the live rule alone says yes
  have compare : (p.pending now ∈ handedLate (bufferPending m (p.pending now)) s later ∧
      hand s (p.pending now) = p.received s ↔ p.DeliveredLive m fd s now) ↔
        ¬ p.SlowPathMisses s ∧ ¬ p.CutWhileWaiting s := by
    have stricter := p.takesLive_of_matched s now
    rw [← matched_iff_takesLive p s now, deliveredLive_iff foreign fd s now, handed,
      hand_eq_received_iff, CutWhileWaiting, not_and, Nat.not_lt]
    tauto
  rw [← compare]
  constructor
  · rintro ⟨waiting, after, done, -, -, agrees⟩
    rw [waits] at done
    cases done
    exact agrees
  · intro agrees
    obtain ⟨after, delivers, reached⟩ :=
      deliverPendingPackets_alone (bufferPending m (p.pending now)) fd s later
    exact ⟨_, after, waits, delivers, reached, agrees⟩

theorem found_init (p : Packet) : p.found Manager.init = [] := by
  have entries : Manager.init.sockets.entries = [] := rfl
  unfold found findAllSocketsByDestination
  rw [entries, unicastLoop, broadcastLoop]
  split_ifs <;> rfl

def webSocket : Socket :=
  { Socket.new .stream .tcp with localAddr := .ofHost 0x0A720002 80, state := .bound }

theorem lateAgrees_iff_unicast :
    let p : Packet := ⟨0x0A720001, 5000, 0x0A720002, 80, .tcp, [1]⟩
    p.found Manager.init = [] ∧ p.LateAgrees Manager.init 7 webSocket 0 100 := by
  intro p
  have matches_ : ¬ p.SlowPathMisses webSocket := fun misses => misses.2.2.2.2.1 (by decide)
  have short : ¬ p.CutWhileWaiting webSocket := fun long => absurd long.2 (by decide)
  refine ⟨p.found_init, ?_⟩
  exact (lateAgrees_iff p Manager.init 7 webSocket 0 100 (fun own => own.1 rfl) p.found_init
    (by decide) (by decide)).mpr ⟨matches_, short⟩

/-- A packet to 255.255.255.255 that had to wait is not delivered. -/
theorem limited_broadcast_lost_while_waiting :
    ¬ ∀ (p : Packet) (m : Manager) (fd : Int) (s : Socket) (now later : Nat), ¬ p.IsOwn m →
      p.found m = [] → p.protocol ≠ .udp → isStale later (p.pending now) = false →
        p.LateAgrees m fd s now later := by
  intro all
  let p : Packet := ⟨0x0A720001, 5000, 0xFFFFFFFF, 80, .tcp, [1]⟩
  have foreign : ¬ p.IsOwn Manager.init := fun own => own.1 rfl
  obtain ⟨waiting, after, done, -, -, agrees⟩ :=
    all p Manager.init 7 webSocket 0 100 foreign p.found_init (by decide) (by decide)
  have live : p.DeliveredLive Manager.init 7 webSocket 0 :=
    (deliveredLive_iff foreign 7 webSocket 0).mpr (by decide)
  have handed : (p.route 0 false Manager.init).map
      (fun r => handedLate r.2 webSocket 100) = some [] := by
    decide +kernel
  rw [done, Option.map_some] at handed
  have member := (agrees.mpr live).1
  rw [Option.some.inj handed] at member
  exact List.not_mem_nil member

end Packet

end RyuLdn.SocketRouting
