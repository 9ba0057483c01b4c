import RyuLdn.FateLedger
import RyuLdn.ProxySocketLocks
import RyuLdn.TransitionSystem

/-! The ring in which packets wait for their socket, slot by slot. `Manager` keeps
these packets in a list; here they are in `m_pending_ring`, with the two loops
that compact it in place, and the operations on the ring are shown to do to its
live entries what the operations on the list do.

`History` runs the operations beside a ledger of every packet that was buffered
and of what became of it. -/
namespace RyuLdn.PendingRing

open BsdTypes ProtocolTypes ProxySocket ProxySocketManager LockedProgram Program RingBuffer
open FateLedger

/-- The manager with its ring; the list of `base` is not looked at. -/
structure RingManager where
  base : Manager
  ring : Ring PendingPacket maxPendingPackets

def noPacket : PendingPacket := ⟨0, 0, 0, 0, .udp, 0, []⟩

namespace RingManager

def init : RingManager := ⟨.init, Ring.fill noPacket (by decide)⟩

def abs (r : RingManager) : Manager := { r.base with pending := r.ring.toList }

def onBase {α : Type} (p : Program Manager α) : Program RingManager α :=
  fun held r => (p held r.base).map fun result => (result.1, { r with base := result.2 })

def updateBase (f : Manager → Manager) : Program RingManager Unit :=
  update fun r => { r with base := f r.base }

def bufferPending (r : RingManager) (packet : PendingPacket) : RingManager :=
  { r with ring := r.ring.pushDropping packet }

def routeIncomingData (sourceIp : UInt32) (sourcePort : UInt16) (destIp : UInt32)
    (destPort : UInt16) (protocol : ProtocolType) (data : List UInt8) (now : Nat) :
    Program RingManager Bool :=
  withLock do
    let r ← read id
    if r.base.localIp ≠ 0 ∧ sourceIp = r.base.localIp then pure true
    else
      match findAllSocketsByDestination r.base destIp destPort protocol 8 with
      | [] =>
          if protocol = .udp then pure false
          else do
            update (bufferPending ·
              ⟨sourceIp, sourcePort, destIp, destPort, protocol, now, data.take pendingPayloadMax⟩)
            pure false
      | target :: targets => do
          updateBase (deliverTo · data (.ofHost sourceIp sourcePort) (target :: targets))
          pure true

/-- The packet is for the socket that was bound to `port`. -/
def matched (s : Socket) (port : UInt16) (protocol : ProtocolType) (p : PendingPacket) : Bool :=
  p.protocol = protocol && p.destPort = port && packetMatchesSocketDestination s p.destIp

/-- `socket->IncomingData(pkt.data, pkt.len, from_addr)`. -/
def hand (s : Socket) (p : PendingPacket) : Socket :=
  s.incomingData p.data (.ofHost p.sourceIp p.sourcePort)

/-- The loop of `DeliverPendingPackets`: a fresh match goes to the socket, another fresh
packet is copied forward. With nothing pending it makes no turn. -/
def deliverLoop (ring : Ring PendingPacket maxPendingPackets) (s : Socket) (port : UInt16)
    (protocol : ProtocolType) (now : Nat) : Ring PendingPacket maxPendingPackets × Socket :=
  ring.compact (fun p => !isStale now p && !matched s port protocol p)
    (fun target p => if !isStale now p && matched s port protocol p then hand target p else target) s

def deliverPendingPackets (fd : Int) (port : UInt16) (protocol : ProtocolType) (now : Nat) :
    Program RingManager Unit :=
  withLock do
    let r ← read id
    match r.base.sockets.lookup fd with
    | none => pure ()
    | some s =>
        update fun r =>
          { base := r.base.setSocket fd (deliverLoop r.ring s port protocol now).2
            ring := (deliverLoop r.ring s port protocol now).1 }

def purges (port : UInt16) (protocol : ProtocolType) (p : PendingPacket) : Bool :=
  p.protocol = protocol && p.destPort = port

def purgeLoop (ring : Ring PendingPacket maxPendingPackets) (port : UInt16)
    (protocol : ProtocolType) : Ring PendingPacket maxPendingPackets :=
  (ring.compact (fun p => !purges port protocol p) (fun done _ => done) ()).1

def purgePending (r : RingManager) (fd : Int) (port : UInt16) (protocol : ProtocolType) :
    RingManager :=
  if port ≠ 0 ∧ r.ring.count > 0 ∧ !sharesEndpoint r.base fd port protocol then
    { r with ring := purgeLoop r.ring port protocol }
  else r

def closeProxySocket (fd : Int) : Program RingManager Bool :=
  withLock do
    let found ← read (·.base.sockets.lookup fd)
    match found with
    | none => pure false
    | some s => do
        let port := s.localAddr.getPort
        if port ≠ 0 then
          updateBase fun m => { m with portPool := m.portPool.releasePort port s.protocol }
        let closed ← onBase (closeSocket s)
        updateBase (·.setSocket fd closed)
        update (purgePending · fd port s.protocol)
        updateBase fun m => { m with sockets := m.sockets.erase fd }
        pure true

def setLocalIp (ip : UInt32) : Program RingManager Unit :=
  withLock do
    update fun r =>
      { base := { r.base with localIp := ip }
        ring := if r.base.localIp ≠ 0 ∧ r.base.localIp ≠ ip ∧ r.ring.count > 0 then r.ring.clear
                else r.ring }

def reset : Program RingManager Unit :=
  withLock do
    let entries ← read (·.base.sockets.entries)
    onBase (closeEach entries)
    update fun r =>
      { base :=
          { r.base with
            sockets := ∅
            portPool := r.base.portPool.releaseAll
            localIp := 0
            sendCallback := none
            proxyConnectCallback := none
            proxyConnectReplyCallback := none
            proxyDisconnectCallback := none }
        ring := r.ring.clear }

def Blind {α : Type} (q : Program Manager α) : Prop :=
  ∀ held m l, q held { m with pending := l } =
    (q held m).map fun result => (result.1, { result.2 with pending := l })

theorem refines_onBase {α : Type} {q : Program Manager α} (blind : Blind q) :
    Refines abs (onBase q) q := by
  intro held r
  rw [abs, blind held r.base, onBase, Option.map_map]
  rfl

theorem refines_updateBase {f : Manager → Manager}
    (blind : ∀ m l, f { m with pending := l } = { f m with pending := l }) :
    Refines abs (updateBase f) (update f) := by
  apply refines_update
  intro r
  exact blind r.base r.ring.toList

theorem blind_closeSocket (s : Socket) : Blind (closeSocket s) := by
  intro held m l
  unfold closeSocket
  cases s.disconnectInfo with
  | none => rfl
  | some info =>
      cases held with
      | true => rfl
      | false =>
          obtain ⟨_, _, _, _, _, _, callback, _, _⟩ := m
          cases callback <;> rfl

theorem blind_closeEach (entries : List (Sigma fun _ : Int => Socket)) :
    Blind (closeEach entries) := by
  induction entries with
  | nil =>
      intro held m l
      rfl
  | cons entry entries ih =>
      intro held m l
      simp only [closeEach, bind_apply, update_apply, blind_closeSocket entry.2 held m l]
      cases closeSocket entry.2 held m with
      | none => rfl
      | some closed => exact ih held (closed.2.setSocket entry.1 closed.1) l

theorem deliverTo_pending (data : List UInt8) (source : SockAddrIn)
    (targets : List (Sigma fun _ : Int => Socket)) (m : Manager) (l : List PendingPacket) :
    deliverTo { m with pending := l } data source targets =
      { deliverTo m data source targets with pending := l } := by
  induction targets generalizing m with
  | nil => rfl
  | cons e targets ih => exact ih (m.setSocket e.1 (e.2.incomingData data source))

theorem abs_bufferPending (r : RingManager) (packet : PendingPacket) :
    ProxySocketManager.bufferPending r.abs packet = (r.bufferPending packet).abs := by
  unfold ProxySocketManager.bufferPending bufferPending abs
  dsimp only
  rw [Ring.toList_pushDropping, Ring.length_toList]
  by_cases full : r.ring.count < maxPendingPackets
  · rw [if_pos full, if_neg (by omega)]
  · rw [if_neg full, if_pos (by omega)]

theorem deliverLoop_spec (ring : Ring PendingPacket maxPendingPackets) (s : Socket)
    (port : UInt16) (protocol : ProtocolType) (now : Nat) :
    (deliverLoop ring s port protocol now).1.toList =
        ring.toList.filter (fun p => !isStale now p && !matched s port protocol p) ∧
      (deliverLoop ring s port protocol now).2 =
        (ring.toList.filter fun p => !isStale now p && matched s port protocol p).foldl hand s := by
  constructor
  · exact Ring.toList_compact _ _ _ _
  · rw [List.foldl_filter]
    exact Ring.compact_snd _ _ _ _

theorem purgeLoop_toList (ring : Ring PendingPacket maxPendingPackets) (port : UInt16)
    (protocol : ProtocolType) :
    (purgeLoop ring port protocol).toList = ring.toList.filter fun p => !purges port protocol p :=
  Ring.toList_compact _ _ _ _

theorem toList_ne_nil {ring : Ring PendingPacket maxPendingPackets} :
    ring.toList ≠ [] ↔ ring.count > 0 := by
  rw [← List.length_pos_iff, Ring.length_toList]

theorem abs_purgePending (r : RingManager) (fd : Int) (port : UInt16) (protocol : ProtocolType) :
    ProxySocketManager.purgePending r.abs fd port protocol =
      (r.purgePending fd port protocol).abs := by
  have same : sharesEndpoint r.abs fd port protocol = sharesEndpoint r.base fd port protocol := rfl
  have some : r.abs.pending ≠ [] ↔ r.ring.count > 0 := toList_ne_nil
  by_cases purge : port ≠ 0 ∧ r.ring.count > 0 ∧ !sharesEndpoint r.base fd port protocol
  · rw [ProxySocketManager.purgePending, purgePending, same, if_pos purge,
      if_pos ⟨purge.1, some.mpr purge.2.1, purge.2.2⟩, abs, abs, purgeLoop_toList]
    rfl
  · rw [ProxySocketManager.purgePending, purgePending, same, if_neg purge,
      if_neg (fun all => purge ⟨all.1, some.mp all.2.1, all.2.2⟩)]

section Refinement

theorem routeIncomingData_refines (sourceIp : UInt32) (sourcePort : UInt16) (destIp : UInt32)
    (destPort : UInt16) (protocol : ProtocolType) (data : List UInt8) (now : Nat) :
    Refines abs (routeIncomingData sourceIp sourcePort destIp destPort protocol data now)
      (ProxySocketManager.routeIncomingData sourceIp sourcePort destIp destPort protocol data
        now) := by
  apply refines_withLock
  apply refines_read_bind
  intro held r
  have targets : findAllSocketsByDestination r.abs destIp destPort protocol 8 =
      findAllSocketsByDestination r.base destIp destPort protocol 8 := rfl
  have address : r.abs.localIp = r.base.localIp := rfl
  rw [targets, address]
  split
  · rfl
  · cases findAllSocketsByDestination r.base destIp destPort protocol 8 with
    | nil =>
        dsimp only
        split
        · rfl
        · simp only [bind_apply, update_apply, Option.bind_some, pure_apply, abs_bufferPending]
          rfl
    | cons target targets =>
        refine refines_bind (refines_updateBase ?_) (fun _ => refines_pure true) held r
        intro m l
        exact deliverTo_pending data _ _ m l

theorem deliverPendingPackets_refines (fd : Int) (port : UInt16) (protocol : ProtocolType)
    (now : Nat) :
    Refines abs (deliverPendingPackets fd port protocol now)
      (ProxySocketManager.deliverPendingPackets fd port protocol now) := by
  apply refines_withLock
  apply refines_read_bind
  intro held r
  have registered : r.abs.sockets.lookup fd = r.base.sockets.lookup fd := rfl
  rw [registered]
  cases r.base.sockets.lookup fd with
  | none => rfl
  | some s =>
      obtain ⟨left, handed⟩ := deliverLoop_spec r.ring s port protocol now
      have same : abs
          { base := r.base.setSocket fd (deliverLoop r.ring s port protocol now).2
            ring := (deliverLoop r.ring s port protocol now).1 } =
          { r.abs.setSocket fd ((((r.ring.toList.filter (!isStale now ·)).filter
              (matched s port protocol))).foldl hand s) with
            pending := (r.ring.toList.filter (!isStale now ·)).filter
              (!matched s port protocol ·) } := by
        rw [abs, left, handed, List.filter_filter, List.filter_filter]
        simp only [Bool.and_comm]
        rfl
      exact congrArg (fun m => some ((), m)) same.symm

theorem closeProxySocket_refines (fd : Int) :
    Refines abs (closeProxySocket fd) (ProxySocketManager.closeProxySocket fd) := by
  apply refines_withLock
  refine refines_bind (refines_read fun _ => rfl) ?_
  intro found
  cases found with
  | none => exact refines_pure false
  | some s =>
      have rest : Refines abs
          (do
            let closed ← onBase (closeSocket s)
            updateBase (·.setSocket fd closed)
            update (purgePending · fd s.localAddr.getPort s.protocol)
            updateBase fun m => { m with sockets := m.sockets.erase fd }
            pure true)
          (do
            let closed ← closeSocket s
            update (·.setSocket fd closed)
            update (ProxySocketManager.purgePending · fd s.localAddr.getPort s.protocol)
            update fun m => { m with sockets := m.sockets.erase fd }
            pure true) := by
        refine refines_bind (refines_onBase (blind_closeSocket s)) fun closed => ?_
        refine refines_bind (refines_updateBase fun _ _ => rfl) fun _ => ?_
        refine refines_bind (refines_update fun r => abs_purgePending r _ _ _) fun _ => ?_
        exact refines_bind (refines_updateBase fun _ _ => rfl) fun _ => refines_pure true
      dsimp only
      by_cases port : s.localAddr.getPort ≠ 0
      · rw [if_pos port, if_pos port]
        exact refines_bind (refines_updateBase fun _ _ => rfl) fun _ => rest
      · rw [if_neg port, if_neg port]
        exact rest

theorem setLocalIp_refines (ip : UInt32) :
    Refines abs (setLocalIp ip) (ProxySocketManager.setLocalIp ip) := by
  apply refines_withLock
  apply refines_update
  intro r
  have some : r.ring.toList ≠ [] ↔ r.ring.count > 0 := toList_ne_nil
  unfold abs
  by_cases clears : r.base.localIp ≠ 0 ∧ r.base.localIp ≠ ip ∧ r.ring.count > 0
  · simp only [if_pos clears, if_pos (⟨clears.1, clears.2.1, some.mpr clears.2.2⟩ :
      r.base.localIp ≠ 0 ∧ r.base.localIp ≠ ip ∧ r.ring.toList ≠ []), Ring.toList_clear]
  · simp only [if_neg clears, if_neg (fun all : r.base.localIp ≠ 0 ∧ r.base.localIp ≠ ip ∧
      r.ring.toList ≠ [] => clears ⟨all.1, all.2.1, some.mp all.2.2⟩)]

theorem reset_refines : Refines abs reset ProxySocketManager.reset := by
  apply refines_withLock
  refine refines_bind (refines_read fun _ => rfl) ?_
  intro entries
  refine refines_bind (refines_onBase (blind_closeEach entries)) ?_
  intro _
  apply refines_update
  intro r
  unfold abs
  dsimp only
  rw [Ring.toList_clear]

end Refinement

def Buffers (m : Manager) (sourceIp destIp : UInt32) (destPort : UInt16)
    (protocol : ProtocolType) : Prop :=
  ¬ (m.localIp ≠ 0 ∧ sourceIp = m.localIp) ∧
    (findAllSocketsByDestination m destIp destPort protocol 8).isEmpty = true ∧ protocol ≠ .udp

instance (m : Manager) (sourceIp destIp : UInt32) (destPort : UInt16) (protocol : ProtocolType) :
    Decidable (Buffers m sourceIp destIp destPort protocol) :=
  inferInstanceAs (Decidable (_ ∧ _ ∧ _))

theorem routeIncomingData_ring {r after : RingManager} {taken : Bool} {sourceIp : UInt32}
    {sourcePort : UInt16} {destIp : UInt32} {destPort : UInt16} {protocol : ProtocolType}
    {data : List UInt8} {now : Nat}
    (done : routeIncomingData sourceIp sourcePort destIp destPort protocol data now false r =
      some (taken, after)) :
    after.ring =
      if Buffers r.base sourceIp destIp destPort protocol then
        r.ring.pushDropping
          ⟨sourceIp, sourcePort, destIp, destPort, protocol, now, data.take pendingPayloadMax⟩
      else r.ring := by
  unfold routeIncomingData at done
  simp only [withLock_free, bind_apply, read_apply, Option.bind_some, id_eq] at done
  by_cases own : r.base.localIp ≠ 0 ∧ sourceIp = r.base.localIp
  · rw [if_pos own] at done
    cases done
    rw [if_neg (fun all => all.1 own)]
  · rw [if_neg own] at done
    cases targets : findAllSocketsByDestination r.base destIp destPort protocol 8 with
    | nil =>
        rw [targets] at done
        dsimp only at done
        by_cases udp : protocol = .udp
        · rw [if_pos udp] at done
          cases done
          rw [if_neg (fun all => all.2.2 udp)]
        · rw [if_neg udp] at done
          cases done
          rw [if_pos ⟨own, by rw [targets]; rfl, udp⟩]
          rfl
    | cons target targets' =>
        rw [targets] at done
        cases done
        rw [if_neg (fun all => by simp [Buffers, targets] at all)]

theorem closeProxySocket_absent {r : RingManager} {fd : Int}
    (absent : r.base.sockets.lookup fd = none) :
    closeProxySocket fd false r = some (false, r) := by
  simp [closeProxySocket, absent]

theorem closeProxySocket_found {r : RingManager} {fd : Int} {s : Socket}
    (found : r.base.sockets.lookup fd = some s) :
    ∃ pool, closeProxySocket fd false r =
      if HasPeer s then none
      else
        let closed : Manager := { r.base with portPool := pool }
        let purged := purgePending { r with base := closed.setSocket fd s.closed } fd
          s.localAddr.getPort s.protocol
        some (true, { purged with
          base := { purged.base with sockets := purged.base.sockets.erase fd } }) := by
  unfold closeProxySocket
  simp only [withLock_free, bind_apply, read_apply, Option.bind_some, found]
  by_cases port : s.localAddr.getPort ≠ 0
  · refine ⟨r.base.portPool.releasePort s.localAddr.getPort s.protocol, ?_⟩
    rw [if_pos port]
    simp only [bind_apply, updateBase, update_apply, Option.bind_some, onBase, closeSocket_held]
    split <;> rfl
  · refine ⟨r.base.portPool, ?_⟩
    rw [if_neg port]
    simp only [bind_apply, updateBase, update_apply, onBase, closeSocket_held]
    split <;> rfl

theorem sharesEndpoint_iff (m : Manager) (fd : Int) (port : UInt16) (protocol : ProtocolType) :
    sharesEndpoint m fd port protocol = true ↔
      ∃ other s, other ≠ fd ∧ m.sockets.lookup other = some s ∧ s.protocol = protocol ∧
        s.localAddr.getPort = port := by
  unfold sharesEndpoint
  rw [List.any_eq_true]
  constructor
  · rintro ⟨⟨other, s⟩, member, here⟩
    simp only [Bool.and_eq_true, decide_eq_true_eq, ne_eq] at here
    exact ⟨other, s, here.1.1, AList.mem_lookup_iff.mpr member, here.1.2, here.2⟩
  · rintro ⟨other, s, apart, found, sameProtocol, samePort⟩
    refine ⟨⟨other, s⟩, AList.mem_lookup_iff.mp found, ?_⟩
    simp [apart, sameProtocol, samePort]

theorem sharesEndpoint_setSocket (m : Manager) (fd : Int) (s : Socket) (port : UInt16)
    (protocol : ProtocolType) :
    sharesEndpoint (m.setSocket fd s) fd port protocol = sharesEndpoint m fd port protocol := by
  rw [Bool.eq_iff_iff, sharesEndpoint_iff, sharesEndpoint_iff]
  constructor
  · rintro ⟨other, t, apart, found, rest⟩
    rw [Manager.lookup_setSocket_ne s apart] at found
    exact ⟨other, t, apart, found, rest⟩
  · rintro ⟨other, t, apart, found, rest⟩
    rw [← Manager.lookup_setSocket_ne s apart] at found
    exact ⟨other, t, apart, found, rest⟩

def closedTo (r : RingManager) (fd : Int) (s : Socket) : List PendingPacket :=
  if s.localAddr.getPort ≠ 0 ∧ !sharesEndpoint r.base fd s.localAddr.getPort s.protocol then
    r.ring.toList.filter fun p => !purges s.localAddr.getPort s.protocol p
  else r.ring.toList

theorem toList_purgePending (r : RingManager) (fd : Int) (port : UInt16)
    (protocol : ProtocolType) :
    (r.purgePending fd port protocol).ring.toList =
      if port ≠ 0 ∧ !sharesEndpoint r.base fd port protocol then
        r.ring.toList.filter fun p => !purges port protocol p
      else r.ring.toList := by
  unfold purgePending
  by_cases empty : r.ring.count > 0
  · by_cases purge : port ≠ 0 ∧ !sharesEndpoint r.base fd port protocol
    · rw [if_pos ⟨purge.1, empty, purge.2⟩, if_pos purge]
      exact purgeLoop_toList r.ring port protocol
    · rw [if_neg (fun all => purge ⟨all.1, all.2.2⟩), if_neg purge]
  · have nothing : r.ring.toList = [] := by
      by_contra some
      exact empty (toList_ne_nil.mp some)
    rw [if_neg (fun all => empty all.2.1), nothing]
    simp

theorem closeProxySocket_quiet {r : RingManager} {fd : Int} {s : Socket}
    (found : r.base.sockets.lookup fd = some s) (quiet : ¬ HasPeer s) :
    ∃ after, closeProxySocket fd false r = some (true, after) ∧
      after.ring.toList = closedTo r fd s := by
  obtain ⟨pool, done⟩ := closeProxySocket_found found
  rw [if_neg quiet] at done
  refine ⟨_, done, ?_⟩
  dsimp only
  rw [toList_purgePending, sharesEndpoint_setSocket]
  rfl

theorem deliverPendingPackets_found {r : RingManager} {fd : Int} {s : Socket}
    (found : r.base.sockets.lookup fd = some s) (port : UInt16) (protocol : ProtocolType)
    (now : Nat) :
    deliverPendingPackets fd port protocol now false r =
      some ((), { base := r.base.setSocket fd (deliverLoop r.ring s port protocol now).2
                  ring := (deliverLoop r.ring s port protocol now).1 }) := by
  unfold deliverPendingPackets
  simp only [withLock_free, bind_apply, read_apply, Option.bind_some, id_eq, found, update_apply]

theorem reset_ring {r after : RingManager} (done : reset false r = some ((), after)) :
    after.ring.toList = [] := by
  unfold reset at done
  simp only [withLock_free, bind_apply, read_apply, Option.bind_some, Option.bind_eq_some_iff,
    update_apply] at done
  obtain ⟨closed, -, cleared⟩ := done
  cases cleared
  exact Ring.toList_clear _

end RingManager

open RingManager TransitionSystem

inductive Fate where
  | delivered (fd : Int)
  | expired
  | purged
  | evicted
  | cleared
  deriving DecidableEq

inductive Operation where
  | routeIncomingData (sourceIp : UInt32) (sourcePort : UInt16) (destIp : UInt32)
      (destPort : UInt16) (protocol : ProtocolType) (data : List UInt8) (now : Nat)
  | deliverPendingPackets (fd : Int) (port : UInt16) (protocol : ProtocolType) (now : Nat)
  | closeProxySocket (fd : Int)
  | setLocalIp (ip : UInt32)
  | reset
  | other (change : Manager → Manager)

def Operation.program : Operation → Program RingManager Unit
  | .routeIncomingData sourceIp sourcePort destIp destPort protocol data now =>
      (RingManager.routeIncomingData sourceIp sourcePort destIp destPort protocol data now).discard
  | .deliverPendingPackets fd port protocol now =>
      RingManager.deliverPendingPackets fd port protocol now
  | .closeProxySocket fd => (RingManager.closeProxySocket fd).discard
  | .setLocalIp ip => RingManager.setLocalIp ip
  | .reset => RingManager.reset
  | .other change => updateBase change

def deliveryFate (fd : Int) (s : Socket) (port : UInt16) (protocol : ProtocolType) (now : Nat)
    (p : PendingPacket) : Option Fate :=
  if isStale now p then some .expired
  else if matched s port protocol p then some (.delivered fd)
  else none

def purgeFate (port : UInt16) (protocol : ProtocolType) (p : PendingPacket) : Option Fate :=
  if purges port protocol p then some .purged else none

/-- The entry an operation makes in the ledger; the ring is not looked at. -/
def record (m : Manager) (l : Ledger PendingPacket Fate) : Operation → Ledger PendingPacket Fate
  | .routeIncomingData sourceIp sourcePort destIp destPort protocol data now =>
      if Buffers m sourceIp destIp destPort protocol then
        addBounded maxPendingPackets .evicted l
          ⟨sourceIp, sourcePort, destIp, destPort, protocol, now, data.take pendingPayloadMax⟩
      else l
  | .deliverPendingPackets fd port protocol now =>
      match m.sockets.lookup fd with
      | some s => settle (deliveryFate fd s port protocol now) l
      | none => l
  | .closeProxySocket fd =>
      match m.sockets.lookup fd with
      | some s =>
          if s.localAddr.getPort ≠ 0 ∧ !sharesEndpoint m fd s.localAddr.getPort s.protocol then
            settle (purgeFate s.localAddr.getPort s.protocol) l
          else l
      | none => l
  | .setLocalIp ip =>
      if m.localIp ≠ 0 ∧ m.localIp ≠ ip then settle (fun _ => some .cleared) l else l
  | .reset => settle (fun _ => some .cleared) l
  | .other _ => l

structure History where
  manager : RingManager
  ledger : Ledger PendingPacket Fate

namespace History

def start : History := ⟨.init, []⟩

def step (h : History) (op : Operation) : Option History :=
  (op.program false h.manager).map fun result =>
    ⟨result.2, record h.manager.base h.ledger op⟩

/-- The ring holds the packets of the ledger that nothing has happened to, and the
operations that take packets out of it take out the ones they should. -/
structure IsBoundedList (h : History) : Prop where
  contents : h.manager.ring.toList = live h.ledger
  count : h.manager.ring.count ≤ maxPendingPackets
  tail : h.manager.ring.tail =
    (h.manager.ring.head + h.manager.ring.count) % maxPendingPackets
  notUdp : ∀ p ∈ items h.ledger, p.protocol ≠ .udp
  delivers : ∀ fd s, h.manager.base.sockets.lookup fd = some s → ∀ port protocol now,
    ∃ after, RingManager.deliverPendingPackets fd port protocol now false h.manager =
        some ((), after) ∧
      after.base.sockets.lookup fd = some
        (((live h.ledger).filter fun p => !isStale now p && matched s port protocol p).foldl
          hand s) ∧
      after.ring.toList =
        (live h.ledger).filter fun p => !isStale now p && !matched s port protocol p
  purges : ∀ fd s, h.manager.base.sockets.lookup fd = some s → ¬ HasPeer s →
    ∃ after, RingManager.closeProxySocket fd false h.manager = some (true, after) ∧
      after.ring.toList =
        if s.localAddr.getPort ≠ 0 ∧
            !sharesEndpoint h.manager.base fd s.localAddr.getPort s.protocol then
          (live h.ledger).filter fun p =>
            !(p.protocol = s.protocol && p.destPort = s.localAddr.getPort)
        else live h.ledger

structure Sound (h : History) : Prop where
  contents : h.manager.ring.toList = live h.ledger
  notUdp : ∀ p ∈ items h.ledger, p.protocol ≠ .udp

theorem Sound.isBoundedList {h : History} (sound : h.Sound) : h.IsBoundedList := by
  constructor
  · exact sound.contents
  · exact h.manager.ring.count_le
  · exact h.manager.ring.tail_eq
  · exact sound.notUdp
  · intro fd s found port protocol now
    obtain ⟨left, handed⟩ := deliverLoop_spec h.manager.ring s port protocol now
    refine ⟨_, deliverPendingPackets_found found port protocol now, ?_, ?_⟩
    · rw [Manager.lookup_setSocket, handed, sound.contents]
    · rw [left, sound.contents]
  · intro fd s found quiet
    obtain ⟨after, done, left⟩ := closeProxySocket_quiet found quiet
    refine ⟨after, done, ?_⟩
    rw [left, closedTo, sound.contents]
    rfl

theorem live_deliveryFate (fd : Int) (s : Socket) (port : UInt16) (protocol : ProtocolType)
    (now : Nat) (l : Ledger PendingPacket Fate) :
    live (settle (deliveryFate fd s port protocol now) l) =
      (live l).filter fun p => !isStale now p && !matched s port protocol p := by
  rw [live_settle]
  congr 1
  funext p
  unfold deliveryFate
  cases isStale now p <;> cases matched s port protocol p <;> rfl

theorem live_purgeFate (port : UInt16) (protocol : ProtocolType) (l : Ledger PendingPacket Fate) :
    live (settle (purgeFate port protocol) l) =
      (live l).filter fun p => !RingManager.purges port protocol p := by
  rw [live_settle]
  congr 1
  funext p
  unfold purgeFate
  cases RingManager.purges port protocol p <;> rfl

theorem live_cleared (l : Ledger PendingPacket Fate) :
    live (settle (fun _ => some Fate.cleared) l) = [] := by
  rw [live_settle]
  simp

theorem contents_step {h after : History} {op : Operation} (taken : h.step op = some after)
    (contents : h.manager.ring.toList = live h.ledger) :
    after.manager.ring.toList = live after.ledger := by
  obtain ⟨⟨⟨⟩, r⟩, done, rfl⟩ := Option.map_eq_some_iff.mp taken
  cases op with
  | routeIncomingData sourceIp sourcePort destIp destPort protocol data now =>
      obtain ⟨answer, routed⟩ := discard_eq_some.mp done
      have ring := routeIncomingData_ring routed
      simp only [record]
      rw [ring]
      split
      · rw [Ring.toList_pushDropping, live_addBounded, ← contents, Ring.length_toList]
        by_cases room : h.manager.ring.count < maxPendingPackets
        · rw [if_pos room, if_neg (by omega)]
        · rw [if_neg room, if_pos (by omega)]
      · exact contents
  | deliverPendingPackets fd port protocol now =>
      simp only [record]
      cases found : h.manager.base.sockets.lookup fd with
      | none =>
          have idle : RingManager.deliverPendingPackets fd port protocol now false h.manager =
              some ((), h.manager) := by
            simp [RingManager.deliverPendingPackets, found]
          rw [Operation.program, idle] at done
          cases done
          exact contents
      | some s =>
          rw [Operation.program, deliverPendingPackets_found found] at done
          cases done
          rw [(deliverLoop_spec h.manager.ring s port protocol now).1, live_deliveryFate, contents]
  | closeProxySocket fd =>
      obtain ⟨answer, closed⟩ := discard_eq_some.mp done
      simp only [record]
      cases found : h.manager.base.sockets.lookup fd with
      | none =>
          rw [closeProxySocket_absent found] at closed
          cases closed
          exact contents
      | some s =>
          by_cases peer : HasPeer s
          · obtain ⟨pool, stops⟩ := closeProxySocket_found found
            rw [stops, if_pos peer] at closed
            cases closed
          · obtain ⟨after, quiet, left⟩ := closeProxySocket_quiet found peer
            rw [quiet] at closed
            cases closed
            rw [left, closedTo, contents]
            dsimp only
            split
            · rw [live_purgeFate]
            · rfl
  | setLocalIp ip =>
      cases done
      simp only [record]
      by_cases changes : h.manager.base.localIp ≠ 0 ∧ h.manager.base.localIp ≠ ip
      · rw [if_pos changes, live_cleared]
        by_cases some : h.manager.ring.count > 0
        · rw [if_pos ⟨changes.1, changes.2, some⟩, Ring.toList_clear]
        · rw [if_neg (fun all => some all.2.2)]
          by_contra nonempty
          exact some (toList_ne_nil.mp nonempty)
      · rw [if_neg changes, if_neg (fun all => changes ⟨all.1, all.2.1⟩)]
        exact contents
  | reset =>
      rw [reset_ring done]
      exact (live_cleared h.ledger).symm
  | other change =>
      cases done
      exact contents

theorem record_cases (m : Manager) (l : Ledger PendingPacket Fate) (op : Operation) :
    record m l op = l ∨ (∃ f, record m l op = settle f l) ∨
      ∃ p : PendingPacket, p.protocol ≠ .udp ∧
        record m l op = addBounded maxPendingPackets .evicted l p := by
  cases op with
  | routeIncomingData sourceIp sourcePort destIp destPort protocol data now =>
      simp only [record]
      split
      · rename_i buffers
        exact Or.inr (Or.inr ⟨_, buffers.2.2, rfl⟩)
      · exact Or.inl rfl
  | deliverPendingPackets fd port protocol now =>
      simp only [record]
      split
      · exact Or.inr (Or.inl ⟨_, rfl⟩)
      · exact Or.inl rfl
  | closeProxySocket fd =>
      simp only [record]
      split
      · split
        · exact Or.inr (Or.inl ⟨_, rfl⟩)
        · exact Or.inl rfl
      · exact Or.inl rfl
  | setLocalIp ip =>
      simp only [record]
      split
      · exact Or.inr (Or.inl ⟨_, rfl⟩)
      · exact Or.inl rfl
  | reset => exact Or.inr (Or.inl ⟨fun _ => some Fate.cleared, rfl⟩)
  | other change => exact Or.inl rfl

theorem notUdp_record {m : Manager} {l : Ledger PendingPacket Fate}
    (before : ∀ p ∈ items l, p.protocol ≠ .udp) (op : Operation) :
    ∀ p ∈ items (record m l op), p.protocol ≠ .udp := by
  rcases record_cases m l op with same | ⟨f, settled⟩ | ⟨packet, notUdp, added⟩
  · rw [same]
    exact before
  · rw [settled, items_settle]
    exact before
  · rw [added, items_addBounded]
    intro p member
    rcases List.mem_append.mp member with old | new
    · exact before p old
    · rw [List.mem_singleton.mp new]
      exact notUdp

theorem extends_record (m : Manager) (l : Ledger PendingPacket Fate) (op : Operation) :
    Extends l (record m l op) := by
  rcases record_cases m l op with same | ⟨f, settled⟩ | ⟨packet, -, added⟩
  · rw [same]
    exact Extends.refl l
  · rw [settled]
    exact extends_settle f l
  · rw [added]
    exact extends_addBounded _ _ _ _

theorem ledger_step {h after : History} {op : Operation} (taken : h.step op = some after) :
    after.ledger = record h.manager.base h.ledger op := by
  obtain ⟨result, -, rfl⟩ := Option.map_eq_some_iff.mp taken
  rfl

theorem sound_step {h after : History} {op : Operation} (taken : h.step op = some after)
    (sound : h.Sound) : after.Sound := by
  constructor
  · exact contents_step taken sound.contents
  · rw [ledger_step taken]
    exact notUdp_record sound.notUdp op

theorem sound_start : start.Sound := ⟨Ring.toList_fill _ _, fun _ none => absurd none List.not_mem_nil⟩

end History

end RyuLdn.PendingRing
