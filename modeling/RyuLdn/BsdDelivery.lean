import RyuLdn.BsdRouting
import RyuLdn.DatagramRelay
import RyuLdn.FateLedger
import RyuLdn.ProxySocketQueue

/-! What the games get out of their sockets. For each descriptor with a proxy a log keeps
the datagrams that the manager handed to it and what the receive calls answered. The log
is written from the routing and from the replies; it never looks into a ring. -/
namespace RyuLdn.BsdDelivery

open BsdTypes ProtocolTypes ProxySocket ProxySocketManager BsdMitmService BsdBindSteps
open BsdBookkeeping hiding Action step
open BsdSocketOptions hiding Reply Action step Keeps
open BsdRouting hiding step Keeps
open BsdCommands FateLedger RingBuffer LockedProgram Program TransitionSystem
open ProxySocketStream (peeks)

/-- Read into a buffer of `len` bytes, or pushed out by a newer datagram. -/
inductive Fate where
  | read (len : Nat)
  | dropped
  deriving DecidableEq

structure Log where
  ledger : Ledger ReceivedPacket Fate
  got : List (List UInt8)

namespace Log

def empty : Log := ⟨[], []⟩

def arrive (log : Log) (packets : List ReceivedPacket) : Log :=
  { log with ledger := packets.foldl (addBounded maxQueueSize .dropped) log.ledger }

def take (log : Log) (len : Nat) (bytes : List UInt8) : Log :=
  ⟨settleOldest (.read len) log.ledger, log.got ++ [bytes]⟩

end Log

def bytesRead (packet : ReceivedPacket) : Fate → Option (List UInt8)
  | .read len => some (packet.data.take len)
  | .dropped => none

structure Tracked where
  bsd : Bsd
  logs : Int → Log

def Tracked.init : Tracked := ⟨.init, fun _ => .empty⟩

def stored (sourceIp : UInt32) (sourcePort : UInt16) (data : List UInt8) : ReceivedPacket :=
  ⟨.ofHost sourceIp sourcePort, data.take maxPayload⟩

def handedTo (m : Manager) (info : ProxyInfo) (protocol : BsdTypes.ProtocolType)
    (data : List UInt8) (fd : Int) : List ReceivedPacket :=
  if m.localIp ≠ 0 ∧ info.sourceIpv4 = m.localIp then []
  else if fd ∈ (LdnDataPath.targetsOf m info protocol).map (·.1) then
    [stored info.sourceIpv4 info.sourcePort data]
  else []

def takenOver (m : Manager) (protocol : BsdTypes.ProtocolType) (s : Socket) (port : UInt16)
    (now : Nat) : List ReceivedPacket :=
  ((m.pending.filter (!isStale now ·)).filter fun p =>
    p.protocol = protocol && p.destPort = port && packetMatchesSocketDestination s p.destIp).map
      fun p => stored p.sourceIp p.sourcePort p.data

/-- The proxy that a `Bind` binds, bound: the one that is there and has no address yet, or
a new one. -/
def boundBy (b : Bsd) (fd : Int) (info : SocketInfo) (addr : SockAddrIn) : Option Socket :=
  if obtainable b.manager.portPool info.protocol addr.getPort then
    match b.manager.sockets.lookup fd with
    | some s =>
        if s.state = .created then some { s with localAddr := boundAddress b info addr } else none
    | none =>
        if isFull b.manager then none
        else some { Socket.new info.type info.protocol with localAddr := boundAddress b info addr }
  else none

def arrivals (b : Bsd) : Action → Int → List ReceivedPacket
  | .incomingData info protocol data _ => handedTo b.manager info protocol data
  | .command (.bind fd (some addr) now) =>
      Function.update (fun _ => []) fd <|
        if isProxied addr then
          match b.socketInfo.lookup fd with
          | some info =>
              match boundBy b fd info addr with
              | some s => takenOver b.manager info.protocol s s.localAddr.getPort now
              | none => []
          | none => []
        else []
  | _ => fun _ => []

def receives : Command → Option (Nat × UInt32)
  | .recv len flags => some (len, flags)
  | .read len => some (len, 0)
  | .recvFrom len flags _ => some (len, flags)
  | _ => none

def receiving : Action → Option (Int × Nat × UInt32)
  | .call fd c => (receives c).map fun (len, flags) => (fd, len, flags)
  | .resume fd len flags _ _ => some (fd, len, flags)
  | _ => none

def taken (a : Action) (reply : BsdCommands.Reply) (fd : Int) : Option (Nat × List UInt8) :=
  match receiving a, reply with
  | some (j, len, flags), .received bytes _ =>
      if j = fd ∧ peeks flags = false then some (len, bytes) else none
  | _, _ => none

def answered : Action → Program Bsd BsdCommands.Reply
  | .call fd c => c.program fd
  | .resume fd len flags addrSize wantSource => BsdCommands.resume fd len flags addrSize wantSource
  | a => do
      a.program
      pure .done

/-- The log of a descriptor after a step; a proxy that is new starts with an empty one. -/
def note (t : Tracked) (a : Action) (reply : BsdCommands.Reply) (fd : Int) : Log :=
  let log := if fd ∈ t.bsd.manager.sockets then t.logs fd else .empty
  match taken a reply fd with
  | some (len, bytes) => log.take len bytes
  | none => log.arrive (arrivals t.bsd a fd)

def step (t : Tracked) (a : Action) : Option Tracked :=
  (answered a false t.bsd).map fun (reply, b) => ⟨b, note t a reply⟩

/-- The ring of each proxy holds the datagrams of its log that have no fate yet, oldest
first, and what the game has got are those with the fate `read`, in their order. -/
def Accounted (t : Tracked) : Prop :=
  ∀ fd s, t.bsd.manager.sockets.lookup fd = some s →
    s.rxRing.toList = live (t.logs fd).ledger ∧
      (t.logs fd).got = outcomes bytesRead (t.logs fd).ledger

def refill (waiting packets : List ReceivedPacket) : List ReceivedPacket :=
  packets.foldl (fun l p => mostRecent maxQueueSize (l ++ [p])) waiting

def Readable (s : Socket) : Prop := s.shutdownRead = false ∧ s.state ≠ .closed

structure Grown (packets : List ReceivedPacket) (s s' : Socket) : Prop where
  readable : Readable s → Readable s'
  ring : s'.rxRing.toList = refill s.rxRing.toList packets

structure Moves (came : Int → List ReceivedPacket) (m m' : Manager) : Prop where
  old : ∀ fd s, m.sockets.lookup fd = some s →
    ∃ s', m'.sockets.lookup fd = some s' ∧ Grown (came fd) s s'
  new : ∀ fd s', m.sockets.lookup fd = none → m'.sockets.lookup fd = some s' →
    Readable s' ∧ s'.rxRing.toList = refill [] (came fd)

def nothing : Int → List ReceivedPacket := fun _ => []

theorem update_nothing (fd : Int) : Function.update nothing fd [] = nothing :=
  Function.update_eq_self_iff.mpr rfl

theorem Grown.refl (s : Socket) : Grown [] s s := ⟨id, rfl⟩

theorem Grown.trans {packets more : List ReceivedPacket} {s s' s'' : Socket}
    (first : Grown packets s s') (second : Grown more s' s'') : Grown (packets ++ more) s s'' := by
  refine ⟨second.readable ∘ first.readable, ?_⟩
  rw [second.ring, first.ring, refill, refill, refill, List.foldl_append]

theorem grown_incomingData (s : Socket) (sourceIp : UInt32) (sourcePort : UInt16)
    (data : List UInt8) :
    Grown [stored sourceIp sourcePort data] s (s.incomingData data (.ofHost sourceIp sourcePort)) :=
  ⟨id, Ring.toList_pushDropping_eq s.rxRing _⟩

namespace Moves

variable {came more : Int → List ReceivedPacket} {m m' m'' : Manager}

theorem of_sockets (same : m'.sockets = m.sockets) : Moves nothing m m' := by
  refine ⟨fun fd s known => ⟨s, by rw [same, known], .refl s⟩, fun fd s' none known => ?_⟩
  rw [same, none] at known
  cases known

theorem refl (m : Manager) : Moves nothing m m := of_sockets rfl

theorem nothing_trans (first : Moves nothing m m') (second : Moves came m' m'') :
    Moves came m m'' := by
  constructor
  · intro fd s known
    obtain ⟨s', known', grown⟩ := first.old fd s known
    obtain ⟨s'', known'', grown'⟩ := second.old fd s' known'
    exact ⟨s'', known'', grown.trans grown'⟩
  · intro fd s'' none known''
    cases between : m'.sockets.lookup fd with
    | none => exact second.new fd s'' between known''
    | some s' =>
        obtain ⟨readable, ring⟩ := first.new fd s' none between
        obtain ⟨t, found, grown⟩ := second.old fd s' between
        rw [known'', Option.some.injEq] at found
        subst found
        refine ⟨grown.readable readable, ?_⟩
        rw [grown.ring, ring]
        rfl

theorem withPool (moves : Moves nothing m m') (pool : EphemeralPortPool.Pool) :
    Moves nothing m { m' with portPool := pool } := ⟨moves.old, moves.new⟩

theorem setSocket_found {fd : Int} {s s' : Socket} {packets : List ReceivedPacket}
    (found : m.sockets.lookup fd = some s) (grown : Grown packets s s') :
    Moves (Function.update nothing fd packets) m (m.setSocket fd s') := by
  constructor
  · intro j t known
    by_cases own : j = fd
    · subst own
      rw [found, Option.some.injEq] at known
      subst known
      exact ⟨s', Manager.lookup_setSocket m j s', by rwa [Function.update_self]⟩
    · refine ⟨t, by rw [Manager.lookup_setSocket_ne _ own, known], ?_⟩
      rw [Function.update_of_ne own]
      exact .refl t
  · intro j t none known
    by_cases own : j = fd
    · subst own
      rw [found] at none
      cases none
    · rw [Manager.lookup_setSocket_ne _ own, none] at known
      cases known

theorem setSocket_kept {fd : Int} {s s' : Socket} (found : m.sockets.lookup fd = some s)
    (kept : Grown [] s s') : Moves nothing m (m.setSocket fd s') := by
  have moves := setSocket_found found kept
  rwa [update_nothing] at moves

theorem setSocket_new {fd : Int} {s : Socket} (absent : m.sockets.lookup fd = none)
    (readable : Readable s) (ring : s.rxRing.toList = []) : Moves nothing m (m.setSocket fd s) := by
  constructor
  · intro j t known
    have apart : j ≠ fd := by
      rintro rfl
      rw [absent] at known
      cases known
    exact ⟨t, by rw [Manager.lookup_setSocket_ne _ apart, known], .refl t⟩
  · intro j t none known
    by_cases own : j = fd
    · subst own
      rw [Manager.lookup_setSocket, Option.some.injEq] at known
      subst known
      exact ⟨readable, ring⟩
    · rw [Manager.lookup_setSocket_ne _ own, none] at known
      cases known

end Moves

theorem readable_new (type : SocketType) (protocol : BsdTypes.ProtocolType) :
    Readable (Socket.new type protocol) := ⟨rfl, by simp [Socket.new, Endpoint.new]⟩

theorem toList_new (type : SocketType) (protocol : BsdTypes.ProtocolType) :
    (Socket.new type protocol).rxRing.toList = [] := Ring.toList_fill _ _

theorem createProxySocket_moves (m : Manager) (fd : Int) (type : SocketType)
    (protocol : BsdTypes.ProtocolType) :
    (createProxySocket fd type protocol).Ensures false m fun _ m' => Moves nothing m m' := by
  refine createProxySocket_ensures.mono ?_
  rintro _ m' (⟨-, -, -, rfl⟩ | ⟨-, -, -, rfl⟩ | ⟨absent, -, -, rfl⟩)
  · exact .refl _
  · exact .refl _
  · exact .setSocket_new absent (readable_new type protocol) (toList_new type protocol)

theorem grown_beginConnect {s started : Socket} {addr : SockAddrIn}
    (begun : s.beginConnect addr = .ok started) : Grown [] s started := by
  unfold Socket.beginConnect at begun
  split at begun
  · cases begun
  · split at begun
    · cases begun
    · split at begun
      · rw [← Except.ok.inj begun]
        exact ⟨fun readable => ⟨readable.1, by simp⟩, rfl⟩
      · rw [← Except.ok.inj begun]
        exact ⟨fun readable => ⟨readable.1, by simp⟩, rfl⟩

theorem grown_endConnect (s : Socket) : Grown [] s s.endConnect.2 := by
  unfold Socket.endConnect
  split
  · exact .refl s
  · split
    · exact ⟨fun readable => ⟨readable.1, by simp⟩, rfl⟩
    · split <;> exact ⟨fun readable => ⟨readable.1, by simp⟩, rfl⟩

theorem sendVia_moves {callback : Manager → Option (ProxyInfo → Bool)}
    {message : ProxyInfo → Outgoing} {info : ProxyInfo} (m : Manager) :
    (ProxySocketManager.sendVia callback message info).Ensures false m
      fun _ m' => Moves nothing m m' :=
  sendVia_ensures.mono fun _ _ logged => .of_sockets logged.2.1

theorem connect_moves {m : Manager} {fd : Int} {s : Socket} (addr : SockAddrIn)
    (reply : Option ProxyInfo) (known : m.sockets.lookup fd = some s) :
    (ProxySocketManager.connect fd s addr reply).Ensures false m
      fun _ m' => Moves nothing m m' := by
  unfold ProxySocketManager.connect
  cases begun : s.beginConnect addr with
  | error errno => simpa using Moves.refl m
  | ok started =>
      have first := Moves.setSocket_kept known (grown_beginConnect begun)
      have found : (m.setSocket fd started).sockets.lookup fd = some started :=
        Manager.lookup_setSocket m fd started
      simp only [ensures_bind, ensures_update]
      by_cases stream : s.type = .stream
      · rw [if_pos stream]
        simp only [ensures_bind]
        refine sendVia_ensures.mono ?_
        rintro sent m' ⟨-, sockets, -⟩
        rw [← sockets] at found
        have second := first.nothing_trans (.of_sockets sockets)
        cases sent with
        | true =>
            simp only [if_true, ensures_bind, ensures_update, ensures_pure]
            refine second.nothing_trans (.setSocket_kept found ?_)
            cases reply with
            | none => exact grown_endConnect started
            | some response =>
                have stored : Grown [] started (started.handleConnectResponse response) := ⟨id, rfl⟩
                exact stored.trans (grown_endConnect _)
        | false =>
            simp only [Bool.false_eq_true, if_false, ensures_bind, ensures_update, ensures_pure]
            exact second.nothing_trans
              (.setSocket_kept found ⟨fun readable => ⟨readable.1, by simp⟩, rfl⟩)
      · rw [if_neg stream]
        simpa using first

theorem sendTo_moves (m : Manager) (s : Socket) (bytes : List UInt8) (dest : SockAddrIn) :
    (ProxySocketManager.sendTo s bytes dest).Ensures false m fun _ m' => Moves nothing m m' := by
  unfold ProxySocketManager.sendTo
  cases s.sendToCheck true bytes.length with
  | some errno => simpa using Moves.refl m
  | none =>
      simp only [ensures_bind, ensures_pure]
      exact sendVia_moves m

theorem routeConnectRequest_moves (m : Manager) (request : ProxyInfo) :
    (routeConnectRequest request).Ensures false m fun _ m' => Moves nothing m m' := by
  unfold routeConnectRequest
  simp only [ensures_withLock, ensures_bind, ensures_read]
  split
  · rename_i e hit
    have known := AList.mem_lookup_iff.mpr (List.mem_of_find?_eq_some hit)
    have queued : Grown [] e.2 (e.2.incomingConnection request).1 := by
      unfold Socket.incomingConnection
      split
      · exact .refl e.2
      · exact ⟨id, rfl⟩
    unfold ProxySocketManager.incomingConnection
    simp only [ensures_bind, ensures_update, ensures_pure]
    split
    -- the callback would take the manager's mutex again
    · simp [sendProxyConnectReply, ProxySocketManager.sendVia]
    · simpa using Moves.setSocket_kept known queued
  · exact ensures_pure.mpr (.refl m)

theorem routeConnectResponse_moves (m : Manager) (response : ProxyInfo) :
    (routeConnectResponse response).Ensures false m fun _ m' => Moves nothing m m' := by
  unfold routeConnectResponse
  simp only [ensures_withLock, ensures_bind, ensures_read]
  split
  · rename_i e hit
    have known := AList.mem_lookup_iff.mpr (List.mem_of_find?_eq_some hit)
    simp only [ensures_bind, ensures_update, ensures_pure]
    exact .setSocket_kept known ⟨id, rfl⟩
  · exact ensures_pure.mpr (.refl m)

theorem deliverTo_moves {m : Manager} (sourceIp : UInt32) (sourcePort : UInt16) (data : List UInt8)
    {targets : List (Sigma fun _ : Int => Socket)} (distinct : (targets.map Sigma.fst).Nodup)
    (registered : ∀ e ∈ targets, m.sockets.lookup e.1 = some e.2) :
    Moves (fun fd => if fd ∈ targets.map Sigma.fst then [stored sourceIp sourcePort data] else [])
      m (deliverTo m data (.ofHost sourceIp sourcePort) targets) := by
  constructor
  · intro fd s known
    by_cases member : fd ∈ targets.map Sigma.fst
    · obtain ⟨e, target, rfl⟩ := List.mem_map.mp member
      have same := registered e target
      rw [known, Option.some.injEq] at same
      subst same
      refine ⟨_, LdnDataPath.lookup_deliverTo distinct target m data _, ?_⟩
      rw [if_pos member]
      exact grown_incomingData e.2 sourceIp sourcePort data
    · refine ⟨s, ?_, ?_⟩
      · rw [LdnDataPath.lookup_deliverTo_of_notMem member, known]
      · rw [if_neg member]
        exact .refl s
  · intro fd s' none known
    have apart : fd ∉ targets.map Sigma.fst := by
      intro member
      obtain ⟨e, target, rfl⟩ := List.mem_map.mp member
      rw [registered e target] at none
      cases none
    rw [LdnDataPath.lookup_deliverTo_of_notMem apart, none] at known
    cases known

theorem routeIncomingData_moves (m : Manager) (info : ProxyInfo)
    (protocol : BsdTypes.ProtocolType) (data : List UInt8) (now : Nat) :
    (routeIncomingData info.sourceIpv4 info.sourcePort info.destIpv4 info.destPort protocol data
      now).Ensures false m fun _ m' => Moves (handedTo m info protocol data) m m' := by
  unfold routeIncomingData
  simp only [ensures_withLock, ensures_bind, ensures_read, id]
  by_cases own : m.localIp ≠ 0 ∧ info.sourceIpv4 = m.localIp
  · have none : handedTo m info protocol data = nothing := funext fun _ => if_pos own
    rw [if_pos own, none]
    exact ensures_pure.mpr (.refl m)
  · have search : handedTo m info protocol data = fun fd =>
        if fd ∈ (LdnDataPath.targetsOf m info protocol).map Sigma.fst then
          [stored info.sourceIpv4 info.sourcePort data] else [] := funext fun _ => if_neg own
    have distinct := LdnDataPath.nodup_targetsOf m info protocol
    have registered : ∀ e ∈ LdnDataPath.targetsOf m info protocol,
        m.sockets.lookup e.1 = some e.2 :=
      fun e member => AList.mem_lookup_iff.mpr (mem_entries_of_found member)
    rw [if_neg own, search]
    unfold LdnDataPath.targetsOf at distinct registered ⊢
    split
    · rename_i none
      have empty : (fun fd : Int =>
          if fd ∈ ([] : List (Sigma fun _ : Int => Socket)).map Sigma.fst then
            [stored info.sourceIpv4 info.sourcePort data] else []) = nothing := by
        funext fd
        simp [nothing]
      rw [none, empty]
      split
      · exact ensures_pure.mpr (.refl m)
      · simp only [ensures_bind, ensures_update, ensures_pure]
        exact .of_sockets rfl
    · rename_i target targets found
      rw [found] at distinct registered ⊢
      simp only [ensures_bind, ensures_update, ensures_pure]
      exact deliverTo_moves info.sourceIpv4 info.sourcePort data distinct registered

theorem foldl_grown (packets : List PendingPacket) (s : Socket) :
    Grown (packets.map fun p => stored p.sourceIp p.sourcePort p.data) s (packets.foldl
      (fun s p => s.incomingData p.data (.ofHost p.sourceIp p.sourcePort)) s) := by
  induction packets generalizing s with
  | nil => exact .refl s
  | cons p packets ih =>
      exact (grown_incomingData s p.sourceIp p.sourcePort p.data).trans (ih _)

theorem deliverPendingPackets_moves {m : Manager} {fd : Int} {s : Socket} (port : UInt16)
    (protocol : BsdTypes.ProtocolType) (now : Nat) (found : m.sockets.lookup fd = some s) :
    (deliverPendingPackets fd port protocol now).Ensures false m fun _ m' =>
      Moves (Function.update nothing fd (takenOver m protocol s port now)) m m' := by
  unfold deliverPendingPackets
  simp only [ensures_withLock, ensures_bind, ensures_read, id, found, ensures_update]
  have moved := Moves.setSocket_found found (foldl_grown ((m.pending.filter (!isStale now ·)).filter
    fun p => p.protocol = protocol && p.destPort = port &&
      packetMatchesSocketDestination s p.destIp) s)
  exact ⟨moved.old, moved.new⟩

theorem bind_moves {m : Manager} {fd : Int} {s : Socket} (addr : SockAddrIn)
    (known : m.sockets.lookup fd = some s) :
    (ProxySocketManager.bind fd s addr).Ensures false m fun _ m' => Moves nothing m m' := by
  unfold ProxySocketManager.bind Socket.bind
  split
  · exact ensures_pure.mpr (.refl m)
  · rename_i bound done
    simp only [ensures_bind, ensures_update, ensures_pure]
    split at done
    · cases done
    · split at done
      · cases done
      · cases done
        exact .setSocket_kept known ⟨fun readable => ⟨readable.1, by simp⟩, rfl⟩

theorem connectProxy_moves (b : Bsd) (fd : Int) (addr : SockAddrIn) (reply : Option ProxyInfo) :
    (connectProxy fd addr reply).Ensures false b
      fun _ b' => Moves nothing b.manager b'.manager := by
  unfold connectProxy proxyOf
  simp only [ensures_bind, ensures_read]
  cases known : b.manager.sockets.lookup fd with
  | none => exact ensures_pure.mpr (.refl _)
  | some s =>
      simp only [ensures_bind, ensures_onManager]
      refine (connect_moves addr reply known).mono ?_
      intro result m moved
      cases result with
      | error errno => exact ensures_pure.mpr moved
      | ok _ =>
          simp only [ensures_bind, ensures_markProxy, ensures_pure]
          exact moved

theorem autoBind_moves (b : Bsd) (fd : Int) (port : UInt16) :
    (autoBind fd port).Ensures false b fun _ b' => Moves nothing b.manager b'.manager := by
  unfold autoBind proxyOf getLocalIp
  simp only [ensures_bind, ensures_onManager, ensures_withLock, ensures_read]
  cases known : b.manager.sockets.lookup fd with
  | none => exact ensures_pure.mpr (.refl _)
  | some s =>
      simp only [ensures_onManager]
      exact bind_moves _ known

theorem sendVia_command_moves (b : Bsd) (fd : Int) (addr : Option SockAddrIn) (bytes : List UInt8) :
    (BsdMitmService.sendVia fd addr bytes).Ensures false b
      fun _ b' => Moves nothing b.manager b'.manager := by
  unfold BsdMitmService.sendVia getProxySocket
  simp only [ensures_bind, ensures_onManager, ensures_withLock, ensures_read]
  split
  · simp only [ensures_bind, ensures_onManager]
    refine (sendTo_moves b.manager _ bytes _).mono ?_
    intro result m moved
    cases result <;> exact ensures_pure.mpr moved
  · exact ensures_pure.mpr (.refl _)

theorem connect_command_moves (b : Bsd) (fd : Int) (addr : Option SockAddrIn)
    (reply : Option ProxyInfo) :
    (BsdMitmService.connect fd addr reply).Ensures false b
      fun _ b' => Moves nothing b.manager b'.manager := by
  unfold BsdMitmService.connect getProxySocket
  cases addr with
  | none => exact ensures_pure.mpr (.refl _)
  | some addr =>
      dsimp only
      split
      · simp only [ensures_bind, ensures_read]
        split
        · exact ensures_pure.mpr (.refl _)
        · simp only [ensures_bind, ensures_onManager, ensures_withLock, ensures_read]
          split
          · exact connectProxy_moves b fd addr reply
          · simp only [ensures_bind, ensures_onManager]
            refine (createProxySocket_moves b.manager fd _ _).mono ?_
            intro created m first
            split
            · unfold allocatePort releasePort
              simp only [ensures_bind, ensures_onManager, ensures_read, ensures_update, ensures_pure]
              split
              · exact ensures_pure.mpr (first.withPool _)
              · rw [ensures_bind]
                refine (autoBind_moves _ fd _).mono ?_
                intro bound b₂ second
                have both := (first.withPool _).nothing_trans second
                cases bound with
                | error errno =>
                    simp only [ensures_bind, ensures_onManager, ensures_update, ensures_pure]
                    exact both.withPool _
                | ok _ =>
                    exact (connectProxy_moves b₂ fd addr reply).mono
                      fun _ _ last => both.nothing_trans last
            · exact ensures_pure.mpr first
      · exact ensures_pure.mpr (.refl _)

theorem sendToProxy_moves (b : Bsd) (fd : Int) (info : SocketInfo) :
    (sendToProxy fd info).Ensures false b fun _ b' => Moves nothing b.manager b'.manager := by
  unfold sendToProxy getProxySocket
  simp only [ensures_bind, ensures_onManager, ensures_withLock, ensures_read]
  split
  · simp only [ensures_bind, ensures_markProxy, ensures_pure]
    exact .refl _
  · simp only [ensures_bind, ensures_onManager]
    refine (createProxySocket_moves b.manager fd info.type info.protocol).mono ?_
    intro created m first
    split
    · unfold allocatePort
      simp only [ensures_bind, ensures_onManager, ensures_read, ensures_update, ensures_pure]
      split
      · rw [ensures_bind]
        refine (autoBind_moves _ fd _).mono ?_
        intro bound b₂ second
        have both := (first.withPool _).nothing_trans second
        cases bound with
        | error errno => exact ensures_pure.mpr both
        | ok _ =>
            simp only [ensures_bind, ensures_markProxy, ensures_pure]
            exact both
      · simp only [ensures_bind, ensures_markProxy, ensures_pure]
        exact first.withPool _
    · simp only [ensures_bind, ensures_markProxy, ensures_pure]
      exact first

theorem sendTo_command_moves (b : Bsd) (fd : Int) (addr : Option SockAddrIn) (bytes : List UInt8) :
    (BsdMitmService.sendTo fd addr bytes).Ensures false b
      fun _ b' => Moves nothing b.manager b'.manager := by
  have sent : ∀ (b₁ : Bsd) (known : Option SocketInfo), Moves nothing b.manager b₁.manager →
      (if known.any (·.isProxy) = true ∨ addr.any isLdnInet = true then
        BsdMitmService.sendVia fd addr bytes else pure .forwarded).Ensures false b₁
          fun _ b' => Moves nothing b.manager b'.manager := by
    intro b₁ known first
    split
    · exact (sendVia_command_moves b₁ fd addr bytes).mono fun _ _ last => first.nothing_trans last
    · exact ensures_pure.mpr first
  unfold BsdMitmService.sendTo
  simp only [ensures_bind, ensures_read]
  split
  · split
    · rw [ensures_bind]
      refine (sendToProxy_moves b fd _).mono ?_
      intro prepared b₁ first
      cases prepared with
      | error errno => exact ensures_pure.mpr first
      | ok _ => exact sent b₁ _ first
    · exact ensures_bind.mpr (ensures_pure.mpr (sent b _ (.refl _)))
  · exact ensures_bind.mpr (ensures_pure.mpr (sent b _ (.refl _)))

theorem takenOver_congr {m m' : Manager} (pending : m'.pending = m.pending)
    (protocol : BsdTypes.ProtocolType) {s s' : Socket} (address : s'.localAddr = s.localAddr)
    (port : UInt16) (now : Nat) :
    takenOver m' protocol s' port now = takenOver m protocol s port now := by
  unfold takenOver packetMatchesSocketDestination
  rw [pending, address]

theorem finishBind_moves {b : Bsd} {fd : Int} {s : Socket} {info : SocketInfo} {addr : SockAddrIn}
    (now : Nat) (found : b.manager.sockets.lookup fd = some s) (family : addr.sinFamily = inet) :
    (finishBind fd info addr now).Ensures false b fun _ b' =>
      Moves (Function.update nothing fd <|
        if s.state = .created then
          takenOver b.manager info.protocol { s with localAddr := addr } addr.getPort now
        else []) b.manager b'.manager := by
  unfold finishBind proxyOf ProxySocketManager.bind Socket.bind
  simp only [ensures_bind, ensures_read, found]
  by_cases fresh : s.state = .created
  · simp only [fresh, ne_eq, not_true_eq_false, if_false, family, ensures_onManager, ensures_bind,
      ensures_update, ensures_pure, ensures_markProxy, if_true]
    have addressed : Moves nothing b.manager
        (b.manager.setSocket fd { s with localAddr := addr, state := .bound }) :=
      .setSocket_kept found ⟨fun readable => ⟨readable.1, by simp⟩, rfl⟩
    have same : takenOver (b.manager.setSocket fd { s with localAddr := addr, state := .bound })
          info.protocol { s with localAddr := addr, state := .bound } addr.getPort now =
        takenOver b.manager info.protocol { s with localAddr := addr } addr.getPort now :=
      takenOver_congr rfl _ rfl _ _
    refine (deliverPendingPackets_moves addr.getPort info.protocol now
      (Manager.lookup_setSocket b.manager fd _)).mono ?_
    intro _ m' moved
    rw [same, fresh] at moved
    exact addressed.nothing_trans moved
  · simp only [fresh, ne_eq, not_false_eq_true, if_true, if_false, ensures_onManager, ensures_pure,
      update_nothing]
    exact .refl _

theorem bindProxy_moves {b : Bsd} {fd : Int} {s : Socket} {info : SocketInfo} {addr : SockAddrIn}
    (now : Nat) (found : b.manager.sockets.lookup fd = some s) (family : addr.sinFamily = inet) :
    (bindProxy fd info addr now).Ensures false b fun _ b' =>
      Moves (Function.update nothing fd <|
        if obtainable b.manager.portPool info.protocol addr.getPort = true ∧ s.state = .created then
          takenOver b.manager info.protocol { s with localAddr := boundAddress b info addr }
            (boundAddress b info addr).getPort now
        else []) b.manager b'.manager := by
  have unchanged : Moves nothing b.manager (broadcasted b fd s info).manager := by
    unfold broadcasted
    split
    · exact .setSocket_kept found ⟨id, rfl⟩
    · exact .refl _
  have pending : (broadcasted b fd s info).manager.pending = b.manager.pending := by
    unfold broadcasted
    split <;> rfl
  intro answer b' done
  rw [bindProxy_apply now found] at done
  by_cases free : obtainable b.manager.portPool info.protocol addr.getPort = true
  · rw [if_pos free] at done
    have moved := finishBind_moves now (lookup_withPool_broadcasted info
      (takenPool b.manager.portPool info.protocol addr.getPort) found)
      ((boundAddress_family b info addr).trans family) answer b' done
    have same : takenOver (withPool (broadcasted b fd s info)
          (takenPool b.manager.portPool info.protocol addr.getPort)).manager info.protocol
          { s with broadcast := s.broadcast || info.broadcast
                   localAddr := boundAddress b info addr } (boundAddress b info addr).getPort now =
        takenOver b.manager info.protocol { s with localAddr := boundAddress b info addr }
          (boundAddress b info addr).getPort now := takenOver_congr pending _ rfl _ _
    rw [same] at moved
    simp only [free, true_and]
    exact (unchanged.withPool _).nothing_trans moved
  · rw [if_neg free] at done
    cases done
    rw [if_neg fun both => free both.1, update_nothing]
    exact unchanged

theorem bind_command_moves (b : Bsd) (fd : Int) (addr : Option SockAddrIn) (now : Nat) :
    (BsdMitmService.bind fd addr now).Ensures false b fun _ b' =>
      Moves (arrivals b (.command (.bind fd addr now))) b.manager b'.manager := by
  cases addr with
  | none => exact ensures_pure.mpr (.refl _)
  | some addr =>
      show (BsdMitmService.bind fd (some addr) now).Ensures false b fun _ b' =>
        Moves (Function.update nothing fd _) b.manager b'.manager
      by_cases proxied : isProxied addr = true
      · have family : addr.sinFamily = inet := by
          simp only [isProxied, Bool.and_eq_true, decide_eq_true_eq] at proxied
          exact proxied.1
        rw [if_pos proxied]
        cases entry : b.socketInfo.lookup fd with
        | none =>
            unfold BsdMitmService.bind
            simp only [proxied, if_true, ensures_bind, ensures_read, entry, ensures_pure,
              update_nothing]
            exact .refl _
        | some info =>
            intro answer b' done
            rw [bind_tracked now proxied entry] at done
            unfold boundBy
            cases known : b.manager.sockets.lookup fd with
            | some s =>
                rw [known] at done
                have moved := bindProxy_moves now known family answer b' done
                by_cases free : obtainable b.manager.portPool info.protocol addr.getPort = true
                · by_cases fresh : s.state = .created
                  · simpa [free, fresh] using moved
                  · simpa [free, fresh] using moved
                · simpa [free] using moved
            | none =>
                rw [known] at done
                by_cases full : isFull b.manager = true
                · simp only [full, if_true] at done
                  cases done
                  simp only [full, if_true, ite_self, update_nothing]
                  exact .refl _
                · simp only [full] at done
                  have made : Moves nothing b.manager
                      (b.manager.setSocket fd (Socket.new info.type info.protocol)) :=
                    .setSocket_new known (readable_new _ _) (toList_new _ _)
                  have moved := made.nothing_trans (bindProxy_moves now
                    (Manager.lookup_setSocket b.manager fd _) family answer b' done)
                  have fresh : (Socket.new info.type info.protocol).state = .created := rfl
                  simp only [Manager.setSocket_portPool, fresh, and_true] at moved
                  by_cases free : obtainable b.manager.portPool info.protocol addr.getPort = true
                  · simp only [free, if_true] at moved
                    simp only [free, full, if_true, Bool.false_eq_true, if_false]
                    exact moved
                  · simpa [free, full] using moved
      · unfold BsdMitmService.bind
        dsimp only
        rw [if_neg proxied, if_neg proxied, update_nothing]
        exact ensures_pure.mpr (.refl _)

end RyuLdn.BsdDelivery
