import RyuLdn.BsdMitmService
import RyuLdn.ProxySocketLocks
import RyuLdn.ResourceLedger
import RyuLdn.TransitionSystem

/-! The books of the BSD MITM: the socket-info table, the registry of proxy sockets
and the port pool. They are the three tables of a `ResourceLedger`, with file
descriptors as keys and ephemeral ports as resources.

`Clean` is the condition under which a command keeps the books; the early
returns of `Bind`, `Connect` and `SendTo` leave them open elsewhere. -/
namespace RyuLdn.BsdBookkeeping

open BsdTypes ProtocolTypes ProxySocket ProxySocketManager EphemeralPortPool BsdMitmService
open LockedProgram Program ResourceLedger TransitionSystem

inductive Action where
  | socket (sessionId : Nat) (type protocol : Int) (real : RealSocket)
  | bind (fd : Int) (addr : Option SockAddrIn) (now : Nat)
  | connect (fd : Int) (addr : Option SockAddrIn) (reply : Option ProxyInfo)
  | sendTo (fd : Int) (addr : Option SockAddrIn) (bytes : List UInt8)
  | close (fd : Int)
  | destroySession (sessionId : Nat)
  | resetProcessMitmState
  | managerReset
  | configure (localIp : UInt32) (sendCallback : Option (ProxyInfo → List UInt8 → Bool))
      (proxyConnectCallback proxyConnectReplyCallback proxyDisconnectCallback :
        Option (ProxyInfo → Bool))

def Action.program : Action → Program Bsd Unit
  | .socket sessionId type protocol real =>
      (BsdMitmService.socket sessionId type protocol real).discard
  | .bind fd addr now => (BsdMitmService.bind fd addr now).discard
  | .connect fd addr reply => (BsdMitmService.connect fd addr reply).discard
  | .sendTo fd addr bytes => (BsdMitmService.sendTo fd addr bytes).discard
  | .close fd => (BsdMitmService.close fd).discard
  | .destroySession sessionId => BsdMitmService.destroySession sessionId
  | .resetProcessMitmState => BsdMitmService.resetProcessMitmState
  | .managerReset => onManager ProxySocketManager.reset
  | .configure localIp sendCallback onConnect onConnectReply onDisconnect =>
      -- `SetLocalIp` and the four `Set…Callback`, in any combination
      onManager <| update fun m =>
        { m with
          localIp := localIp
          sendCallback := sendCallback
          proxyConnectCallback := onConnect
          proxyConnectReplyCallback := onConnectReply
          proxyDisconnectCallback := onDisconnect }

/-- One command; `none` is a command that stops on the manager's mutex. -/
def step (b : Bsd) (action : Action) : Option Bsd := (action.program false b).map (·.2)

/-- The two statements about the books. A descriptor has a proxy socket exactly if
its entry is marked; an ephemeral port is allocated exactly if a registered proxy
socket is bound to it, protocols being told apart as far as the pool does. -/
structure BooksAgree (b : Bsd) : Prop where
  marked : ∀ fd, fd ∈ b.manager.sockets ↔
    ∃ info, b.socketInfo.lookup fd = some info ∧ info.isProxy = true
  ports : ∀ port which, Pool.IsEphemeral port →
    (b.manager.portPool.isPortAllocated port which = true ↔
      ∃ fd s, b.manager.sockets.lookup fd = some s ∧ s.localAddr.getPort = port ∧
        getBitset s.protocol = which)

def hasFree (pool : Pool) (protocol : ProtocolType) : Bool := (pool.allocatePort protocol).1 ≠ 0

/-- The pool has a bit to set for the port asked for; 0 asks for any. -/
def reserves (pool : Pool) (protocol : ProtocolType) (port : UInt16) : Bool :=
  if port = 0 then hasFree pool protocol
  else decide (Pool.IsEphemeral port) && !pool.isPortAllocated port (getBitset protocol)

def obtainable (pool : Pool) (protocol : ProtocolType) (port : UInt16) : Bool :=
  if port = 0 then hasFree pool protocol else !pool.isPortAllocated port (getBitset protocol)

def isFull (m : Manager) : Bool := m.sockets.keys.length ≥ maxProxySockets

/-- `Bind`: a socket without a proxy gets its port, unless the registry is full; a
socket whose proxy is bound already reserves no second port. -/
def bindClean (m : Manager) (fd : Int) (info : SocketInfo) (addr : SockAddrIn) : Bool :=
  match m.sockets.lookup fd with
  | none => isFull m || obtainable m.portPool info.protocol addr.getPort
  | some s => s.state = .created || !reserves m.portPool info.protocol addr.getPort

def autoBoundRequest (m : Manager) (protocol : ProtocolType) (addr : SockAddrIn) : ProxyInfo :=
  ⟨m.localIp, (m.portPool.allocatePort protocol).1, addr.getAddr, addr.getPort, protocol.toField⟩

/-- `Connect` of a socket without a proxy: the registry is full, or there is a port
and, for a stream socket, the request goes out and is answered with success. -/
def connectClean (m : Manager) (fd : Int) (info : SocketInfo) (addr : SockAddrIn)
    (reply : Option ProxyInfo) : Bool :=
  decide (fd ∈ m.sockets) || isFull m ||
    hasFree m.portPool info.protocol &&
      (info.type ≠ .stream ||
        m.proxyConnectCallback.any (fun send => send (autoBoundRequest m info.protocol addr)) &&
          reply.any (fun response => response.protocol = ProtocolType.unspecified.toField))

def Clean (b : Bsd) : Action → Bool
  | .socket _ _ _ real =>
      !(real.succeeded && decide (real.errno = 0) && decide (real.fd ≥ 0)) ||
        decide (real.fd ∉ b.manager.sockets)
  | .bind fd addr _ =>
      addr.all fun a => !isProxied a ||
        (b.socketInfo.lookup fd).all fun info => bindClean b.manager fd info a
  | .connect fd addr reply =>
      addr.all fun a => !isLdnInet a ||
        (b.socketInfo.lookup fd).all fun info => connectClean b.manager fd info a reply
  | .sendTo fd addr _ =>
      addr.all fun a => !isLdnInet a ||
        (b.socketInfo.lookup fd).all fun info => info.isProxy || !isFull b.manager
  | .managerReset => decide (b.manager.sockets.keys = [])
  | _ => true

def resource (s : Socket) : Option (UInt16 × Bitset) :=
  if Pool.IsEphemeral s.localAddr.getPort then some (s.localAddr.getPort, getBitset s.protocol)
  else none

theorem resource_eq_some {s : Socket} {port : UInt16} {which : Bitset} :
    resource s = some (port, which) ↔
      Pool.IsEphemeral port ∧ s.localAddr.getPort = port ∧ getBitset s.protocol = which := by
  unfold resource
  split
  · rename_i inside
    simp only [Option.some.injEq, Prod.mk.injEq]
    constructor
    · rintro ⟨rfl, rfl⟩
      exact ⟨inside, rfl, rfl⟩
    · exact fun all => all.2
  · rename_i outside
    simp only [reduceCtorEq, false_iff]
    rintro ⟨inside, rfl, -⟩
    exact outside inside

def ledger (b : Bsd) : Ledger Int (UInt16 × Bitset) where
  holds fd := (b.manager.sockets.lookup fd).map resource
  known fd := (b.socketInfo.lookup fd).map (·.isProxy)
  taken r := b.manager.portPool.isPortAllocated r.1 r.2 = true

theorem ledger_holds_some {b : Bsd} {fd : Int} {port : UInt16} {which : Bitset} :
    (ledger b).holds fd = some (some (port, which)) ↔
      ∃ s, b.manager.sockets.lookup fd = some s ∧ Pool.IsEphemeral port ∧
        s.localAddr.getPort = port ∧ getBitset s.protocol = which := by
  simp only [ledger, Option.map_eq_some_iff, resource_eq_some]

theorem booksAgree_of_sound {b : Bsd} (sound : Sound (ledger b)) : BooksAgree b := by
  constructor
  · intro fd
    have marked := sound.marked fd
    simp only [ledger, Option.isSome_map, Option.map_eq_some_iff] at marked
    rw [← AList.lookup_isSome]
    exact marked
  · intro port which inside
    have taken := sound.taken (port, which)
    simp only [ledger_holds_some] at taken
    rw [show (ledger b).taken (port, which) ↔
      b.manager.portPool.isPortAllocated port which = true from Iff.rfl] at taken
    rw [taken]
    constructor
    · rintro ⟨fd, s, known, -, bound⟩
      exact ⟨fd, s, known, bound⟩
    · rintro ⟨fd, s, known, bound⟩
      exact ⟨fd, s, known, inside, bound⟩

structure Inv (b : Bsd) : Prop where
  sound : Sound (ledger b)
  unbound : ∀ fd s, b.manager.sockets.lookup fd = some s → s.state = .created →
    s.localAddr.getPort = 0
  protocols : ∀ fd s info, b.manager.sockets.lookup fd = some s →
    b.socketInfo.lookup fd = some info → s.protocol = info.protocol

theorem inv_init : Inv .init := by
  refine ⟨⟨?_, ?_, ?_⟩, ?_, ?_⟩ <;>
    simp [ledger, Bsd.init, Manager.init, Pool.init, Pool.isPortAllocated]

structure Alike (s s' : Socket) : Prop where
  localAddr : s'.localAddr = s.localAddr
  protocol : s'.protocol = s.protocol
  created : s'.state = .created → s.state = .created

theorem Alike.refl (s : Socket) : Alike s s := ⟨rfl, rfl, id⟩

theorem Alike.trans {s s' s'' : Socket} (first : Alike s s') (second : Alike s' s'') :
    Alike s s'' :=
  ⟨second.localAddr.trans first.localAddr, second.protocol.trans first.protocol,
    fun fresh => first.created (second.created fresh)⟩

theorem Alike.resource {s s' : Socket} (alike : Alike s s') : resource s' = resource s := by
  unfold BsdBookkeeping.resource
  rw [alike.localAddr, alike.protocol]

structure Untouched (m m' : Manager) : Prop where
  portPool : m'.portPool = m.portPool
  keys : ∀ fd, m.sockets.lookup fd = none → m'.sockets.lookup fd = none
  sockets : ∀ fd s, m.sockets.lookup fd = some s →
    ∃ s', m'.sockets.lookup fd = some s' ∧ Alike s s'

namespace Untouched

variable {m m' m'' : Manager}

theorem refl (m : Manager) : Untouched m m :=
  ⟨rfl, fun _ none => none, fun _ s known => ⟨s, known, .refl s⟩⟩

theorem trans (first : Untouched m m') (second : Untouched m' m'') : Untouched m m'' := by
  refine ⟨second.portPool.trans first.portPool, fun fd none => second.keys fd (first.keys fd none), ?_⟩
  intro fd s known
  obtain ⟨s', known', alike⟩ := first.sockets fd s known
  obtain ⟨s'', known'', alike'⟩ := second.sockets fd s' known'
  exact ⟨s'', known'', alike.trans alike'⟩

theorem setSocket {fd : Int} {s s' : Socket} (known : m.sockets.lookup fd = some s)
    (alike : Alike s s') : Untouched m (m.setSocket fd s') := by
  refine ⟨rfl, ?_, ?_⟩
  · intro j none
    have apart : j ≠ fd := by
      rintro rfl
      rw [none] at known
      cases known
    rw [Manager.lookup_setSocket_ne _ apart, none]
  · intro j t found
    by_cases same : j = fd
    · subst same
      rw [known, Option.some.injEq] at found
      subst found
      exact ⟨s', Manager.lookup_setSocket m j s', alike⟩
    · exact ⟨t, by rw [Manager.lookup_setSocket_ne _ same, found], .refl t⟩

theorem withPending (same : Untouched m m') (pending : List PendingPacket) :
    Untouched m { m' with pending := pending } :=
  ⟨same.portPool, same.keys, same.sockets⟩

theorem back (same : Untouched m m') {fd : Int} {s' : Socket}
    (known : m'.sockets.lookup fd = some s') : ∃ s, m.sockets.lookup fd = some s ∧ Alike s s' := by
  cases before : m.sockets.lookup fd with
  | none =>
      rw [same.keys fd before] at known
      cases known
  | some s =>
      obtain ⟨t, found, alike⟩ := same.sockets fd s before
      rw [known, Option.some.injEq] at found
      exact ⟨s, rfl, found ▸ alike⟩

theorem holds (same : Untouched m m') (t t' : InfoTable) :
    (ledger ⟨t', m'⟩).holds = (ledger ⟨t, m⟩).holds := by
  funext fd
  simp only [ledger]
  cases before : m.sockets.lookup fd with
  | none => rw [same.keys fd before]
  | some s =>
      obtain ⟨s', known, alike⟩ := same.sockets fd s before
      rw [known, Option.map_some, Option.map_some, alike.resource]

end Untouched

theorem Inv.untouched {b : Bsd} (inv : Inv b) {m' : Manager} (same : Untouched b.manager m') :
    Inv { b with manager := m' } := by
  refine ⟨?_, ?_, ?_⟩
  · refine inv.sound.congr (same.holds b.socketInfo b.socketInfo) rfl ?_
    intro r
    simp only [ledger, same.portPool]
  · intro fd s known fresh
    obtain ⟨t, before, alike⟩ := same.back known
    rw [alike.localAddr]
    exact inv.unbound fd t before (alike.created fresh)
  · intro fd s info known entry
    obtain ⟨t, before, alike⟩ := same.back known
    rw [alike.protocol]
    exact inv.protocols fd t info before entry

theorem beginConnect_alike {s started : Socket} {addr : SockAddrIn}
    (begun : s.beginConnect addr = .ok started) : Alike s started := by
  unfold Socket.beginConnect at begun
  split at begun
  · cases begun
  · split at begun
    · cases begun
    · split at begun <;> rw [← Except.ok.inj begun] <;> exact ⟨rfl, rfl, by simp⟩

theorem endConnect_alike (s : Socket) : Alike s s.endConnect.2 := by
  unfold Socket.endConnect
  split
  · exact .refl s
  · split
    · exact ⟨rfl, rfl, by simp⟩
    · split <;> exact ⟨rfl, rfl, by simp⟩

theorem sendVia_ensures {callback : Manager → Option (ProxyInfo → Bool)}
    {message : ProxyInfo → Outgoing} {info : ProxyInfo} {m : Manager} :
    (ProxySocketManager.sendVia callback message info).Ensures false m fun sent m' =>
      Untouched m m' ∧ m'.sockets = m.sockets ∧ sent = (callback m).any fun send => send info := by
  unfold ProxySocketManager.sendVia
  simp only [ensures_bind, ensures_withLock, ensures_read]
  cases callback m with
  | none => simpa using Untouched.refl m
  | some send => simpa using (⟨rfl, fun _ none => none, fun _ s known => ⟨s, known, .refl s⟩⟩ :
      Untouched m { m with sent := m.sent ++ [message info] })

theorem connect_untouched {m : Manager} {fd : Int} {s : Socket} (addr : SockAddrIn)
    (reply : Option ProxyInfo) (known : m.sockets.lookup fd = some s) :
    (ProxySocketManager.connect fd s addr reply).Ensures false m fun _ m' => Untouched m m' := by
  unfold ProxySocketManager.connect
  cases begun : s.beginConnect addr with
  | error errno => simpa using Untouched.refl m
  | ok started =>
      have first := Untouched.setSocket known (beginConnect_alike begun)
      have found : (m.setSocket fd started).sockets.lookup fd = some started :=
        Manager.lookup_setSocket m fd started
      simp only [ensures_bind, ensures_update]
      by_cases stream : s.type = .stream
      · rw [if_pos stream]
        simp only [ensures_bind]
        refine sendVia_ensures.mono ?_
        rintro sent m' ⟨logged, sockets, -⟩
        rw [← sockets] at found
        cases sent with
        | true =>
            simp only [if_true, ensures_bind, ensures_update, ensures_pure]
            refine (first.trans logged).trans (Untouched.setSocket found ?_)
            cases reply with
            | none => exact endConnect_alike started
            | some response =>
                have stored : Alike started (started.handleConnectResponse response) :=
                  ⟨rfl, rfl, id⟩
                exact stored.trans (endConnect_alike _)
        | false =>
            simp only [Bool.false_eq_true, if_false, ensures_bind, ensures_update, ensures_pure]
            exact (first.trans logged).trans
              (Untouched.setSocket found ⟨rfl, rfl, by simp⟩)
      · rw [if_neg stream]
        simpa using first

theorem connect_succeeds {m : Manager} {fd : Int} {s : Socket} {addr : SockAddrIn}
    {reply : Option ProxyInfo} (open_ : s.state ≠ .closed) (family : addr.sinFamily = inet)
    (blocking : s.nonBlocking = false)
    (answered : s.type = .stream →
      m.proxyConnectCallback.any (fun send => send (s.connectInfo addr)) = true ∧
        ∃ response, reply = some response ∧
          response.protocol = ProtocolType.unspecified.toField) :
    (ProxySocketManager.connect fd s addr reply).Ensures false m fun result _ =>
      result = .ok () := by
  unfold ProxySocketManager.connect
  by_cases stream : s.type = .stream
  · obtain ⟨accepted, response, rfl, success⟩ := answered stream
    simp only [Socket.beginConnect, if_neg open_, family, ne_eq, not_true_eq_false, if_false, stream,
      if_true, ensures_bind, ensures_update]
    refine sendVia_ensures.mono ?_
    rintro sent m' ⟨-, -, rfl⟩
    rw [Manager.setSocket_proxyConnectCallback, accepted]
    simp [Socket.endConnect, Socket.handleConnectResponse, blocking, success]
  · simp [Socket.beginConnect, open_, family, stream]

theorem incomingData_alike (s : Socket) (data : List UInt8) (source : SockAddrIn) :
    Alike s (s.incomingData data source) := ⟨rfl, rfl, id⟩

theorem deliverPendingPackets_untouched {m : Manager} (fd : Int) (port : UInt16)
    (protocol : ProtocolType) (now : Nat) :
    (deliverPendingPackets fd port protocol now).Ensures false m fun _ m' => Untouched m m' := by
  unfold deliverPendingPackets
  simp only [ensures_withLock, ensures_bind, ensures_read, id]
  cases known : m.sockets.lookup fd with
  | none => simpa using Untouched.refl m
  | some s =>
      simp only [ensures_update]
      have folded : ∀ (packets : List PendingPacket) (t : Socket), Alike s t →
          Alike s (packets.foldl
            (fun s p => s.incomingData p.data (.ofHost p.sourceIp p.sourcePort)) t) := by
        intro packets
        induction packets with
        | nil => exact fun t alike => alike
        | cons p packets ih => exact fun t alike => ih _ (alike.trans (incomingData_alike t _ _))
      have delivered : ∀ packets : List PendingPacket, Untouched m (m.setSocket fd (packets.foldl
          (fun s p => s.incomingData p.data (.ofHost p.sourceIp p.sourcePort)) s)) :=
        fun packets => Untouched.setSocket known (folded packets s (.refl s))
      exact (delivered _).withPending _

theorem sendTo_untouched {m : Manager} (s : Socket) (bytes : List UInt8) (dest : SockAddrIn) :
    (ProxySocketManager.sendTo s bytes dest).Ensures false m fun _ m' => Untouched m m' := by
  unfold ProxySocketManager.sendTo
  cases s.sendToCheck true bytes.length with
  | some errno => simpa using Untouched.refl m
  | none =>
      simp only [ensures_bind, ensures_pure]
      exact sendVia_ensures.mono fun _ _ logged => logged.1

def LeavesPorts (m m' : Manager) (gone : Int → Prop) : Prop :=
  ∀ port which, m'.portPool.isPortAllocated port which = true ↔
    m.portPool.isPortAllocated port which = true ∧
      ¬ ∃ fd s, gone fd ∧ m.sockets.lookup fd = some s ∧ resource s = some (port, which)

structure Closed (m m' : Manager) (gone : Int → Prop) : Prop where
  dropped : ∀ fd, gone fd → m'.sockets.lookup fd = none
  kept : ∀ fd, ¬ gone fd → m'.sockets.lookup fd = m.sockets.lookup fd
  ports : LeavesPorts m m' gone

theorem closeSocket_ensures_held (s : Socket) (m : Manager) :
    (closeSocket s).Ensures true m fun _ m' => m' = m := by
  intro t m' done
  rw [closeSocket_held] at done
  split at done
  · cases done
  · cases done
    rfl

theorem purgePending_keeps (m : Manager) (fd : Int) (port : UInt16) (protocol : ProtocolType) :
    (purgePending m fd port protocol).sockets = m.sockets ∧
      (purgePending m fd port protocol).portPool = m.portPool := by
  unfold purgePending
  split <;> exact ⟨rfl, rfl⟩

theorem releasePort_resource (pool : Pool) (s : Socket) (port : UInt16) (which : Bitset) :
    (pool.releasePort s.localAddr.getPort s.protocol).isPortAllocated port which = true ↔
      pool.isPortAllocated port which = true ∧ resource s ≠ some (port, which) := by
  rw [Pool.isPortAllocated_releasePort, Ne, resource_eq_some]
  by_cases own : port = s.localAddr.getPort ∧ which = getBitset s.protocol
  · rw [if_pos own]
    obtain ⟨rfl, rfl⟩ := own
    simp only [Bool.false_eq_true, and_true, false_iff, not_and, not_not]
    intro allocated
    simp only [Pool.isPortAllocated, Bool.and_eq_true, decide_eq_true_eq] at allocated
    exact allocated.1
  · rw [if_neg own]
    constructor
    · intro allocated
      exact ⟨allocated, fun all => own ⟨all.2.1.symm, all.2.2.symm⟩⟩
    · exact And.left

theorem closeProxySocket_tail {m m₁ : Manager} {fd : Int} {s : Socket}
    (known : m.sockets.lookup fd = some s) (same : m₁.sockets = m.sockets)
    (bits : ∀ port which, m₁.portPool.isPortAllocated port which = true ↔
      m.portPool.isPortAllocated port which = true ∧ resource s ≠ some (port, which)) :
    (do
      let closed ← closeSocket s
      update (·.setSocket fd closed)
      update (purgePending · fd s.localAddr.getPort s.protocol)
      update fun m => { m with sockets := m.sockets.erase fd }
      pure true : Program Manager Bool).Ensures true m₁ fun _ m' => Closed m m' (· = fd) := by
  simp only [ensures_bind]
  refine (closeSocket_ensures_held s m₁).mono ?_
  intro closed m₂ unchanged
  rw [unchanged]
  simp only [ensures_update, ensures_pure]
  obtain ⟨sockets, ports⟩ :=
    purgePending_keeps (m₁.setSocket fd closed) fd s.localAddr.getPort s.protocol
  refine ⟨?_, ?_, ?_⟩
  · rintro j rfl
    exact AList.lookup_erase _ _
  · intro j apart
    simp only [sockets]
    rw [AList.lookup_erase_ne apart, Manager.lookup_setSocket_ne _ apart, same]
  · intro port which
    simp only [ports]
    rw [Manager.setSocket_portPool, bits]
    simp [known]

theorem closeProxySocket_closed (m : Manager) (fd : Int) :
    (closeProxySocket fd).Ensures false m fun _ m' => Closed m m' (· = fd) := by
  unfold closeProxySocket
  simp only [ensures_withLock, ensures_bind, ensures_read]
  cases known : m.sockets.lookup fd with
  | none =>
      simp only [ensures_pure]
      refine ⟨fun j same => by rw [same, known], fun _ _ => rfl, ?_⟩
      intro port which
      simp [known]
  | some s =>
      by_cases unbound : s.localAddr.getPort = 0
      · have none : resource s = none := by
          unfold resource
          rw [unbound, if_neg (by decide)]
        simp only [ne_eq, unbound, not_true_eq_false, if_false]
        have tail := closeProxySocket_tail known (Eq.refl m.sockets) (by simp [none])
        rw [unbound] at tail
        exact tail
      · simp only [ne_eq, unbound, not_false_eq_true, if_true]
        rw [ensures_bind, ensures_update]
        exact closeProxySocket_tail known rfl (releasePort_resource m.portPool s)

theorem Closed.trans {m m' m'' : Manager} {gone gone' : Int → Prop} (first : Closed m m' gone)
    (second : Closed m' m'' gone') : Closed m m'' fun fd => gone fd ∨ gone' fd := by
  refine ⟨?_, ?_, ?_⟩
  · intro fd out
    by_cases later : gone' fd
    · exact second.dropped fd later
    · rw [second.kept fd later]
      exact first.dropped fd (out.resolve_right later)
  · intro fd stays
    rw [second.kept fd fun out => stays (Or.inr out), first.kept fd fun out => stays (Or.inl out)]
  · intro port which
    rw [second.ports, first.ports, and_assoc]
    refine and_congr_right fun _ => ?_
    constructor
    · rintro ⟨before, after⟩ ⟨fd, s, out, known, owns⟩
      by_cases early : gone fd
      · exact before ⟨fd, s, early, known, owns⟩
      · exact after ⟨fd, s, out.resolve_left early, by rw [first.kept fd early, known], owns⟩
    · intro none
      refine ⟨?_, ?_⟩
      · rintro ⟨fd, s, out, known, owns⟩
        exact none ⟨fd, s, Or.inl out, known, owns⟩
      · rintro ⟨fd, s, out, known, owns⟩
        by_cases early : gone fd
        · rw [first.dropped fd early] at known
          cases known
        · rw [first.kept fd early] at known
          exact none ⟨fd, s, Or.inr out, known, owns⟩

theorem closeFds_closed (m : Manager) (fds : List Int) :
    (closeFds fds).Ensures false m fun _ m' => Closed m m' (· ∈ fds) := by
  induction fds generalizing m with
  | nil =>
      simp only [closeFds, ensures_pure]
      exact ⟨by simp, fun _ _ => rfl, by intro port which; simp⟩
  | cons fd fds ih =>
      simp only [closeFds, ensures_bind]
      refine (closeProxySocket_closed m fd).mono ?_
      intro _ m' first
      refine (ih m').mono ?_
      intro _ m'' second
      have all := first.trans second
      simpa only [List.mem_cons] using all

end RyuLdn.BsdBookkeeping
