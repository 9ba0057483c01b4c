import RyuLdn.BsdBindSteps

/-! What each command does to the books, and the runs whose commands are all clean. -/
namespace RyuLdn.BsdBookkeeping

open BsdTypes ProtocolTypes ProxySocket ProxySocketManager EphemeralPortPool BsdMitmService
open BsdBindSteps LockedProgram Program ResourceLedger TransitionSystem

@[simp] theorem ensures_onManager {α : Type} {p : Program Manager α} {held : Bool} {b : Bsd}
    {post : α → Bsd → Prop} :
    (onManager p).Ensures held b post ↔
      p.Ensures held b.manager fun a m => post a { b with manager := m } := by
  unfold Ensures onManager
  simp only [Option.map_eq_some_iff, Prod.exists, Prod.mk.injEq]
  constructor
  · intro all a m done
    exact all a _ ⟨a, m, done, rfl, rfl⟩
  · rintro all _ _ ⟨a, m, done, rfl, rfl⟩
    exact all a m done

def markEntry (t : InfoTable) (fd : Int) : InfoTable :=
  match t.lookup fd with
  | some info => t.insert fd { info with isProxy := true }
  | none => t

def marked (b : Bsd) (fd : Int) : Bsd := { b with socketInfo := markEntry b.socketInfo fd }

@[simp] theorem ensures_markProxy {fd : Int} {held : Bool} {b : Bsd} {post : Unit → Bsd → Prop} :
    (markProxy fd).Ensures held b post ↔ post () (marked b fd) := by
  unfold markProxy marked markEntry
  rw [ensures_update]
  cases b.socketInfo.lookup fd <;> rfl

theorem markEntry_lookup {t : InfoTable} {fd : Int} {info : SocketInfo}
    (entry : t.lookup fd = some info) (j : Int) :
    (markEntry t fd).lookup j =
      if j = fd then some { info with isProxy := true } else t.lookup j := by
  unfold markEntry
  rw [entry]
  by_cases same : j = fd
  · rw [if_pos same, same]
    exact AList.lookup_insert _
  · rw [if_neg same]
    exact AList.lookup_insert_ne same

structure Elsewhere (m m' : Manager) (fd : Int) : Prop where
  portPool : m'.portPool = m.portPool
  others : ∀ j, j ≠ fd → m'.sockets.lookup j = m.sockets.lookup j

theorem Elsewhere.refl (m : Manager) (fd : Int) : Elsewhere m m fd := ⟨rfl, fun _ _ => rfl⟩

theorem Elsewhere.setSocket {m m' : Manager} {fd : Int} (same : Elsewhere m m' fd) (s : Socket) :
    Elsewhere m (m'.setSocket fd s) fd :=
  ⟨same.portPool, fun j apart => by
    rw [Manager.lookup_setSocket_ne s apart, same.others j apart]⟩

structure Reserved (pool pool' : Pool) (port : UInt16) (protocol : ProtocolType) : Prop where
  free : Pool.IsEphemeral port → pool.isPortAllocated port (getBitset protocol) = false
  bits : ∀ q which, pool'.isPortAllocated q which = true ↔
    pool.isPortAllocated q which = true ∨
      Pool.IsEphemeral q ∧ port = q ∧ getBitset protocol = which

theorem Reserved.of_put {pool pool' : Pool} {port : UInt16} {protocol : ProtocolType}
    (inside : Pool.IsEphemeral port) (free : pool.isPortAllocated port (getBitset protocol) = false)
    (bits : ∀ q which, pool'.isPortAllocated q which =
      if q = port ∧ which = getBitset protocol then true else pool.isPortAllocated q which) :
    Reserved pool pool' port protocol := by
  refine ⟨fun _ => free, ?_⟩
  intro q which
  rw [bits]
  split
  · rename_i own
    obtain ⟨rfl, rfl⟩ := own
    simp [inside]
  · rename_i other
    constructor
    · exact Or.inl
    · rintro (taken | ⟨-, rfl, rfl⟩)
      · exact taken
      · exact absurd ⟨rfl, rfl⟩ other

theorem allocatePort_reserved {pool : Pool} {protocol : ProtocolType}
    (got : (pool.allocatePort protocol).1 ≠ 0) :
    Reserved pool (pool.allocatePort protocol).2 (pool.allocatePort protocol).1 protocol := by
  rcases Pool.allocatePort_cases pool protocol with none | ⟨port, pool', result, -, inside, free, bits⟩
  · rw [none] at got
    exact absurd rfl got
  · rw [result]
    exact .of_put inside free bits

theorem allocateSpecificPort_reserved {pool : Pool} {port : UInt16} {protocol : ProtocolType}
    (got : (pool.allocateSpecificPort port protocol).1 = true) :
    Reserved pool (pool.allocateSpecificPort port protocol).2 port protocol := by
  rcases Pool.allocateSpecificPort_cases pool port protocol with
    ⟨outside, result⟩ | ⟨-, result⟩ | ⟨inside, free, pool', result, bits⟩
  · rw [result]
    refine ⟨fun inside => absurd inside outside, ?_⟩
    intro q which
    constructor
    · exact Or.inl
    · rintro (taken | ⟨inside, rfl, -⟩)
      · exact taken
      · exact absurd inside outside
  · rw [result] at got
    cases got
  · rw [result]
    exact .of_put inside free bits

structure Gains (m m' : Manager) (fd : Int) (s : Socket) : Prop where
  own : m'.sockets.lookup fd = some s
  others : ∀ j, j ≠ fd → m'.sockets.lookup j = m.sockets.lookup j
  new : ∀ port which, resource s = some (port, which) →
    m.portPool.isPortAllocated port which = false
  bits : ∀ port which, m'.portPool.isPortAllocated port which = true ↔
    m.portPool.isPortAllocated port which = true ∨ resource s = some (port, which)

theorem Gains.of_reserved {m m₁ : Manager} {fd : Int} {s : Socket} {pool : Pool}
    (same : Elsewhere m m₁ fd)
    (reserved : Reserved m.portPool pool s.localAddr.getPort s.protocol) :
    Gains m ({ m₁ with portPool := pool }.setSocket fd s) fd s := by
  refine ⟨Manager.lookup_setSocket _ fd s, ?_, ?_, ?_⟩
  · intro j apart
    rw [Manager.lookup_setSocket_ne s apart]
    exact same.others j apart
  · intro port which owns
    obtain ⟨inside, rfl, rfl⟩ := resource_eq_some.mp owns
    exact reserved.free inside
  · intro port which
    rw [resource_eq_some]
    exact reserved.bits port which

theorem Gains.of_portless {m m₁ : Manager} {fd : Int} {s : Socket} (same : Elsewhere m m₁ fd)
    (own : m₁.sockets.lookup fd = some s) (portless : resource s = none) : Gains m m₁ fd s := by
  refine ⟨own, same.others, ?_, ?_⟩
  · intro port which owns
    rw [portless] at owns
    cases owns
  · intro port which
    rw [same.portPool, portless]
    simp

theorem resource_of_port_zero {s : Socket} (unbound : s.localAddr.getPort = 0) :
    resource s = none := by
  unfold resource
  rw [unbound, if_neg (by decide)]

theorem Inv.gains {b : Bsd} (inv : Inv b) {fd : Int} {info : SocketInfo} {m' : Manager}
    {s : Socket} (entry : b.socketInfo.lookup fd = some info)
    (empty : ∀ t, b.manager.sockets.lookup fd = some t → t.state = .created)
    (gains : Gains b.manager m' fd s) (protocol : s.protocol = info.protocol)
    (unbound : s.state = .created → s.localAddr.getPort = 0) :
    Inv (marked { b with manager := m' } fd) := by
  have table := markEntry_lookup entry
  change Inv ⟨markEntry b.socketInfo fd, m'⟩
  have other : ∀ j t, j ≠ fd → m'.sockets.lookup j = some t →
      b.manager.sockets.lookup j = some t := by
    intro j t apart found
    rw [← gains.others j apart, found]
  refine ⟨?_, ?_, ?_⟩
  · refine inv.sound.acquire (k := fd) (o := resource s) ?_ ?_ ?_ ?_ ?_ ?_ ?_
    · cases before : b.manager.sockets.lookup fd with
      | none => exact Or.inl (by simp [ledger, before])
      | some t =>
          have port := resource_of_port_zero (inv.unbound fd t before (empty t before))
          exact Or.inr (by simp [ledger, before, port])
    · intro r owns
      simpa [ledger] using gains.new r.1 r.2 owns
    · intro j apart
      simp only [ledger]
      rw [gains.others j apart]
    · simp only [ledger]
      rw [gains.own, Option.map_some]
    · intro j apart
      simp only [ledger]
      rw [table, if_neg apart]
    · simp only [ledger]
      rw [table, if_pos rfl, Option.map_some]
    · intro r
      exact gains.bits r.1 r.2
  · intro j t found fresh
    by_cases same : j = fd
    · rw [same, gains.own, Option.some.injEq] at found
      subst found
      exact unbound fresh
    · exact inv.unbound j t (other j t same found) fresh
  · intro j t i found known
    rw [table] at known
    by_cases same : j = fd
    · rw [same, gains.own, Option.some.injEq] at found
      rw [if_pos same, Option.some.injEq] at known
      subst found known
      exact protocol
    · rw [if_neg same] at known
      exact inv.protocols j t i (other j t same found) known

theorem createProxySocket_ensures {m : Manager} {fd : Int} {type : SocketType}
    {protocol : ProtocolType} :
    (createProxySocket fd type protocol).Ensures false m fun created m' =>
      (∃ s, m.sockets.lookup fd = some s ∧ created = true ∧ m' = m) ∨
      (m.sockets.lookup fd = none ∧ isFull m = true ∧ created = false ∧ m' = m) ∨
      (m.sockets.lookup fd = none ∧ isFull m = false ∧ created = true ∧
        m' = m.setSocket fd (Socket.new type protocol)) := by
  intro created m' done
  rw [createProxySocket_apply] at done
  cases known : m.sockets.lookup fd with
  | some s =>
      rw [known] at done
      cases done
      exact Or.inl ⟨s, rfl, rfl, rfl⟩
  | none =>
      rw [known] at done
      dsimp only at done
      by_cases full : isFull m = true
      · rw [if_pos full] at done
        cases done
        exact Or.inr (Or.inl ⟨rfl, full, rfl, rfl⟩)
      · rw [if_neg full] at done
        cases done
        exact Or.inr (Or.inr ⟨rfl, Bool.eq_false_of_not_eq_true full, rfl, rfl⟩)

theorem Inv.socket {b : Bsd} (inv : Inv b) {sessionId : Nat} {type protocol : Int}
    {real : RealSocket} (clean : Clean b (.socket sessionId type protocol real) = true) :
    (BsdMitmService.socket sessionId type protocol real).Ensures false b fun _ b' => Inv b' := by
  unfold BsdMitmService.socket
  by_cases given : real.succeeded ∧ real.errno = 0 ∧ real.fd ≥ 0
  · have absent : b.manager.sockets.lookup real.fd = none := by
      have unknown : real.fd ∉ b.manager.sockets := by
        simpa [Clean, given.1, given.2.1, given.2.2] using clean
      exact AList.lookup_eq_none.mpr unknown
    simp only [if_pos given, ensures_bind, ensures_update, ensures_pure]
    refine ⟨?_, inv.unbound, ?_⟩
    · refine inv.sound.track (k := real.fd) (by simp [ledger, absent]) rfl ?_ ?_ fun _ => Iff.rfl
      · intro j apart
        simp only [ledger]
        rw [AList.lookup_insert_ne apart]
      · simp only [ledger]
        rw [AList.lookup_insert, Option.map_some]
    · intro j s info found entry
      have apart : j ≠ real.fd := by
        rintro rfl
        rw [absent] at found
        cases found
      rw [AList.lookup_insert_ne apart] at entry
      exact inv.protocols j s info found entry
  · simpa only [if_neg given, ensures_bind, ensures_pure] using inv

def Refused (b b' : Bsd) : Prop := b'.socketInfo = b.socketInfo ∧ Untouched b.manager b'.manager

theorem Inv.of_refused {b b' : Bsd} (inv : Inv b) (refused : Refused b b') : Inv b' := by
  have same : b' = { b with manager := b'.manager } := by
    rw [← refused.1]
  rw [same]
  exact inv.untouched refused.2

/-- The command bound the proxy of `fd` and marked the entry. -/
def Marked (b b' : Bsd) (fd : Int) (protocol : ProtocolType) : Prop :=
  ∃ m₁ s m', Gains b.manager m₁ fd s ∧ s.protocol = protocol ∧
    (s.state = .created → s.localAddr.getPort = 0) ∧ Untouched m₁ m' ∧
    b' = marked { b with manager := m' } fd

theorem Inv.of_marked {b b' : Bsd} (inv : Inv b) {fd : Int} {info : SocketInfo}
    (entry : b.socketInfo.lookup fd = some info)
    (empty : ∀ t, b.manager.sockets.lookup fd = some t → t.state = .created)
    (marks : Marked b b' fd info.protocol) : Inv b' := by
  obtain ⟨m₁, s, m', gains, protocol, unbound, same, rfl⟩ := marks
  have gained := inv.gains entry empty gains protocol unbound
  exact gained.untouched same

theorem Gains.elsewhere {m₀ m m' : Manager} {fd : Int} {s : Socket} (gains : Gains m m' fd s)
    (same : Elsewhere m₀ m fd) : Gains m₀ m' fd s := by
  refine ⟨gains.own, ?_, ?_, ?_⟩
  · intro j apart
    rw [gains.others j apart, same.others j apart]
  · rw [← same.portPool]
    exact gains.new
  · rw [← same.portPool]
    exact gains.bits

theorem Marked.elsewhere {b b' : Bsd} {m : Manager} {fd : Int} {protocol : ProtocolType}
    (marks : Marked { b with manager := m } b' fd protocol) (same : Elsewhere b.manager m fd) :
    Marked b b' fd protocol := by
  obtain ⟨m₁, s, m', gains, rest⟩ := marks
  exact ⟨m₁, s, m', gains.elsewhere same, rest⟩

theorem broadcasted_untouched {b : Bsd} {fd : Int} {s : Socket} (info : SocketInfo)
    (found : b.manager.sockets.lookup fd = some s) :
    Untouched b.manager (broadcasted b fd s info).manager := by
  unfold broadcasted
  split
  · exact .setSocket found ⟨rfl, rfl, id⟩
  · exact .refl _

theorem broadcasted_elsewhere (b : Bsd) (fd : Int) (s : Socket) (info : SocketInfo) :
    Elsewhere b.manager (broadcasted b fd s info).manager fd :=
  ⟨broadcasted_portPool b fd s info, fun _ apart => lookup_broadcasted_ne s info apart⟩

theorem finishBind_ensures {b : Bsd} {fd : Int} {s : Socket} {info : SocketInfo}
    {addr : SockAddrIn} {pool : Pool} (now : Nat) (found : b.manager.sockets.lookup fd = some s)
    (protocol : s.protocol = info.protocol) (family : addr.sinFamily = inet)
    (reserved : Reserved b.manager.portPool pool addr.getPort info.protocol) :
    (finishBind fd info addr now).Ensures false
      { b with manager := { b.manager with portPool := pool } } fun _ b' =>
        s.state = .created ∧ Marked b b' fd info.protocol ∨
          s.state ≠ .created ∧ b' = { b with manager := { b.manager with portPool := pool } } := by
  unfold finishBind proxyOf ProxySocketManager.bind Socket.bind
  simp only [ensures_bind, ensures_read, found]
  by_cases fresh : s.state = .created
  · simp only [fresh, ne_eq, not_true_eq_false, if_false, family, ensures_onManager, ensures_bind,
      ensures_update, ensures_pure, ensures_markProxy, marked]
    refine (deliverPendingPackets_untouched fd addr.getPort info.protocol now).mono ?_
    intro _ m' delivered
    rw [← protocol] at reserved
    have gains := Gains.of_reserved (s := { s with localAddr := addr, state := .bound })
      (.refl b.manager fd) reserved
    exact Or.inl ⟨trivial, _, _, m', gains, protocol, by simp, delivered, rfl⟩
  · simp [fresh]

theorem takenPool_reserved {b : Bsd} {info : SocketInfo} {addr : SockAddrIn}
    (free : obtainable b.manager.portPool info.protocol addr.getPort = true) :
    Reserved b.manager.portPool (takenPool b.manager.portPool info.protocol addr.getPort)
      (boundAddress b info addr).getPort info.protocol := by
  unfold takenPool boundAddress
  by_cases any : addr.getPort = 0
  · rw [if_pos any, if_pos any]
    have got : (b.manager.portPool.allocatePort info.protocol).1 ≠ 0 := by
      simpa [obtainable, any, hasFree] using free
    simpa [SockAddrIn.getPort] using allocatePort_reserved got
  · rw [if_neg any, if_neg any, bindAddress_getPort]
    rcases reserve_answer b.manager.portPool info.protocol any with ⟨-, got⟩ | ⟨taken, -⟩
    · exact allocateSpecificPort_reserved got
    · rw [free] at taken
      cases taken

theorem bindProxy_ensures {b : Bsd} {fd : Int} {s : Socket} {info : SocketInfo}
    {addr : SockAddrIn} (now : Nat) (found : b.manager.sockets.lookup fd = some s)
    (protocol : s.protocol = info.protocol) (family : addr.sinFamily = inet) :
    (bindProxy fd info addr now).Ensures false b fun _ b' =>
      Refused b b' ∧ (obtainable b.manager.portPool info.protocol addr.getPort = false ∨
          s.state ≠ .created) ∨
        s.state = .created ∧ Marked b b' fd info.protocol ∨
        s.state ≠ .created ∧ reserves b.manager.portPool info.protocol addr.getPort = true := by
  intro answer b' done
  rw [bindProxy_apply now found] at done
  have same := broadcasted_untouched info found
  have refused : Refused b (broadcasted b fd s info) := ⟨broadcasted_socketInfo b fd s info, same⟩
  by_cases free : obtainable b.manager.portPool info.protocol addr.getPort = true
  · rw [if_pos free] at done
    have reserved := takenPool_reserved free
    rw [← same.portPool] at reserved
    have outcome := finishBind_ensures now (lookup_broadcasted info found) protocol
      ((boundAddress_family b info addr).trans family) reserved
    rw [same.portPool] at outcome
    rcases outcome answer b' done with ⟨fresh, marks⟩ | ⟨bound, rfl⟩
    · rw [broadcasted_eq] at marks
      exact Or.inr (Or.inl ⟨fresh, marks.elsewhere (broadcasted_elsewhere b fd s info)⟩)
    · by_cases set : reserves b.manager.portPool info.protocol addr.getPort = true
      · exact Or.inr (Or.inr ⟨bound, set⟩)
      · have untaken := takenPool_of_not_reserves free set
        rw [untaken]
        exact Or.inl ⟨withPool_broadcasted b fd s info ▸ refused, Or.inr bound⟩
  · rw [if_neg free] at done
    cases done
    exact Or.inl ⟨refused, Or.inl (Bool.eq_false_of_not_eq_true free)⟩

theorem Inv.bindProxy_registered {b : Bsd} (inv : Inv b) {fd : Int} {s : Socket}
    {info : SocketInfo} {addr : SockAddrIn} (now : Nat)
    (entry : b.socketInfo.lookup fd = some info) (found : b.manager.sockets.lookup fd = some s)
    (family : addr.sinFamily = inet)
    (allowed : s.state = .created ∨
      reserves b.manager.portPool info.protocol addr.getPort = false) :
    (bindProxy fd info addr now).Ensures false b fun _ b' => Inv b' := by
  refine (bindProxy_ensures now found (inv.protocols fd s info found entry) family).mono ?_
  rintro - b' (⟨refused, -⟩ | ⟨fresh, marks⟩ | ⟨bound, leak⟩)
  · exact inv.of_refused refused
  · refine inv.of_marked entry ?_ marks
    intro t same
    rw [found, Option.some.injEq] at same
    exact same ▸ fresh
  · rw [leak] at allowed
    exact absurd (allowed.resolve_right (by simp)) bound

theorem Inv.bindProxy_new {b : Bsd} (inv : Inv b) {fd : Int} {info : SocketInfo}
    {addr : SockAddrIn} (now : Nat) (entry : b.socketInfo.lookup fd = some info)
    (absent : b.manager.sockets.lookup fd = none) (family : addr.sinFamily = inet)
    (port : obtainable b.manager.portPool info.protocol addr.getPort = true) :
    (bindProxy fd info addr now).Ensures false
      { b with manager := b.manager.setSocket fd (Socket.new info.type info.protocol) }
      fun _ b' => Inv b' := by
  refine (bindProxy_ensures now (Manager.lookup_setSocket b.manager fd _) rfl family).mono ?_
  rintro - b' (⟨-, none | bound⟩ | ⟨-, marks⟩ | ⟨bound, -⟩)
  · rw [Manager.setSocket_portPool, port] at none
    cases none
  · exact absurd rfl bound
  · refine inv.of_marked entry ?_ (marks.elsewhere ((Elsewhere.refl b.manager fd).setSocket _))
    intro t same
    rw [absent] at same
    cases same
  · exact absurd rfl bound

theorem Inv.bind {b : Bsd} (inv : Inv b) {fd : Int} {addr : Option SockAddrIn} {now : Nat}
    (clean : Clean b (.bind fd addr now) = true) :
    (BsdMitmService.bind fd addr now).Ensures false b fun _ b' => Inv b' := by
  unfold BsdMitmService.bind
  cases addr with
  | none => simpa using inv
  | some addr =>
      by_cases proxied : isProxied addr = true
      · simp only [if_pos proxied, ensures_bind, ensures_read]
        have family : addr.sinFamily = inet := by
          simp only [isProxied, Bool.and_eq_true, decide_eq_true_eq] at proxied
          exact proxied.1
        cases entry : b.socketInfo.lookup fd with
        | none => simpa using inv
        | some info =>
            have allowed : bindClean b.manager fd info addr = true := by
              simpa [Clean, proxied, entry] using clean
            simp only [ensures_bind, ensures_onManager]
            refine createProxySocket_ensures.mono ?_
            rintro created m' (⟨s, found, rfl, rfl⟩ | ⟨-, -, rfl, rfl⟩ | ⟨absent, room, rfl, rfl⟩)
            · simp only [if_true]
              refine inv.bindProxy_registered now entry found family ?_
              simpa [bindClean, found] using allowed
            · simpa using inv
            · simp only [if_true]
              refine inv.bindProxy_new now entry absent family ?_
              simpa [bindClean, absent, room] using allowed
      · simpa [proxied] using inv

theorem autoBind_ensures {b : Bsd} {fd : Int} {s : Socket} (port : UInt16)
    (found : b.manager.sockets.lookup fd = some s) (fresh : s.state = .created) :
    (autoBind fd port).Ensures false b fun result b' =>
      result = .ok () ∧ b' = { b with
        manager := b.manager.setSocket fd
          { s with localAddr := .ofHost b.manager.localIp port, state := .bound } } := by
  unfold autoBind proxyOf getLocalIp ProxySocketManager.bind Socket.bind
  simp [found, fresh, SockAddrIn.ofHost]

theorem Inv.marked_again {b : Bsd} (inv : Inv b) {fd : Int} {s : Socket}
    (found : b.manager.sockets.lookup fd = some s) : Inv (marked b fd) := by
  have mark : (ledger b).known fd = some true :=
    (inv.sound.marked fd).mp (by simp [ledger, found])
  simp only [ledger, Option.map_eq_some_iff] at mark
  obtain ⟨info, entry, proxied⟩ := mark
  have same : ∀ j, (markEntry b.socketInfo fd).lookup j = b.socketInfo.lookup j := by
    intro j
    rw [markEntry_lookup entry]
    split
    · rename_i own
      rw [own, entry, ← proxied]
    · rfl
  refine ⟨?_, inv.unbound, ?_⟩
  · refine inv.sound.congr rfl ?_ fun _ => Iff.rfl
    funext j
    simp only [ledger, marked, same]
  · intro j t i known entry'
    simp only [marked, same] at entry'
    exact inv.protocols j t i known entry'

theorem Inv.connectProxy {b : Bsd} (inv : Inv b) {fd : Int} {s : Socket} (addr : SockAddrIn)
    (reply : Option ProxyInfo) (found : b.manager.sockets.lookup fd = some s) :
    (BsdMitmService.connectProxy fd addr reply).Ensures false b fun _ b' => Inv b' := by
  unfold BsdMitmService.connectProxy proxyOf
  simp only [ensures_bind, ensures_read, found, ensures_onManager]
  refine (connect_untouched addr reply found).mono ?_
  intro result m' same
  have kept := inv.untouched same
  cases result with
  | error errno => simpa using kept
  | ok _ =>
      obtain ⟨s', found', -⟩ := same.sockets fd s found
      simp only [ensures_bind, ensures_markProxy, ensures_pure]
      exact kept.marked_again found'

theorem connectProxy_marks {b : Bsd} {fd : Int} {s : Socket} {addr : SockAddrIn}
    {reply : Option ProxyInfo} (found : b.manager.sockets.lookup fd = some s)
    (succeeds : (ProxySocketManager.connect fd s addr reply).Ensures false b.manager
      fun result _ => result = .ok ()) :
    (BsdMitmService.connectProxy fd addr reply).Ensures false b fun _ b' =>
      ∃ m', Untouched b.manager m' ∧ b' = marked { b with manager := m' } fd := by
  unfold BsdMitmService.connectProxy proxyOf
  simp only [ensures_bind, ensures_read, found, ensures_onManager]
  refine ((connect_untouched addr reply found).and succeeds).mono ?_
  rintro - m' ⟨same, rfl⟩
  simp only [ensures_bind, ensures_markProxy, ensures_pure]
  exact ⟨m', same, rfl⟩

def autoBoundSocket (m : Manager) (type : SocketType) (protocol : ProtocolType) : Socket :=
  { Socket.new type protocol with
    localAddr := .ofHost m.localIp (m.portPool.allocatePort protocol).1
    state := .bound }

def autoBound (m : Manager) (fd : Int) (type : SocketType) (protocol : ProtocolType) : Manager :=
  { m.setSocket fd (Socket.new type protocol) with
      portPool := (m.portPool.allocatePort protocol).2 }.setSocket fd
    (autoBoundSocket m type protocol)

theorem gains_autoBound {m : Manager} {fd : Int} {type : SocketType} {protocol : ProtocolType}
    (got : (m.portPool.allocatePort protocol).1 ≠ 0) :
    Gains m (autoBound m fd type protocol) fd (autoBoundSocket m type protocol) := by
  refine .of_reserved ((Elsewhere.refl m fd).setSocket _) ?_
  have port : (autoBoundSocket m type protocol).localAddr.getPort =
      (m.portPool.allocatePort protocol).1 := SockAddrIn.getPort_ofHost _ _
  rw [port]
  exact allocatePort_reserved got

theorem autoBind_new {b : Bsd} (fd : Int) (type : SocketType) (protocol : ProtocolType) :
    (autoBind fd (b.manager.portPool.allocatePort protocol).1).Ensures false
      { b with manager := { b.manager.setSocket fd (Socket.new type protocol) with
          portPool := (b.manager.portPool.allocatePort protocol).2 } } fun result b' =>
        result = .ok () ∧ b' = { b with manager := autoBound b.manager fd type protocol } := by
  refine (autoBind_ensures _ (Manager.lookup_setSocket b.manager fd _) rfl).mono ?_
  exact fun _ _ done => done

theorem connect_autoBound {m : Manager} {fd : Int} {type : SocketType} {protocol : ProtocolType}
    {addr : SockAddrIn} {reply : Option ProxyInfo} (family : addr.sinFamily = inet)
    (answered : type ≠ .stream ∨
      m.proxyConnectCallback.any (fun send => send (autoBoundRequest m protocol addr)) = true ∧
        reply.any (fun response => response.protocol = ProtocolType.unspecified.toField) = true) :
    (ProxySocketManager.connect fd (autoBoundSocket m type protocol) addr reply).Ensures false
      (autoBound m fd type protocol) fun result _ => result = .ok () := by
  have bound : (autoBoundSocket m type protocol).state ≠ .closed := by simp [autoBoundSocket]
  have blocking : (autoBoundSocket m type protocol).nonBlocking = false := rfl
  refine connect_succeeds bound family blocking ?_
  intro stream
  obtain ⟨sent, accepted⟩ := answered.resolve_left fun other => other stream
  have request : (autoBoundSocket m type protocol).connectInfo addr =
      autoBoundRequest m protocol addr := by
    simp [autoBoundSocket, Socket.connectInfo, autoBoundRequest, Socket.new, Endpoint.new]
  rw [request]
  refine ⟨sent, ?_⟩
  simpa [Option.any_eq_true] using accepted

theorem Inv.connectProxy_new {b : Bsd} (inv : Inv b) {fd : Int} {info : SocketInfo}
    {addr : SockAddrIn} {reply : Option ProxyInfo} (entry : b.socketInfo.lookup fd = some info)
    (absent : b.manager.sockets.lookup fd = none)
    (got : (b.manager.portPool.allocatePort info.protocol).1 ≠ 0)
    (succeeds : (ProxySocketManager.connect fd (autoBoundSocket b.manager info.type info.protocol)
      addr reply).Ensures false (autoBound b.manager fd info.type info.protocol)
        fun result _ => result = .ok ()) :
    (BsdMitmService.connectProxy fd addr reply).Ensures false
      { b with manager := autoBound b.manager fd info.type info.protocol } fun _ b' => Inv b' := by
  have found : (autoBound b.manager fd info.type info.protocol).sockets.lookup fd =
      some (autoBoundSocket b.manager info.type info.protocol) :=
    Manager.lookup_setSocket _ fd _
  refine (connectProxy_marks found succeeds).mono ?_
  rintro - b' ⟨m', same, rfl⟩
  exact inv.of_marked entry (by simp [absent])
    ⟨_, _, m', gains_autoBound got, rfl, by simp [autoBoundSocket], same, rfl⟩

theorem Inv.connect {b : Bsd} (inv : Inv b) {fd : Int} {addr : Option SockAddrIn}
    {reply : Option ProxyInfo} (clean : Clean b (.connect fd addr reply) = true) :
    (BsdMitmService.connect fd addr reply).Ensures false b fun _ b' => Inv b' := by
  unfold BsdMitmService.connect
  cases addr with
  | none => simpa using inv
  | some addr =>
      by_cases proxied : isLdnInet addr = true
      · simp only [if_pos proxied, ensures_bind, ensures_read]
        have family : addr.sinFamily = inet := by
          simp only [isLdnInet, Bool.and_eq_true, decide_eq_true_eq] at proxied
          exact proxied.1
        cases entry : b.socketInfo.lookup fd with
        | none => simpa using inv
        | some info =>
            have allowed : connectClean b.manager fd info addr reply = true := by
              simpa [Clean, proxied, entry] using clean
            simp only [ensures_bind, ensures_onManager, getProxySocket, ensures_withLock,
              ensures_read]
            cases found : b.manager.sockets.lookup fd with
            | some s => exact inv.connectProxy addr reply found
            | none =>
                simp only [ensures_bind, ensures_onManager]
                refine createProxySocket_ensures.mono ?_
                rintro created m'
                  (⟨s, found', -, -⟩ | ⟨-, -, rfl, rfl⟩ | ⟨-, room, rfl, rfl⟩)
                · rw [found] at found'
                  cases found'
                · simpa using inv
                · have fresh : fd ∉ b.manager.sockets := AList.lookup_eq_none.mp found
                  simp only [connectClean, fresh, room, decide_false, Bool.false_or,
                    Bool.and_eq_true, Bool.or_eq_true, decide_eq_true_eq] at allowed
                  obtain ⟨free, answered⟩ := allowed
                  have got : (b.manager.portPool.allocatePort info.protocol).1 ≠ 0 := by
                    simpa [hasFree] using free
                  simp only [if_true, ensures_bind, ensures_onManager, allocatePort, ensures_read,
                    id, ensures_update, ensures_pure, Manager.setSocket_portPool, got, if_false]
                  refine (autoBind_new fd info.type info.protocol).mono ?_
                  rintro - b₁ ⟨rfl, rfl⟩
                  exact inv.connectProxy_new entry found got (connect_autoBound family answered)
      · simpa [proxied] using inv

theorem Inv.absent {b : Bsd} (inv : Inv b) {fd : Int} {info : SocketInfo}
    (entry : b.socketInfo.lookup fd = some info) (unmarked : info.isProxy = false) :
    b.manager.sockets.lookup fd = none := by
  have none := inv.sound.holds_none (k := fd) (by simp [ledger, entry, unmarked])
  simpa [ledger] using none

theorem Inv.sendToProxy {b : Bsd} (inv : Inv b) {fd : Int} {info : SocketInfo}
    (entry : b.socketInfo.lookup fd = some info) (unmarked : info.isProxy = false)
    (room : isFull b.manager = false) :
    (BsdMitmService.sendToProxy fd info).Ensures false b fun _ b' => Inv b' := by
  have absent := inv.absent entry unmarked
  unfold BsdMitmService.sendToProxy
  simp only [ensures_bind, ensures_onManager, getProxySocket, ensures_withLock, ensures_read, absent]
  refine createProxySocket_ensures.mono ?_
  rintro created m' (⟨s, found, -, -⟩ | ⟨-, full, -, -⟩ | ⟨-, -, rfl, rfl⟩)
  · rw [absent] at found
    cases found
  · rw [room] at full
    cases full
  · simp only [if_true, ensures_bind, ensures_onManager, allocatePort, ensures_read, id,
      ensures_update, ensures_pure, Manager.setSocket_portPool]
    rcases anyPort_cases b.manager.portPool info.protocol with ⟨-, none⟩ | ⟨-, got⟩
    · simp only [none, ne_eq, not_true_eq_false, if_false, ensures_bind, ensures_markProxy,
        ensures_pure]
      have unbound : (Socket.new info.type info.protocol).localAddr.getPort = 0 :=
        SockAddrIn.getPort_ofHost 0 0
      exact inv.of_marked entry (by simp [absent])
        ⟨_, _, _, .of_portless ((Elsewhere.refl b.manager fd).setSocket _)
          (Manager.lookup_setSocket b.manager fd _) (resource_of_port_zero unbound), rfl,
          fun _ => unbound, .refl _, rfl⟩
    · simp only [ne_eq, got, not_false_eq_true, if_true, ensures_bind]
      refine (autoBind_new fd info.type info.protocol).mono ?_
      rintro - b₁ ⟨rfl, rfl⟩
      simp only [ensures_bind, ensures_markProxy, ensures_pure]
      exact inv.of_marked entry (by simp [absent])
        ⟨_, _, _, gains_autoBound got, rfl, by simp [autoBoundSocket], .refl _, rfl⟩

theorem Inv.sendVia {b : Bsd} (inv : Inv b) (fd : Int) (addr : Option SockAddrIn)
    (bytes : List UInt8) :
    (BsdMitmService.sendVia fd addr bytes).Ensures false b fun _ b' => Inv b' := by
  unfold BsdMitmService.sendVia
  simp only [ensures_bind, ensures_onManager, getProxySocket, ensures_withLock, ensures_read]
  cases b.manager.sockets.lookup fd with
  | none => simpa using inv
  | some s =>
      cases addr with
      | none => simpa using inv
      | some dest =>
          simp only [ensures_bind, ensures_onManager]
          refine (sendTo_untouched s bytes dest).mono ?_
          intro result m' same
          cases result <;> simpa using inv.untouched same

theorem Inv.sendTo {b : Bsd} (inv : Inv b) {fd : Int} {addr : Option SockAddrIn}
    {bytes : List UInt8} (clean : Clean b (.sendTo fd addr bytes) = true) :
    (BsdMitmService.sendTo fd addr bytes).Ensures false b fun _ b' => Inv b' := by
  -- from the prepared proxy on
  have rest : ∀ (b' : Bsd) (known : Option SocketInfo), Inv b' →
      (if known.any (·.isProxy) = true ∨ addr.any isLdnInet = true then
          BsdMitmService.sendVia fd addr bytes
        else pure .forwarded : Program Bsd Answer).Ensures false b' fun _ b'' => Inv b'' := by
    intro b' known kept
    by_cases proxied : known.any (·.isProxy) = true ∨ addr.any isLdnInet = true
    · simpa only [if_pos proxied] using kept.sendVia fd addr bytes
    · simpa only [if_neg proxied, ensures_pure] using kept
  unfold BsdMitmService.sendTo
  simp only [ensures_bind, ensures_read]
  cases entry : b.socketInfo.lookup fd with
  | none => exact ensures_bind.mpr (ensures_pure.mpr (rest b none inv))
  | some info =>
      by_cases create : addr.any isLdnInet = true ∧ (!info.isProxy) = true
      · have unmarked : info.isProxy = false := by simpa using create.2
        have room : isFull b.manager = false := by
          cases addr with
          | none => simp at create
          | some dest =>
              have toLdn : isLdnInet dest = true := create.1
              simpa [Clean, toLdn, entry, unmarked] using clean
        simp only [if_pos create, ensures_bind]
        refine (inv.sendToProxy entry unmarked room).mono ?_
        intro prepared b' kept
        cases prepared with
        | error errno => simpa using kept
        | ok _ => exact rest b' (some info) kept
      · simp only [if_neg create]
        exact ensures_bind.mpr (ensures_pure.mpr (rest b (some info) inv))

theorem Closed.widen {m m' : Manager} {gone : Int → Prop} (closed : Closed m m' gone)
    (gone' : Int → Prop) (more : ∀ fd, gone fd → gone' fd)
    (absent : ∀ fd, gone' fd → ¬ gone fd → m.sockets.lookup fd = none) : Closed m m' gone' := by
  refine ⟨?_, ?_, ?_⟩
  · intro fd out
    by_cases early : gone fd
    · exact closed.dropped fd early
    · rw [closed.kept fd early, absent fd out early]
  · intro fd stays
    exact closed.kept fd fun early => stays (more fd early)
  · intro port which
    rw [closed.ports]
    refine and_congr_right fun _ => not_congr ?_
    constructor
    · rintro ⟨fd, s, out, known, owns⟩
      exact ⟨fd, s, more fd out, known, owns⟩
    · rintro ⟨fd, s, out, known, owns⟩
      by_cases early : gone fd
      · exact ⟨fd, s, early, known, owns⟩
      · rw [absent fd out early] at known
        cases known

theorem Closed.nothing (m : Manager) : Closed m m fun _ => False :=
  ⟨fun _ no => no.elim, fun _ _ => rfl, by intro port which; simp⟩

theorem Inv.release {b : Bsd} (inv : Inv b) {t : InfoTable} {m : Manager} {gone : Int → Prop}
    (closed : Closed b.manager m gone) (erased : ∀ fd, gone fd → t.lookup fd = none)
    (others : ∀ fd, ¬ gone fd → t.lookup fd = b.socketInfo.lookup fd) : Inv ⟨t, m⟩ := by
  have stays : ∀ fd s, m.sockets.lookup fd = some s →
      ¬ gone fd ∧ b.manager.sockets.lookup fd = some s := by
    intro fd s known
    have kept : ¬ gone fd := by
      intro out
      rw [closed.dropped fd out] at known
      cases known
    exact ⟨kept, by rw [← closed.kept fd kept, known]⟩
  refine ⟨?_, ?_, ?_⟩
  · refine inv.sound.release gone ?_ ?_ ?_ ?_ ?_
    · intro fd kept
      simp only [ledger]
      rw [closed.kept fd kept]
    · intro fd out
      simp only [ledger]
      rw [closed.dropped fd out, Option.map_none]
    · intro fd kept
      simp only [ledger]
      rw [others fd kept]
    · intro fd out
      simp only [ledger]
      rw [erased fd out, Option.map_none]
    · rintro ⟨port, which⟩
      refine (closed.ports port which).trans (and_congr_right fun _ => not_congr ?_)
      simp only [ledger, Option.map_eq_some_iff]
      constructor
      · rintro ⟨fd, s, out, known, owns⟩
        exact ⟨fd, out, s, known, owns⟩
      · rintro ⟨fd, out, s, known, owns⟩
        exact ⟨fd, s, out, known, owns⟩
  · intro fd s known
    exact inv.unbound fd s (stays fd s known).2
  · intro fd s info known entry
    rw [others fd (stays fd s known).1] at entry
    exact inv.protocols fd s info (stays fd s known).2 entry

theorem Inv.close {b : Bsd} (inv : Inv b) (fd : Int) :
    (BsdMitmService.close fd).Ensures false b fun _ b' => Inv b' := by
  have drop : ∀ m, Closed b.manager m (· = fd) → Inv ⟨b.socketInfo.erase fd, m⟩ := by
    intro m closed
    refine inv.release closed ?_ ?_
    · rintro j rfl
      exact AList.lookup_erase _ _
    · intro j apart
      exact AList.lookup_erase_ne apart
  unfold BsdMitmService.close
  simp only [ensures_bind, ensures_read]
  cases entry : b.socketInfo.lookup fd with
  | none => simpa using inv
  | some info =>
      cases proxied : info.isProxy with
      | true =>
          simp only [proxied, if_true, ensures_bind, ensures_discard, ensures_onManager,
            ensures_pure, ensures_update]
          exact (closeProxySocket_closed b.manager fd).mono fun _ m closed => drop m closed
      | false =>
          simp only [proxied, Bool.false_eq_true, if_false, ensures_bind, ensures_update,
            ensures_pure]
          refine drop b.manager ((Closed.nothing b.manager).widen (· = fd) (fun _ no => no.elim) ?_)
          rintro j rfl -
          exact inv.absent entry proxied

theorem lookup_eraseAll (t : InfoTable) (fds : List Int) (fd : Int) :
    (fds.foldl (fun t fd => t.erase fd) t).lookup fd = if fd ∈ fds then none else t.lookup fd := by
  induction fds generalizing t with
  | nil => simp
  | cons j fds ih =>
      rw [List.foldl_cons, ih]
      by_cases same : fd = j
      · subst same
        simp
      · rw [AList.lookup_erase_ne same]
        simp [same]

theorem mem_droppedFds (t : InfoTable) (selected : SocketInfo → Bool) (fd : Int) :
    fd ∈ (t.entries.filter fun e => selected e.2).map (·.1) ↔
      ∃ info, t.lookup fd = some info ∧ selected info = true := by
  simp only [List.mem_map, List.mem_filter]
  constructor
  · rintro ⟨⟨j, info⟩, ⟨entry, chosen⟩, rfl⟩
    exact ⟨info, AList.mem_lookup_iff.mpr entry, chosen⟩
  · rintro ⟨info, entry, chosen⟩
    exact ⟨⟨fd, info⟩, ⟨AList.mem_lookup_iff.mp entry, chosen⟩, rfl⟩

theorem Inv.dropEntries {b : Bsd} (inv : Inv b) (selected : SocketInfo → Bool) :
    (BsdMitmService.dropEntries selected).Ensures false b fun _ b' => Inv b' := by
  unfold BsdMitmService.dropEntries
  simp only [ensures_bind, ensures_read, ensures_update, ensures_onManager]
  refine (closeFds_closed b.manager _).mono ?_
  intro _ m closed
  have dropped := mem_droppedFds b.socketInfo selected
  refine inv.release (closed.widen (fun fd =>
    ∃ info, b.socketInfo.lookup fd = some info ∧ selected info = true) ?_ ?_) ?_ ?_
  · intro fd out
    simp only [List.mem_map, List.mem_filter] at out
    obtain ⟨e, ⟨chosen, -⟩, rfl⟩ := out
    exact (dropped e.1).mp (List.mem_map_of_mem (List.mem_filter.mpr chosen))
  · rintro fd ⟨info, entry, chosen⟩ unclosed
    cases proxied : info.isProxy with
    | true =>
        refine absurd ?_ unclosed
        have member := AList.mem_lookup_iff.mp entry
        exact List.mem_map.mpr ⟨⟨fd, info⟩,
          List.mem_filter.mpr ⟨List.mem_filter.mpr ⟨member, chosen⟩, proxied⟩, rfl⟩
    | false => exact inv.absent entry proxied
  · intro fd out
    rw [lookup_eraseAll, if_pos ((dropped fd).mpr out)]
  · intro fd stays
    rw [lookup_eraseAll, if_neg fun out => stays ((dropped fd).mp out)]

theorem Inv.managerReset {b : Bsd} (inv : Inv b) (clean : Clean b .managerReset = true) :
    (onManager ProxySocketManager.reset).Ensures false b fun _ b' => Inv b' := by
  have keys : b.manager.sockets.keys = [] := by simpa [Clean] using clean
  have absent : ∀ fd, b.manager.sockets.lookup fd = none := by
    intro fd
    rw [AList.lookup_eq_none, AList.mem_keys, keys]
    exact List.not_mem_nil
  have entries : b.manager.sockets.entries = [] := List.map_eq_nil_iff.mp keys
  unfold ProxySocketManager.reset
  simp only [ensures_onManager, ensures_withLock, ensures_bind, ensures_read, entries, closeEach,
    ensures_pure, ensures_update]
  refine ⟨inv.sound.congr ?_ rfl ?_, ?_, ?_⟩
  · funext fd
    simp only [ledger, absent, AList.lookup_empty]
  · rintro ⟨port, which⟩
    rw [inv.sound.taken]
    simp [ledger, Pool.isPortAllocated_releaseAll, absent]
  · intro fd s known
    simp at known
  · intro fd s info known
    simp at known

theorem Inv.step {b b' : Bsd} {action : Action} (inv : Inv b) (clean : Clean b action = true)
    (moved : step b action = some b') : Inv b' := by
  have ensures : (action.program).Ensures false b fun _ b' => Inv b' := by
    cases action with
    | socket sessionId type protocol real =>
        exact ensures_discard.mpr (inv.socket clean)
    | bind fd addr now => exact ensures_discard.mpr (inv.bind clean)
    | connect fd addr reply => exact ensures_discard.mpr (inv.connect clean)
    | sendTo fd addr bytes => exact ensures_discard.mpr (inv.sendTo clean)
    | close fd => exact ensures_discard.mpr (inv.close fd)
    | destroySession sessionId => exact inv.dropEntries (·.sessionId = sessionId)
    | resetProcessMitmState => exact inv.dropEntries fun _ => true
    | managerReset => exact inv.managerReset clean
    | configure localIp sendCallback onConnect onConnectReply onDisconnect =>
        simp only [Action.program, ensures_onManager, ensures_update]
        exact inv.untouched ⟨rfl, fun _ none => none, fun _ s known => ⟨s, known, .refl s⟩⟩
  obtain ⟨r, done, rfl⟩ := Option.map_eq_some_iff.mp moved
  exact ensures r.1 r.2 done

/-- In every run of clean commands the books agree in every state. -/
theorem booksAgree_of_clean {b : Bsd} {actions : List Action}
    (steps : run (guarded Clean step) .init actions = some b) : BooksAgree b := by
  refine booksAgree_of_sound (run_invariant Inv ?_ steps inv_init).sound
  intro s a t moved inv
  obtain ⟨clean, moved⟩ := guarded_eq_some.mp moved
  exact inv.step clean moved

def oneBind : List Action :=
  [.socket 1 1 0 ⟨true, 0, 3⟩, .bind 3 (some (.ofHost 0x0A720001 50000)) 0]

theorem booksAgree_of_clean_closed :
    ∃ b, run (guarded Clean step) .init (oneBind ++ [.close 3]) = some b ∧ BooksAgree b := by
  have evaluated : (run (guarded Clean step) .init (oneBind ++ [.close 3])).isSome = true := by
    decide +kernel
  obtain ⟨b, ran⟩ := Option.isSome_iff_exists.mp evaluated
  exact ⟨b, ran, booksAgree_of_clean ran⟩

/-- A second `Bind` of the socket is refused, but keeps the port it asked for. -/
theorem secondBind_not_booksAgree :
    ∃ b, run step .init (oneBind ++ [.bind 3 (some (.ofHost 0x0A720001 50001)) 0]) = some b ∧
      ¬ BooksAgree b := by
  have facts : (run step .init
      (oneBind ++ [.bind 3 (some (.ofHost 0x0A720001 50001)) 0])).any (fun b =>
        b.manager.portPool.isPortAllocated 50001 .tcp &&
          b.manager.sockets.entries.all (·.2.localAddr.getPort ≠ 50001)) = true := by
    decide +kernel
  obtain ⟨b, ran, facts⟩ := (Option.any_eq_true _ _).mp facts
  refine ⟨b, ran, ?_⟩
  intro agree
  obtain ⟨allocated, others⟩ := Bool.and_eq_true_iff.mp facts
  obtain ⟨fd, s, known, port, -⟩ := (agree.ports 50001 .tcp (by decide)).mp allocated
  have member := AList.mem_lookup_iff.mp known
  exact absurd port (by simpa using List.all_eq_true.mp others _ member)

end RyuLdn.BsdBookkeeping
