import RyuLdn.BsdBookkeeping

/-! The steps of `Bind` as equations: what the state is after each of them, and where
it returns. -/
namespace RyuLdn.BsdBindSteps

open BsdTypes ProxySocket ProxySocketManager EphemeralPortPool BsdMitmService BsdBookkeeping
open LockedProgram Program

def broadcasted (b : Bsd) (fd : Int) (s : Socket) (info : SocketInfo) : Bsd :=
  if info.broadcast then
    { b with manager := b.manager.setSocket fd { s with broadcast := true } }
  else b

def takenPool (pool : Pool) (protocol : ProtocolType) (port : UInt16) : Pool :=
  if port = 0 then (pool.allocatePort protocol).2 else (pool.allocateSpecificPort port protocol).2

def withPool (b : Bsd) (pool : Pool) : Bsd :=
  { b with manager := { b.manager with portPool := pool } }

@[simp] theorem onManager_apply {α : Type} (p : Program Manager α) (held : Bool) (b : Bsd) :
    onManager p held b = (p held b.manager).map fun r => (r.1, { b with manager := r.2 }) := rfl

theorem createProxySocket_apply (m : Manager) (fd : Int) (type : SocketType)
    (protocol : ProtocolType) :
    createProxySocket fd type protocol false m =
      match m.sockets.lookup fd with
      | some _ => some (true, m)
      | none =>
          if isFull m then some (false, m)
          else some (true, m.setSocket fd (Socket.new type protocol)) := by
  unfold createProxySocket
  simp only [withLock_free, bind_apply, read_apply, Option.bind_some, id, ← AList.lookup_isSome]
  cases known : m.sockets.lookup fd with
  | some s => simp
  | none =>
      by_cases full : maxProxySockets ≤ m.sockets.keys.length
      · simp [isFull, full]
      · simp [isFull, full]

theorem bind_tracked {b : Bsd} {fd : Int} {info : SocketInfo} {addr : SockAddrIn} (now : Nat)
    (proxied : isProxied addr = true) (entry : b.socketInfo.lookup fd = some info) :
    BsdMitmService.bind fd (some addr) now false b =
      match b.manager.sockets.lookup fd with
      | some _ => bindProxy fd info addr now false b
      | none =>
          if isFull b.manager then some (.own (some .noMem), b)
          else bindProxy fd info addr now false
            { b with manager := b.manager.setSocket fd (Socket.new info.type info.protocol) } := by
  unfold BsdMitmService.bind
  simp only [proxied, if_true, bind_apply, read_apply, Option.bind_some, entry]
  rw [onManager_apply, createProxySocket_apply]
  cases known : b.manager.sockets.lookup fd with
  | some s => rfl
  | none =>
      dsimp only
      split <;> rfl

theorem applyBroadcast_apply {b : Bsd} {fd : Int} {s : Socket} (info : SocketInfo)
    (found : b.manager.sockets.lookup fd = some s) :
    applyBroadcast fd info false b = some ((), broadcasted b fd s info) := by
  unfold applyBroadcast proxyOf broadcasted
  simp only [bind_apply, read_apply, Option.bind_some, found]
  cases info.broadcast <;> simp

theorem lookup_broadcasted {b : Bsd} {fd : Int} {s : Socket} (info : SocketInfo)
    (found : b.manager.sockets.lookup fd = some s) :
    (broadcasted b fd s info).manager.sockets.lookup fd =
      some { s with broadcast := s.broadcast || info.broadcast } := by
  unfold broadcasted
  cases info.broadcast <;> simp [found]

theorem lookup_withPool_broadcasted {b : Bsd} {fd : Int} {s : Socket} (info : SocketInfo)
    (pool : Pool) (found : b.manager.sockets.lookup fd = some s) :
    (withPool (broadcasted b fd s info) pool).manager.sockets.lookup fd =
      some { s with broadcast := s.broadcast || info.broadcast } := lookup_broadcasted info found

theorem lookup_broadcasted_ne {b : Bsd} {fd j : Int} (s : Socket) (info : SocketInfo)
    (apart : j ≠ fd) :
    (broadcasted b fd s info).manager.sockets.lookup j = b.manager.sockets.lookup j := by
  unfold broadcasted
  split
  · exact Manager.lookup_setSocket_ne _ apart
  · rfl

@[simp] theorem broadcasted_portPool (b : Bsd) (fd : Int) (s : Socket) (info : SocketInfo) :
    (broadcasted b fd s info).manager.portPool = b.manager.portPool := by
  unfold broadcasted
  split <;> rfl

@[simp] theorem broadcasted_localIp (b : Bsd) (fd : Int) (s : Socket) (info : SocketInfo) :
    (broadcasted b fd s info).manager.localIp = b.manager.localIp := by
  unfold broadcasted
  split <;> rfl

theorem broadcasted_eq (b : Bsd) (fd : Int) (s : Socket) (info : SocketInfo) :
    broadcasted b fd s info = { b with manager := (broadcasted b fd s info).manager } := by
  unfold broadcasted
  split <;> rfl

@[simp] theorem broadcasted_socketInfo (b : Bsd) (fd : Int) (s : Socket) (info : SocketInfo) :
    (broadcasted b fd s info).socketInfo = b.socketInfo := by
  unfold broadcasted
  split <;> rfl

theorem bindAddress_getPort (addr : SockAddrIn) (localIp : UInt32) :
    (bindAddress addr localIp).getPort = addr.getPort := by
  unfold bindAddress
  split <;> rfl

theorem bindAddress_family (addr : SockAddrIn) (localIp : UInt32) :
    (bindAddress addr localIp).sinFamily = addr.sinFamily := by
  unfold bindAddress
  split <;> rfl

def boundAddress (b : Bsd) (info : SocketInfo) (addr : SockAddrIn) : SockAddrIn :=
  if addr.getPort = 0 then
    { bindAddress addr b.manager.localIp with
      sinPort := bswap16 (b.manager.portPool.allocatePort info.protocol).1 }
  else bindAddress addr b.manager.localIp

theorem boundAddress_family (b : Bsd) (info : SocketInfo) (addr : SockAddrIn) :
    (boundAddress b info addr).sinFamily = addr.sinFamily := by
  unfold boundAddress
  split <;> exact bindAddress_family addr _

theorem allocatePort_apply (b : Bsd) (protocol : ProtocolType) :
    onManager (allocatePort protocol) false b =
      some ((b.manager.portPool.allocatePort protocol).1,
        withPool b (b.manager.portPool.allocatePort protocol).2) := rfl

theorem reservePort_apply (b : Bsd) (port : UInt16) (protocol : ProtocolType) :
    onManager (reservePort port protocol) false b =
      some ((b.manager.portPool.allocateSpecificPort port protocol).1,
        withPool b (b.manager.portPool.allocateSpecificPort port protocol).2) := rfl

theorem withPool_broadcasted (b : Bsd) (fd : Int) (s : Socket) (info : SocketInfo) :
    withPool (broadcasted b fd s info) b.manager.portPool = broadcasted b fd s info := by
  unfold broadcasted
  split <;> rfl

theorem anyPort_cases (pool : Pool) (protocol : ProtocolType) :
    (hasFree pool protocol = false ∧ pool.allocatePort protocol = (0, pool)) ∨
      hasFree pool protocol = true ∧ (pool.allocatePort protocol).1 ≠ 0 := by
  unfold hasFree
  rcases Pool.allocatePort_cases pool protocol with none | ⟨port, pool', result, nonzero, -⟩
  · exact Or.inl (by simp [none])
  · exact Or.inr (by simp [result, nonzero])

theorem reserve_answer (pool : Pool) (protocol : ProtocolType) {port : UInt16} (nonzero : port ≠ 0) :
    (obtainable pool protocol port = true ∧
        (pool.allocateSpecificPort port protocol).1 = true) ∨
      obtainable pool protocol port = false ∧
        pool.allocateSpecificPort port protocol = (false, pool) := by
  unfold obtainable
  rw [if_neg nonzero]
  rcases Pool.allocateSpecificPort_cases pool port protocol with
    ⟨outside, result⟩ | ⟨taken, result⟩ | ⟨-, free, after, result, -⟩
  · have untracked : ¬ portToIndex port < portCount := outside
    exact Or.inl (by simp [result, Pool.isPortAllocated, untracked])
  · exact Or.inr (by simp [taken, result])
  · exact Or.inl (by simp [free, result])

theorem takenPool_of_not_reserves {pool : Pool} {protocol : ProtocolType} {port : UInt16}
    (free : obtainable pool protocol port = true) (unset : ¬ reserves pool protocol port = true) :
    takenPool pool protocol port = pool := by
  unfold obtainable at free
  unfold reserves at unset
  unfold takenPool
  by_cases any : port = 0
  · rw [if_pos any] at free unset
    exact absurd free unset
  · rw [if_neg any] at free unset ⊢
    rcases Pool.allocateSpecificPort_cases pool port protocol with
      ⟨-, result⟩ | ⟨taken, -⟩ | ⟨inside, untaken, -⟩
    · rw [result]
    · simp [taken] at free
    · simp [inside, untaken] at unset

theorem bindProxy_apply {b : Bsd} {fd : Int} {s : Socket} {info : SocketInfo} {addr : SockAddrIn}
    (now : Nat) (found : b.manager.sockets.lookup fd = some s) :
    bindProxy fd info addr now false b =
      if obtainable b.manager.portPool info.protocol addr.getPort then
        finishBind fd info (boundAddress b info addr) now false
          (withPool (broadcasted b fd s info)
            (takenPool b.manager.portPool info.protocol addr.getPort))
      else some (.own (some .addrInUse), broadcasted b fd s info) := by
  have localIp : onManager getLocalIp false (broadcasted b fd s info) =
      some (b.manager.localIp, broadcasted b fd s info) := by
    rw [← broadcasted_localIp b fd s info]
    rfl
  unfold bindProxy takenPool boundAddress
  simp only [bind_apply, applyBroadcast_apply info found, Option.bind_some, localIp,
    bindAddress_getPort]
  by_cases any : addr.getPort = 0
  · simp only [if_pos any, bind_apply, allocatePort_apply, Option.bind_some, obtainable,
      broadcasted_portPool]
    rcases anyPort_cases b.manager.portPool info.protocol with ⟨full, none⟩ | ⟨free, got⟩
    · simp [none, full, withPool_broadcasted]
    · simp [got, free]
  · simp only [if_neg any, bind_apply, reservePort_apply, Option.bind_some, broadcasted_portPool]
    rcases reserve_answer b.manager.portPool info.protocol any with ⟨free, got⟩ | ⟨taken, none⟩
    · simp [free, got]
    · simp [taken, none, withPool_broadcasted]

end RyuLdn.BsdBindSteps
