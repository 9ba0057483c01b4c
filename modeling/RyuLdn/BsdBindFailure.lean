import RyuLdn.BsdBookkeepingRuns

/-! What a `Bind` that fails leaves behind. It acquires the proxy socket, its saved
option and a port one after the other, and returns early in between. -/
namespace RyuLdn.BsdBindFailure

open BsdTypes ProxySocket ProxySocketManager EphemeralPortPool BsdMitmService BsdBookkeeping
open BsdBindSteps LockedProgram Program TransitionSystem

structure Unchanged (b b' : Bsd) : Prop where
  ports : ∀ port which, b'.manager.portPool.isPortAllocated port which =
    b.manager.portPool.isPortAllocated port which
  proxies : ∀ j, b'.manager.sockets.lookup j = b.manager.sockets.lookup j
  entries : ∀ j, b'.socketInfo.lookup j = b.socketInfo.lookup j

/-- A `Bind` that does not report success leaves no trace; what the real service
answers to a forwarded one may be an error as well. -/
def FailsClean (b : Bsd) (fd : Int) (addr : SockAddrIn) (now : Nat) : Prop :=
  ∀ answer b', BsdMitmService.bind fd (some addr) now false b = some (answer, b') →
    answer ≠ .own none → Unchanged b b'

def leavesNothing (b : Bsd) (fd : Int) (info : SocketInfo) (addr : SockAddrIn) : Bool :=
  match b.manager.sockets.lookup fd with
  | none => isFull b.manager || obtainable b.manager.portPool info.protocol addr.getPort
  | some s =>
      s.state = .created && obtainable b.manager.portPool info.protocol addr.getPort ||
        !reserves b.manager.portPool info.protocol addr.getPort &&
          (!info.broadcast || s.broadcast)

theorem Unchanged.refl (b : Bsd) : Unchanged b b := ⟨fun _ _ => rfl, fun _ => rfl, fun _ => rfl⟩

theorem finishBind_refused {b : Bsd} {fd : Int} {s : Socket} (info : SocketInfo)
    (addr : SockAddrIn) (now : Nat) (found : b.manager.sockets.lookup fd = some s)
    (bound : s.state ≠ .created) :
    finishBind fd info addr now false b = some (.own (some .inval), b) := by
  unfold finishBind proxyOf ProxySocketManager.bind Socket.bind
  simp [found, bound]

theorem finishBind_succeeds {b : Bsd} {fd : Int} {s : Socket} (info : SocketInfo)
    {addr : SockAddrIn} (now : Nat) (found : b.manager.sockets.lookup fd = some s)
    (fresh : s.state = .created) (family : addr.sinFamily = inet) :
    (finishBind fd info addr now).Ensures false b fun answer _ => answer = .own none := by
  unfold finishBind proxyOf ProxySocketManager.bind Socket.bind
  simp only [ensures_bind, ensures_read, found, fresh, ne_eq, not_true_eq_false, if_false, family,
    ensures_onManager, ensures_update, ensures_pure, ensures_markProxy]
  exact fun _ _ _ => trivial

theorem unchanged_broadcasted_iff {b : Bsd} {fd : Int} {s : Socket} {info : SocketInfo} {pool : Pool}
    (found : b.manager.sockets.lookup fd = some s) :
    Unchanged b (withPool (broadcasted b fd s info) pool) ↔
      (∀ port which, pool.isPortAllocated port which =
        b.manager.portPool.isPortAllocated port which) ∧
      (!info.broadcast || s.broadcast) = true := by
  have own := lookup_broadcasted info found
  have flag : (!info.broadcast || s.broadcast) = true ↔
      (s.broadcast || info.broadcast) = s.broadcast := by
    cases info.broadcast <;> cases s.broadcast <;> decide
  rw [flag]
  constructor
  · intro same
    refine ⟨same.ports, ?_⟩
    have kept := same.proxies fd
    unfold withPool at kept
    rw [own, found, Option.some.injEq] at kept
    exact congrArg (fun t : Socket => t.broadcast) kept
  · rintro ⟨ports, option⟩
    refine ⟨ports, ?_, ?_⟩
    · intro j
      unfold withPool
      by_cases here : j = fd
      · subst here
        rw [own, found, option]
      · exact lookup_broadcasted_ne s info here
    · intro j
      unfold withPool
      rw [broadcasted_socketInfo]

theorem takenPool_same_iff {pool : Pool} {protocol : ProtocolType} {port : UInt16}
    (free : obtainable pool protocol port = true) :
    (∀ q which, (takenPool pool protocol port).isPortAllocated q which =
      pool.isPortAllocated q which) ↔ reserves pool protocol port = false := by
  have marks : ∀ {after : Pool} {q : UInt16}, Reserved pool after q protocol →
      Pool.IsEphemeral q → ¬ ∀ r which, after.isPortAllocated r which =
        pool.isPortAllocated r which := by
    intro after q reserved inside same
    have set := (reserved.bits q (getBitset protocol)).mpr (Or.inr ⟨inside, rfl, rfl⟩)
    rw [same, reserved.free inside] at set
    cases set
  unfold takenPool reserves
  unfold obtainable at free
  by_cases any : port = 0
  · rw [if_pos any] at free
    have got : (pool.allocatePort protocol).1 ≠ 0 := by simpa [hasFree] using free
    have inside : Pool.IsEphemeral (pool.allocatePort protocol).1 := by
      rcases Pool.allocatePort_cases pool protocol with none | ⟨q, after, result, -, inside, -⟩
      · rw [none] at got
        exact absurd rfl got
      · rw [result]
        exact inside
    simp only [if_pos any, free, Bool.true_eq_false, iff_false]
    exact marks (allocatePort_reserved got) inside
  · rw [if_neg any] at free
    simp only [if_neg any, free, Bool.and_true, decide_eq_false_iff_not]
    rcases Pool.allocateSpecificPort_cases pool port protocol with
      ⟨outside, result⟩ | ⟨taken, -⟩ | ⟨inside, -, after, result, -⟩
    · simp [outside, result]
    · simp [taken] at free
    · have got : (pool.allocateSpecificPort port protocol).1 = true := by rw [result]
      simp only [inside, not_true_eq_false, iff_false]
      exact marks (allocateSpecificPort_reserved got) inside

theorem reserves_of_not_obtainable {pool : Pool} {protocol : ProtocolType} {port : UInt16}
    (taken : obtainable pool protocol port = false) : reserves pool protocol port = false := by
  unfold obtainable at taken
  unfold reserves
  split <;> simp_all

theorem failsClean_of_failure {b b' : Bsd} {fd : Int} {addr : SockAddrIn} {now : Nat}
    {errno : Errno}
    (failed : BsdMitmService.bind fd (some addr) now false b = some (.own (some errno), b')) :
    FailsClean b fd addr now ↔ Unchanged b b' := by
  unfold FailsClean
  rw [failed]
  simp

theorem failsClean_of_success {b : Bsd} {fd : Int} {addr : SockAddrIn} {now : Nat}
    (succeeds : (BsdMitmService.bind fd (some addr) now).Ensures false b
      fun answer _ => answer = .own none) : FailsClean b fd addr now :=
  fun answer b' done failed => absurd (succeeds answer b' done) failed

theorem failsClean_registered {b : Bsd} {fd : Int} {s : Socket} {info : SocketInfo}
    {addr : SockAddrIn} (now : Nat) (proxied : isProxied addr = true)
    (family : addr.sinFamily = inet) (entry : b.socketInfo.lookup fd = some info)
    (found : b.manager.sockets.lookup fd = some s) :
    FailsClean b fd addr now ↔ leavesNothing b fd info addr = true := by
  have call := bind_tracked now proxied entry
  rw [found] at call
  dsimp only at call
  rw [bindProxy_apply now found] at call
  unfold leavesNothing
  rw [found]
  dsimp only
  by_cases free : obtainable b.manager.portPool info.protocol addr.getPort = true
  · rw [if_pos free] at call
    have known := lookup_withPool_broadcasted info
      (takenPool b.manager.portPool info.protocol addr.getPort) found
    by_cases fresh : s.state = .created
    · have succeeds : (BsdMitmService.bind fd (some addr) now).Ensures false b
          fun answer _ => answer = .own none := by
        intro answer b' done
        rw [call] at done
        exact finishBind_succeeds info now known fresh
          ((boundAddress_family b info addr).trans family) answer b' done
      simp [failsClean_of_success succeeds, fresh, free]
    · rw [finishBind_refused info _ now known fresh] at call
      rw [failsClean_of_failure call, unchanged_broadcasted_iff found, takenPool_same_iff free]
      simp [fresh]
  · have taken : obtainable b.manager.portPool info.protocol addr.getPort = false := by
      simpa using free
    rw [if_neg free, ← withPool_broadcasted] at call
    rw [failsClean_of_failure call, unchanged_broadcasted_iff found]
    simp [taken, reserves_of_not_obtainable taken]

theorem failsClean_new {b : Bsd} {fd : Int} {info : SocketInfo} {addr : SockAddrIn} (now : Nat)
    (proxied : isProxied addr = true) (family : addr.sinFamily = inet)
    (entry : b.socketInfo.lookup fd = some info) (absent : b.manager.sockets.lookup fd = none) :
    FailsClean b fd addr now ↔ leavesNothing b fd info addr = true := by
  have call := bind_tracked now proxied entry
  rw [absent] at call
  dsimp only at call
  unfold leavesNothing
  rw [absent]
  dsimp only
  by_cases full : isFull b.manager = true
  · rw [if_pos full] at call
    rw [failsClean_of_failure call]
    simp [full, Unchanged.refl]
  · have created := Manager.lookup_setSocket b.manager fd (Socket.new info.type info.protocol)
    rw [if_neg full, bindProxy_apply now created, Manager.setSocket_portPool] at call
    by_cases free : obtainable b.manager.portPool info.protocol addr.getPort = true
    · rw [if_pos free] at call
      have known := lookup_withPool_broadcasted info
        (takenPool b.manager.portPool info.protocol addr.getPort)
        (b := { b with manager := b.manager.setSocket fd (Socket.new info.type info.protocol) })
        created
      have succeeds : (BsdMitmService.bind fd (some addr) now).Ensures false b
          fun answer _ => answer = .own none := by
        intro answer b' done
        rw [call] at done
        exact finishBind_succeeds info now known rfl
          ((boundAddress_family _ info addr).trans family) answer b' done
      simp [failsClean_of_success succeeds, free]
    · rw [if_neg free] at call
      rw [failsClean_of_failure call]
      have registered : ¬ Unchanged b (broadcasted
          { b with manager := b.manager.setSocket fd (Socket.new info.type info.protocol) } fd
          (Socket.new info.type info.protocol) info) := by
        intro same
        have kept := same.proxies fd
        rw [lookup_broadcasted info created, absent] at kept
        cases kept
      simp [full, free, registered]

/-- A `Bind` to an LDN address or `INADDR_ANY` that fails changes nothing exactly if
the descriptor is not tracked or nothing acquired is left. -/
theorem failsClean_iff (b : Bsd) (fd : Int) {addr : SockAddrIn} (now : Nat)
    (proxied : isProxied addr = true) :
    FailsClean b fd addr now ↔
      (b.socketInfo.lookup fd).all (fun info => leavesNothing b fd info addr) = true := by
  have family : addr.sinFamily = inet := by
    simp only [isProxied, Bool.and_eq_true, decide_eq_true_eq] at proxied
    exact proxied.1
  cases entry : b.socketInfo.lookup fd with
  | none =>
      have forwards : BsdMitmService.bind fd (some addr) now false b = some (.forwarded, b) := by
        simp [BsdMitmService.bind, proxied, entry]
      simp [FailsClean, forwards, Unchanged.refl]
  | some info =>
      rw [Option.all_some]
      cases found : b.manager.sockets.lookup fd with
      | none => exact failsClean_new now proxied family entry found
      | some s => exact failsClean_registered now proxied family entry found

/-- Socket 3 asks again for the port it has. -/
theorem failsClean_iff_sameBind :
    ∃ b, run step .init oneBind = some b ∧ FailsClean b 3 (.ofHost 0x0A720001 50000) 0 := by
  have proxied : isProxied (.ofHost 0x0A720001 50000) = true := by decide
  have evaluated : (run step .init oneBind).any (fun b =>
      (b.socketInfo.lookup 3).all fun info =>
        leavesNothing b 3 info (.ofHost 0x0A720001 50000)) = true := by
    decide +kernel
  obtain ⟨b, ran, condition⟩ := (Option.any_eq_true _ _).mp evaluated
  exact ⟨b, ran, (failsClean_iff b 3 0 proxied).mpr condition⟩

/-- A second socket asks for the port of the first: it is refused, and its proxy
stays registered. -/
theorem refusedBind_registers_proxy :
    ∃ b, run step .init (oneBind ++ [.socket 1 1 0 ⟨true, 0, 4⟩]) = some b ∧
      ¬ FailsClean b 4 (.ofHost 0x0A720001 50000) 0 := by
  have facts : (run step .init (oneBind ++ [.socket 1 1 0 ⟨true, 0, 4⟩])).any (fun b =>
      (b.manager.sockets.lookup 4).isNone &&
        (BsdMitmService.bind 4 (some (.ofHost 0x0A720001 50000)) 0 false b).any fun r =>
          decide (r.1 = .own (some .addrInUse)) && (r.2.manager.sockets.lookup 4).isSome) = true := by
    decide +kernel
  obtain ⟨b, ran, facts⟩ := (Option.any_eq_true _ _).mp facts
  obtain ⟨absent, called⟩ := Bool.and_eq_true_iff.mp facts
  obtain ⟨⟨answer, b'⟩, called, outcome⟩ := (Option.any_eq_true _ _).mp called
  simp only [Bool.and_eq_true, decide_eq_true_eq] at outcome
  refine ⟨b, ran, ?_⟩
  intro clean
  have same := clean answer b' called (by simp [outcome.1])
  rw [same.proxies 4, Option.isNone_iff_eq_none.mp absent] at outcome
  cases outcome.2

end RyuLdn.BsdBindFailure
