import RyuLdn.ProxySocketManager

/-! Which operations of the manager stop on their own mutex. The operations that
hold `m_mutex` while they call into a socket hang exactly when that socket calls
back: `Close` of a TCP socket with a peer, and `IncomingConnection` of a
listener. -/
namespace RyuLdn.ProxySocketManager

open BsdTypes ProtocolTypes ProxySocket LockedProgram Program

/-- The operations that hold the mutex while they work on sockets, and those that
make the sockets what they are. -/
inductive Operation where
  | createProxySocket (fd : Int) (type : SocketType) (protocol : ProtocolType)
  | bind (fd : Int) (addr : SockAddrIn)
  | listen (fd : Int)
  | connect (fd : Int) (addr : SockAddrIn) (reply : Option ProxyInfo)
  | closeProxySocket (fd : Int)
  | closeAllProxySockets
  | reset
  | routeConnectRequest (request : ProxyInfo)
  | routeConnectResponse (response : ProxyInfo)
  | routeIncomingData (sourceIp : UInt32) (sourcePort : UInt16) (destIp : UInt32)
      (destPort : UInt16) (protocol : ProtocolType) (data : List UInt8) (now : Nat)
  | deliverPendingPackets (fd : Int) (port : UInt16) (protocol : ProtocolType) (now : Nat)

def Operation.program : Operation → Program Manager Unit
  | .createProxySocket fd type protocol =>
      (ProxySocketManager.createProxySocket fd type protocol).discard
  | .bind fd addr => withSocket fd fun s => (ProxySocketManager.bind fd s addr).discard
  | .listen fd => withSocket fd fun s => (ProxySocketManager.listen fd s).discard
  | .connect fd addr reply =>
      withSocket fd fun s => (ProxySocketManager.connect fd s addr reply).discard
  | .closeProxySocket fd => (ProxySocketManager.closeProxySocket fd).discard
  | .closeAllProxySockets => ProxySocketManager.closeAllProxySockets
  | .reset => ProxySocketManager.reset
  | .routeConnectRequest request => (ProxySocketManager.routeConnectRequest request).discard
  | .routeConnectResponse response => (ProxySocketManager.routeConnectResponse response).discard
  | .routeIncomingData sourceIp sourcePort destIp destPort protocol data now =>
      (ProxySocketManager.routeIncomingData sourceIp sourcePort destIp destPort protocol data
        now).discard
  | .deliverPendingPackets fd port protocol now =>
      ProxySocketManager.deliverPendingPackets fd port protocol now

/-- A TCP socket that knows a peer: its `Close` says goodbye to it. -/
def HasPeer (s : Socket) : Prop := s.protocol = .tcp ∧ s.remoteAddr.getPort ≠ 0

instance (s : Socket) : Decidable (HasPeer s) :=
  inferInstanceAs (Decidable (s.protocol = .tcp ∧ s.remoteAddr.getPort ≠ 0))

def Operation.NoCallBack (m : Manager) : Operation → Prop
  | .closeProxySocket fd => ∀ s ∈ m.sockets.lookup fd, ¬ HasPeer s
  | .closeAllProxySockets => ∀ e ∈ m.sockets.entries, ¬ HasPeer e.2
  | .reset => ∀ e ∈ m.sockets.entries, ¬ HasPeer e.2
  | .routeConnectRequest request => ∀ e ∈ m.sockets.entries, listensFor request e.2 = false
  | _ => True

@[simp] theorem sendVia_held (callback : Manager → Option (ProxyInfo → Bool))
    (message : ProxyInfo → Outgoing) (info : ProxyInfo) (m : Manager) :
    sendVia callback message info true m = none := by
  simp [sendVia]

theorem disconnectInfo_eq_none {s : Socket} : s.disconnectInfo = none ↔ ¬ HasPeer s := by
  unfold Socket.disconnectInfo HasPeer
  split <;> simp_all

theorem closeSocket_held (s : Socket) (m : Manager) :
    closeSocket s true m = if HasPeer s then none else some (s.closed, m) := by
  unfold closeSocket
  by_cases peer : HasPeer s
  · rw [if_pos peer]
    cases call : s.disconnectInfo with
    | some info => simp [sendProxyDisconnect]
    | none => exact absurd peer (disconnectInfo_eq_none.mp call)
  · rw [if_neg peer, disconnectInfo_eq_none.mpr peer]
    rfl

theorem closeEach_held (entries : List (Sigma fun _ : Int => Socket)) (m : Manager) :
    closeEach entries true m = none ↔ ∃ e ∈ entries, HasPeer e.2 := by
  induction entries generalizing m with
  | nil => simp [closeEach]
  | cons entry entries ih =>
      simp only [closeEach, bind_apply, closeSocket_held, List.mem_cons]
      by_cases peer : HasPeer entry.2
      · simp [peer]
      · simp [peer, ih]

theorem incomingConnection_held {fd : Int} {s : Socket} (listening : s.state = .listening)
    (request : ProxyInfo) (m : Manager) : incomingConnection fd s request true m = none := by
  simp [incomingConnection, Socket.incomingConnection, listening, sendProxyConnectReply]

theorem closeProxySocket_deadlocks (m : Manager) (fd : Int) :
    (closeProxySocket fd).SelfDeadlocks m ↔ ∃ s ∈ m.sockets.lookup fd, HasPeer s := by
  unfold SelfDeadlocks closeProxySocket
  simp only [withLock_free, bind_apply, read_apply, Option.bind_some]
  cases found : m.sockets.lookup fd with
  | none => simp
  | some s =>
      by_cases port : s.localAddr.getPort = 0 <;> by_cases peer : HasPeer s <;>
        simp [port, peer, closeSocket_held]

theorem routeConnectRequest_deadlocks (m : Manager) (request : ProxyInfo) :
    (routeConnectRequest request).SelfDeadlocks m ↔
      ∃ e ∈ m.sockets.entries, listensFor request e.2 = true := by
  unfold SelfDeadlocks routeConnectRequest
  simp only [withLock_free, bind_apply, read_apply, Option.bind_some]
  cases found : m.sockets.entries.find? (fun e => listensFor request e.2) with
  | none =>
      rw [List.find?_eq_none] at found
      simp only [pure_apply, reduceCtorEq, false_iff]
      rintro ⟨e, member, accepts⟩
      exact found e member accepts
  | some e =>
      have accepts := List.find?_some found
      have member := List.mem_of_find?_eq_some found
      have listening : e.2.state = .listening := by
        simp only [listensFor, Bool.and_eq_true, decide_eq_true_eq] at accepts
        exact accepts.1.1.1
      simp only [bind_apply, incomingConnection_held listening, Option.bind_none, true_iff]
      exact ⟨e, member, accepts⟩

theorem routeConnectResponse_returns (m : Manager) (response : ProxyInfo) :
    ¬ (routeConnectResponse response).SelfDeadlocks m := by
  unfold SelfDeadlocks routeConnectResponse
  simp only [withLock_free, bind_apply, read_apply, Option.bind_some]
  cases m.sockets.entries.find? (fun e => awaits response e.2) <;> simp

theorem routeIncomingData_returns (m : Manager) (sourceIp : UInt32) (sourcePort : UInt16)
    (destIp : UInt32) (destPort : UInt16) (protocol : ProtocolType) (data : List UInt8)
    (now : Nat) :
    ¬ (routeIncomingData sourceIp sourcePort destIp destPort protocol data now).SelfDeadlocks m := by
  unfold SelfDeadlocks routeIncomingData
  simp only [withLock_free, bind_apply, read_apply, Option.bind_some, id]
  by_cases own : m.localIp ≠ 0 ∧ sourceIp = m.localIp
  · simp [own]
  · rw [if_neg own]
    cases findAllSocketsByDestination m destIp destPort protocol 8 with
    | nil => by_cases datagram : protocol = .udp <;> simp [datagram]
    | cons target targets => simp

theorem deliverPendingPackets_returns (m : Manager) (fd : Int) (port : UInt16)
    (protocol : ProtocolType) (now : Nat) :
    ¬ (deliverPendingPackets fd port protocol now).SelfDeadlocks m := by
  unfold SelfDeadlocks deliverPendingPackets
  simp only [withLock_free, bind_apply, read_apply, Option.bind_some, id]
  cases m.sockets.lookup fd <;> simp

theorem closeAllProxySockets_deadlocks (m : Manager) :
    closeAllProxySockets.SelfDeadlocks m ↔ ∃ e ∈ m.sockets.entries, HasPeer e.2 := by
  rw [← closeEach_held m.sockets.entries m]
  unfold SelfDeadlocks closeAllProxySockets
  simp only [withLock_free, bind_apply, read_apply, Option.bind_some]
  cases closeEach m.sockets.entries true m <;> simp

theorem reset_deadlocks (m : Manager) :
    reset.SelfDeadlocks m ↔ ∃ e ∈ m.sockets.entries, HasPeer e.2 := by
  rw [← closeEach_held m.sockets.entries m]
  unfold SelfDeadlocks reset
  simp only [withLock_free, bind_apply, read_apply, Option.bind_some]
  cases closeEach m.sockets.entries true m <;> simp

theorem withSocket_returns {fd : Int} {body : Socket → Program Manager Unit}
    (total : ∀ s m, body s false m ≠ none) (m : Manager) : ¬ (withSocket fd body).SelfDeadlocks m := by
  unfold SelfDeadlocks withSocket getProxySocket
  simp only [bind_apply, withLock_free, read_apply, Option.bind_some]
  cases m.sockets.lookup fd with
  | none => simp
  | some s => exact total s m

theorem createProxySocket_returns (m : Manager) (fd : Int) (type : SocketType)
    (protocol : ProtocolType) : ¬ (createProxySocket fd type protocol).SelfDeadlocks m := by
  unfold SelfDeadlocks createProxySocket
  simp only [withLock_free, bind_apply, read_apply, Option.bind_some, id]
  by_cases known : fd ∈ m.sockets
  · simp [known]
  · by_cases full : m.sockets.keys.length ≥ maxProxySockets <;> simp [known, full]

theorem connect_returns (m : Manager) (fd : Int) (s : Socket) (addr : SockAddrIn)
    (reply : Option ProxyInfo) : ¬ (connect fd s addr reply).SelfDeadlocks m := by
  unfold SelfDeadlocks connect
  cases s.beginConnect addr with
  | error errno => simp
  | ok started =>
      by_cases stream : s.type = .stream
      · simp only [stream, if_true, bind_apply, update_apply, Option.bind_some, sendProxyConnect,
          sendVia, withLock_free, read_apply]
        cases (m.setSocket fd started).proxyConnectCallback with
        | none => simp
        | some send => by_cases ok : send (s.connectInfo addr) = true <;> simp [ok]
      · simp [stream]

theorem operation_returns_iff (m : Manager) (operation : Operation) :
    ¬ operation.program.SelfDeadlocks m ↔ operation.NoCallBack m := by
  cases operation with
  | createProxySocket fd type protocol =>
      simp only [Operation.program, Operation.NoCallBack, discard_selfDeadlocks, iff_true]
      exact createProxySocket_returns m fd type protocol
  | bind fd addr =>
      refine iff_of_true (withSocket_returns ?_ m) trivial
      intro s m
      unfold ProxySocketManager.bind
      cases s.bind addr <;> simp [Program.discard]
  | listen fd =>
      refine iff_of_true (withSocket_returns ?_ m) trivial
      intro s m
      unfold ProxySocketManager.listen
      cases s.listen <;> simp [Program.discard]
  | connect fd addr reply =>
      refine iff_of_true (withSocket_returns ?_ m) trivial
      intro s m
      exact mt discard_selfDeadlocks.mp (connect_returns m fd s addr reply)
  | closeProxySocket fd =>
      simp only [Operation.program, Operation.NoCallBack, discard_selfDeadlocks,
        closeProxySocket_deadlocks, not_exists, not_and]
  | closeAllProxySockets =>
      simp only [Operation.program, Operation.NoCallBack, closeAllProxySockets_deadlocks,
        not_exists, not_and]
  | reset =>
      simp only [Operation.program, Operation.NoCallBack, reset_deadlocks, not_exists, not_and]
  | routeConnectRequest request =>
      simp only [Operation.program, Operation.NoCallBack, discard_selfDeadlocks,
        routeConnectRequest_deadlocks, not_exists, not_and, Bool.not_eq_true]
  | routeConnectResponse response =>
      simp only [Operation.program, Operation.NoCallBack, discard_selfDeadlocks, iff_true]
      exact routeConnectResponse_returns m response
  | routeIncomingData sourceIp sourcePort destIp destPort protocol data now =>
      simp only [Operation.program, Operation.NoCallBack, discard_selfDeadlocks, iff_true]
      exact routeIncomingData_returns m sourceIp sourcePort destIp destPort protocol data now
  | deliverPendingPackets fd port protocol now =>
      exact iff_of_true (deliverPendingPackets_returns m fd port protocol now) trivial

def runAll : List Operation → Program Manager Unit
  | [] => pure ()
  | operation :: operations => do
      operation.program
      runAll operations

/-- No operation of the history is called back into, in the state it starts from. -/
def NoCallBacks : Manager → List Operation → Prop
  | _, [] => True
  | m, operation :: operations =>
      operation.NoCallBack m ∧
        ∀ next, operation.program false m = some ((), next) → NoCallBacks next operations

/-- A history runs to its end exactly if none of its operations is called back into. -/
theorem runAll_returns_iff (m : Manager) (operations : List Operation) :
    ¬ (runAll operations).SelfDeadlocks m ↔ NoCallBacks m operations := by
  induction operations generalizing m with
  | nil => simp [runAll, NoCallBacks, SelfDeadlocks]
  | cons operation operations ih =>
      rw [NoCallBacks, ← operation_returns_iff]
      unfold SelfDeadlocks at ih ⊢
      simp only [runAll, bind_apply]
      cases done : operation.program false m with
      | none => simp
      | some r =>
          obtain ⟨⟨⟩, next⟩ := r
          simp [ih next]

/-- A TCP socket is registered, bound to an address of the LDN network and connects
to a peer; no callback is set, so the connect fails at once. -/
def connectOnce : List Operation :=
  [.createProxySocket 3 .stream .tcp, .bind 3 (.ofHost 0x0A720001 50000),
    .connect 3 (.ofHost 0x0A720002 50001) none]

/-- Closing it stops: `Close` calls `SendProxyDisconnect` under the mutex. -/
theorem connectOnce_close_deadlocks :
    ¬ (runAll connectOnce).SelfDeadlocks .init ∧
      (runAll (connectOnce ++ [.closeProxySocket 3])).SelfDeadlocks .init := by
  constructor <;> decide +kernel

end RyuLdn.ProxySocketManager
