import RyuLdn.ProxySocketManager

/-! The virtual TCP handshake between two instances. The caller sends a
`ProxyConnect` and waits; a listener of the other instance queues the
connection and answers with a `ProxyConnectReply`, which the server relays
unmodified and the caller's manager routes. `Exchange` is one such exchange up
to the moment the reply is delivered.

The reply names the listener as its source, and `RouteConnectResponse` looks for
a socket whose own address is that source; where the two addresses happen to be
equal, the TCP protocol number of the reply reads as a refusal. -/
namespace RyuLdn.ProxySocketHandshake

open BsdTypes ProtocolTypes ProxySocket ProxySocketManager LockedProgram Program

structure Exchange where
  manager : Manager
  fd : Int
  caller : Socket
  addr : SockAddrIn
  started : Socket
  listener : Socket
  isStream : caller.type = .stream
  begun : caller.beginConnect addr = .ok started
  waiting : manager.sockets.lookup fd = some started
  listens : listensFor (caller.connectInfo addr) listener = true

namespace Exchange

variable (x : Exchange)

def request : ProxyInfo := x.caller.connectInfo x.addr

def accepted : Endpoint := x.listener.acceptedFor x.request

def reply : ProxyInfo :=
  ⟨x.listener.localAddr.getAddr, x.listener.localAddr.getPort, x.request.sourceIpv4,
    x.request.sourcePort, ProtocolType.tcp.toField⟩

theorem listening : x.listener.state = .listening := by
  have listens := x.listens
  simp only [listensFor, Bool.and_eq_true, decide_eq_true_eq] at listens
  exact listens.1.1.1

theorem incomingConnection_listener :
    x.listener.incomingConnection x.request =
      ({ x.listener with acceptQueue := x.listener.acceptQueue ++ [x.accepted],
                         acceptEvent := true }, some x.reply) := by
  simp [Socket.incomingConnection, x.listening, accepted, reply]

def delivered : Option Socket :=
  ((routeConnectResponse x.reply) false x.manager).bind fun r => r.2.sockets.lookup x.fd

/-- The end of the exchange at the caller: what `Connect` returns and the socket it
leaves. A non-blocking `Connect` has returned before. -/
def outcome : Option (Except Errno Unit × Socket) := x.delivered.map Socket.endConnect

def NameEachOther (a : Socket) (b : Endpoint) : Prop :=
  (a.localAddr.getAddr, a.localAddr.getPort) = (b.remoteAddr.getAddr, b.remoteAddr.getPort) ∧
    (a.remoteAddr.getAddr, a.remoteAddr.getPort) = (b.localAddr.getAddr, b.localAddr.getPort)

/-- Agreement: the caller is connected, a blocking `Connect` says so, the two
recorded address pairs name each other, and there is no refusal, since a listener
queued the request. -/
structure Agrees : Prop where
  connected : ∃ result, x.outcome = some result ∧ result.2.state = .connected
  success : x.started.nonBlocking = false → ∃ s, x.outcome = some (.ok (), s)
  named : ∃ result, x.outcome = some result ∧ NameEachOther result.2 x.accepted
  refused : ∀ s, x.outcome ≠ some (.error .connRefused, s)

theorem started_state : x.started.state = .connecting ∧ x.started.connectEvent = false := by
  have begun := x.begun
  unfold Socket.beginConnect at begun
  simp only [x.isStream, if_true] at begun
  split at begun
  · cases begun
  · split at begun
    · cases begun
    · rw [← Except.ok.inj begun]
      exact ⟨rfl, rfl⟩

theorem delivered_cases :
    x.delivered = some x.started ∨
      x.delivered = some (x.started.handleConnectResponse x.reply) := by
  unfold delivered routeConnectResponse
  simp only [withLock_free, bind_apply, read_apply, Option.bind_some]
  cases found : x.manager.sockets.entries.find? (fun e => awaits x.reply e.2) with
  | none =>
      left
      simpa using x.waiting
  | some e =>
      have known : x.manager.sockets.lookup e.1 = some e.2 :=
        AList.mem_lookup_iff.mpr (List.mem_of_find?_eq_some found)
      simp only [bind_apply, update_apply, Option.bind_some, pure_apply, Manager.setSocket]
      by_cases own : e.1 = x.fd
      · right
        rw [own, x.waiting, Option.some.injEq] at known
        rw [own, AList.lookup_insert, known]
      · left
        rw [AList.lookup_insert_ne (Ne.symm own)]
        exact x.waiting

theorem outcome_cases :
    ∃ errno s, x.outcome = some (.error errno, s) ∧ s.state ≠ .connected := by
  obtain ⟨state, event⟩ := x.started_state
  have tcp : ProtocolType.tcp.toField ≠ ProtocolType.unspecified.toField := by decide
  unfold outcome
  by_cases nonBlocking : x.started.nonBlocking = true
  · rcases x.delivered_cases with none | own
    · refine ⟨.inProgress, x.started, ?_, by rw [state]; decide⟩
      simp [none, Socket.endConnect, nonBlocking]
    · refine ⟨.inProgress, x.started.handleConnectResponse x.reply, ?_, ?_⟩
      · simp [own, Socket.endConnect, Socket.handleConnectResponse, nonBlocking]
      · simp [Socket.handleConnectResponse, state]
  · rcases x.delivered_cases with none | own
    · refine ⟨.timedOut, { x.started with state := .bound }, ?_, by simp⟩
      simp [none, Socket.endConnect, nonBlocking, event]
    · refine ⟨.connRefused, { x.started.handleConnectResponse x.reply with state := .bound },
        ?_, by simp⟩
      simp [own, Socket.endConnect, Socket.handleConnectResponse, nonBlocking, reply, tcp]

/-- No exchange ends in agreement. -/
theorem not_agrees : ¬ x.Agrees := by
  intro agrees
  obtain ⟨result, ended, connected⟩ := agrees.connected
  obtain ⟨errno, s, actual, apart⟩ := x.outcome_cases
  rw [actual, Option.some.injEq] at ended
  rw [← ended] at connected
  exact apart connected

end Exchange

def twoPlayers : Exchange :=
  let caller : Socket :=
    { Socket.new .stream .tcp with localAddr := .ofHost 0x0A720001 50000, state := .bound }
  let started : Socket :=
    { caller with remoteAddr := .ofHost 0x0A720002 5000, state := .connecting }
  { manager := Manager.init.setSocket 3 started
    fd := 3
    caller := caller
    addr := .ofHost 0x0A720002 5000
    started := started
    listener :=
      { Socket.new .stream .tcp with localAddr := .ofHost 0x0A720002 5000, state := .listening }
    isStream := rfl
    begun := by decide
    waiting := by decide
    listens := by decide }

/-- The listener queued the connection, and the caller times out. -/
theorem twoPlayers_not_agrees : ¬ twoPlayers.Agrees := by
  intro agrees
  obtain ⟨s, ended⟩ := agrees.success (by decide)
  have timeout : twoPlayers.outcome.map Prod.fst = some (.error .timedOut) := by decide +kernel
  rw [ended] at timeout
  exact absurd timeout (by simp)

end RyuLdn.ProxySocketHandshake
