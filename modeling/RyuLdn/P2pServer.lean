import RyuLdn.ArrayQueue
import RyuLdn.OwnerSlots
import RyuLdn.ProtocolCodec
import RyuLdn.ProtocolTypes
import Mathlib.Logic.Function.Basic

/-! `P2pProxyServer` and the session objects it owns, one definition per critical
section of `m_mutex`. Session objects live at numbers handed out by `new`; a
`unique_ptr` slot holds such a number, and `reset` and `delete` append to `frees`
together with the value of `m_thread_done` at that moment. A freed object keeps
its last contents, as memory does.

`call`, `addCalls`, `consumed` and the logs at the end of `Server` are not in the
source: they name each `AddWaitingToken` call and record what left the server. -/
namespace RyuLdn.P2pServer

open ArrayQueue OwnerSlots ProtocolCodec ProtocolTypes

def maxPlayers : Nat := 8
def maxZombieSessions : Nat := maxPlayers * 2
def maxWaitingTokens : Nat := 16
def sessionStackCount : Nat := maxPlayers

abbrev SessionId := Nat

structure Session where
  remoteIp : UInt32
  virtualIp : UInt32
  socketFd : Option Nat
  connected : Bool
  authenticated : Bool
  masterClosed : Bool
  stackSlot : Option Nat
  threadDone : Bool
  deriving DecidableEq, Inhabited

structure WaitingToken where
  call : Nat
  token : ExternalProxyToken
  deriving DecidableEq, Inhabited

structure Server where
  running : Bool
  sessions : List (Option SessionId)
  sessionCount : Int
  zombieSessions : List (Option SessionId)
  zombieSessionCount : Nat
  waitingTokens : Queue WaitingToken maxWaitingTokens
  broadcastAddress : UInt32
  hostVirtualIp : UInt32
  hostDataCallback : Bool
  masterCallback : Bool
  session : SessionId → Session
  allocated : Nat
  stackUsed : Nat → Bool
  sent : List (SessionId × List UInt8)
  masterSent : List (List UInt8)
  closedFds : List Nat
  frees : List (SessionId × Bool)
  addCalls : Nat
  consumed : List Nat

def Server.start (masterCallback : Bool) : Server where
  running := true
  sessions := List.replicate maxPlayers none
  sessionCount := 0
  zombieSessions := List.replicate maxZombieSessions none
  zombieSessionCount := 0
  waitingTokens := Queue.empty
  broadcastAddress := 0
  hostVirtualIp := 0
  hostDataCallback := false
  masterCallback := masterCallback
  session := fun _ => default
  allocated := 0
  stackUsed := fun _ => false
  sent := []
  masterSent := []
  closedFds := []
  frees := []
  addCalls := 0
  consumed := []

def Server.modify (server : Server) (s : SessionId) (change : Session → Session) : Server :=
  { server with session := Function.update server.session s (change (server.session s)) }

def Session.canSend (session : Session) : Bool := session.connected && session.socketFd.isSome

/-- `P2pProxySession::Send`: nothing leaves a closed session. -/
def Server.send (server : Server) (s : SessionId) (packet : List UInt8) : Server :=
  if (server.session s).canSend then { server with sent := server.sent ++ [(s, packet)] }
  else server

def Session.close (session : Session) (fromMaster : Bool) : Session :=
  { session with connected := false, masterClosed := fromMaster, socketFd := none }

/-- `P2pProxySession::Disconnect` up to the call of `OnSessionDisconnected`; `none`
is the early return of a session that is already disconnected. -/
def Server.disconnect (server : Server) (s : SessionId) (fromMaster : Bool) : Option Server :=
  if (server.session s).connected then
    some { server.modify s (·.close fromMaster) with
      closedFds := server.closedFds ++ (server.session s).socketFd.toList }
  else none

def allocateSessionStackSlot (used : Nat → Bool) : Option Nat :=
  (List.range sessionStackCount).find? (fun slot => !used slot)

/-- The end of `AcceptLoop`: the session limit, `new P2pProxySession` and `Start`.
The result names the session whose receive thread now runs. -/
def Server.accept (server : Server) (fd : Nat) (remoteIp : UInt32) (threadCreated : Bool) :
    Server × Option SessionId :=
  if server.sessionCount ≥ maxPlayers then
    ({ server with closedFds := server.closedFds ++ [fd] }, none)
  else
    let s := server.allocated
    let made := { server.modify s (fun _ => ⟨remoteIp, 0, some fd, true, false, false, none, false⟩)
      with allocated := s + 1 }
    match allocateSessionStackSlot server.stackUsed with
    | none => (made.modify s (fun session => { session with connected := false }), none)
    | some slot =>
        ({ made.modify s (fun session => { session with stackSlot := some slot }) with
          stackUsed := Function.update server.stackUsed slot true },
          if threadCreated then some s else none)

def Server.threadExit (server : Server) (s : SessionId) : Server :=
  server.modify s (fun session => { session with threadDone := true })

/-- `delete`: the destructor disconnects and gives the stack slot back. -/
def Server.free (server : Server) (s : SessionId) : Server :=
  let recorded := { server with frees := server.frees ++ [(s, (server.session s).threadDone)] }
  let closed := (recorded.disconnect s true).getD recorded
  match (server.session s).stackSlot with
  | none => closed
  | some slot =>
      { closed.modify s (fun session => { session with stackSlot := none }) with
        stackUsed := Function.update closed.stackUsed slot false }

def Server.addWaitingToken (server : Server) (token : ExternalProxyToken) : Server :=
  let queue :=
    if server.waitingTokens.count ≥ maxWaitingTokens then server.waitingTokens.dropOldest
    else server.waitingTokens
  { server with
    waitingTokens := queue.push ⟨server.addCalls, token⟩
    addCalls := server.addCalls + 1 }

def bigEndian32 (a b c d : UInt8) : UInt32 :=
  (a.toUInt32 <<< 24) ||| (b.toUInt32 <<< 16) ||| (c.toUInt32 <<< 8) ||| d.toUInt32

def ipMatch (token : ExternalProxyToken) (remoteIp : UInt32) : Bool :=
  let isPrivate := token.physicalIp.bytes.all (· == 0)
  if !isPrivate && token.addressFamily == 2 then
    match token.physicalIp.bytes with
    | a :: b :: c :: d :: _ => bigEndian32 a b c d == remoteIp
    | _ => false
  else isPrivate

def accepts (token : ExternalProxyToken) (config : ExternalProxyConfig) (remoteIp : UInt32) : Bool :=
  let tokenMatch := token.token == config.token
  let ipMatch := if tokenMatch && !ipMatch token remoteIp then true else ipMatch token remoteIp
  ipMatch && tokenMatch

def Server.configure (server : Server) (config : ProxyConfig) : Server :=
  { server with broadcastAddress := config.proxyIp ||| ~~~config.proxySubnetMask }

def Server.insertSession (server : Server) (s : SessionId) : Server :=
  match firstFree server.sessions with
  | some slot =>
      { server with
        sessions := server.sessions.set slot (some s)
        sessionCount := server.sessionCount + 1 }
  | none => server

def proxyConfigPacket (config : ProxyConfig) : List UInt8 :=
  (encode 256 .proxyConfig config.image).2

/-- What `TryRegisterUser` does for a session once its token has left the queue. -/
def Server.enroll (server : Server) (s : SessionId) (virtualIp : UInt32) : Server :=
  let proxyConfig : ProxyConfig := ⟨virtualIp, 0xFFFF0000⟩
  let authenticated := server.modify s (fun session =>
    { session with virtualIp := virtualIp, authenticated := true })
  let configured :=
    if server.sessionCount = 0 then authenticated.configure proxyConfig else authenticated
  (configured.insertSession s).send s (proxyConfigPacket proxyConfig)

/-- One search of `TryRegisterUser`. The reference `token` still names cell `i` after
the entries behind it moved down. -/
def Server.registerAttempt (server : Server) (s : SessionId) (config : ExternalProxyConfig)
    (remoteIp : UInt32) : Option Server :=
  match server.waitingTokens.entries.findIdx? (fun w => accepts w.token config remoteIp) with
  | none => none
  | some i =>
      let matched := server.waitingTokens.entries.getD i default
      let server := { server with
        waitingTokens := server.waitingTokens.removeAt i
        consumed := server.consumed ++ [matched.call] }
      let token := (server.waitingTokens.cells.getD i default).token
      some (server.enroll s token.virtualIp)

def maxRetries : Nat := 10

/-- The retry loop. `wait n` is what the other threads do to the server while
`TimedWait` has given the lock away with `n` rounds left. -/
def registerLoop (wait : Nat → Server → Server) (s : SessionId) (config : ExternalProxyConfig)
    (remoteIp : UInt32) : (rounds : Nat) → Server → Bool × Server
  | 0, server => (false, server)
  | rounds + 1, server =>
      match server.registerAttempt s config remoteIp with
      | some server => (true, server)
      | none => registerLoop wait s config remoteIp rounds (wait rounds server)

def tryRegisterUser (wait : Nat → Server → Server) (s : SessionId) (config : ExternalProxyConfig)
    (remoteIp : UInt32) (server : Server) : Bool × Server :=
  registerLoop wait s config remoteIp maxRetries server

theorem accepts_iff {token : ExternalProxyToken} {config : ExternalProxyConfig}
    {remoteIp : UInt32} : accepts token config remoteIp = true ↔ token.token = config.token := by
  by_cases same : token.token = config.token
  · cases ip : ipMatch token remoteIp <;> simp [accepts, same, ip]
  · simp [accepts, same]

theorem Server.enroll_eq (server : Server) (s : SessionId) (virtualIp : UInt32) :
    server.enroll s virtualIp =
      { server.insertSession s with
        session := Function.update server.session s
          { server.session s with virtualIp := virtualIp, authenticated := true }
        broadcastAddress :=
          if server.sessionCount = 0 then virtualIp ||| ~~~0xFFFF0000 else server.broadcastAddress
        sent := server.sent ++ if (server.session s).canSend then
          [(s, proxyConfigPacket ⟨virtualIp, 0xFFFF0000⟩)] else [] } := by
  have reply : Session.canSend
      { server.session s with virtualIp := virtualIp, authenticated := true } =
        (server.session s).canSend := rfl
  rw [enroll, insertSession]
  cases free : firstFree server.sessions <;> cases first : decide (server.sessionCount = 0) <;>
    cases sendable : (server.session s).canSend <;>
    simp_all [configure, modify, send, insertSession]

/-- `m_zombie_sessions[i].reset(z)`: whatever the slot held before is freed. -/
def Server.resetZombie (server : Server) (i : Nat) (z : Option SessionId) : Server :=
  let stored := { server with zombieSessions := server.zombieSessions.set i z }
  match server.zombieSessions[i]? with
  | some (some old) => stored.free old
  | _ => stored

def Server.notifyMasterDisconnect (server : Server) (virtualIp : UInt32) : Server :=
  if server.masterCallback then
    { server with
      masterSent := server.masterSent ++
        [(encode 256 .externalProxyState (ExternalProxyConnectionState.image ⟨virtualIp, 0⟩)).2] }
  else server

/-- `m_zombie_sessions[m_zombie_session_count++].reset(s)`. -/
def Server.pushZombie (server : Server) (s : SessionId) : Server :=
  { server.resetZombie server.zombieSessionCount (some s) with
    zombieSessionCount := server.zombieSessionCount + 1 }

/-- The first half of `OnSessionDisconnected`: the slot is released, the master told. -/
def Server.releaseSession (server : Server) (s : SessionId) : Server :=
  match slotOf server.sessions s with
  | some slot =>
      let released := { server with
        sessions := server.sessions.set slot none
        sessionCount := server.sessionCount - 1 }
      if (server.session s).authenticated then
        released.notifyMasterDisconnect (server.session s).virtualIp
      else released
  | none => server

def Server.onSessionDisconnected (server : Server) (s : SessionId) : Server :=
  let released := server.releaseSession s
  if released.zombieSessionCount < maxZombieSessions then released.pushZombie s else released

/-- One turn of the reaper's loop: the server, `kept` and the sessions taken. -/
def reapZombie (state : Server × Nat × List SessionId) (i : Nat) :
    Server × Nat × List SessionId :=
  let (server, kept, taken) := state
  match server.zombieSessions[i]? with
  | some (some z) =>
      if (server.session z).threadDone then (server, kept, taken ++ [z])
      else (server.resetZombie kept (some z), kept + 1, taken)
  | _ => (server.resetZombie kept none, kept + 1, taken)

/-- The locked part of `ReapZombieSessions`; the sessions taken are deleted after it. -/
def Server.reapZombieSessions (server : Server) : Server × List SessionId :=
  let (server, kept, taken) :=
    (List.range server.zombieSessionCount).foldl reapZombie (server, 0, [])
  ((List.range' kept (maxZombieSessions - kept)).foldl (fun server i => server.resetZombie i none)
    { server with zombieSessionCount := kept }, taken)

/-- The locked part of `HandleExternalProxyStateChange` and the sessions it disconnects next. -/
def Server.handleExternalProxyStateChange (server : Server) (virtualIp : UInt32)
    (connected : Bool) : Server × List SessionId :=
  if connected then (server, [])
  else
    ({ server with
      waitingTokens := server.waitingTokens.keep (fun w => w.token.virtualIp != virtualIp) },
      server.sessions.reduceOption.filter (fun s => (server.session s).virtualIp == virtualIp))

/-- Where `Stop` puts a session: into the zombie array, or to `delete` when that is full. -/
def Server.retire (server : Server) (s : SessionId) : Server :=
  if server.zombieSessionCount < maxZombieSessions then server.pushZombie s else server.free s

def stopSession (server : Server) (i : Nat) : Server :=
  match server.sessions[i]? with
  | some (some s) =>
      let closed := (server.disconnect s true).getD server
      Server.retire { closed with sessions := closed.sessions.set i none } s
  | _ => server

def Server.stop (server : Server) : Server :=
  if server.running then
    let stopped := (List.range maxPlayers).foldl stopSession { server with running := false }
    { stopped with sessionCount := 0, waitingTokens := stopped.waitingTokens.clear }
  else server

end RyuLdn.P2pServer
