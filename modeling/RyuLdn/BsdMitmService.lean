import RyuLdn.ProxySocketManager

/-! `BsdMitmService`: the commands that decide which file descriptors are proxied.
`g_socket_info` is shared by all sessions; the real service behind the MITM
answers as it likes, so its answers are arguments. The commands run under
`g_socket_info_mutex` only for single table accesses and never nest it; the
mutex the programs track is the manager's. -/
namespace RyuLdn.BsdMitmService

open BsdTypes ProtocolTypes ProxySocket ProxySocketManager LockedProgram Program

structure SocketInfo where
  type : SocketType
  protocol : ProtocolType
  isProxy : Bool
  broadcast : Bool
  sessionId : Nat
  deriving DecidableEq

abbrev InfoTable := AList fun _ : Int => SocketInfo

structure Bsd where
  socketInfo : InfoTable
  manager : Manager

def Bsd.init : Bsd := ⟨∅, .init⟩

def onManager {α : Type} (p : Program Manager α) : Program Bsd α :=
  fun held b => (p held b.manager).map fun r => (r.1, { b with manager := r.2 })

/-- What a command gives back: an errno of its own (`none` is success), or whatever
the real service answered. -/
inductive Answer where
  | own (errno : Option Errno)
  | forwarded
  deriving DecidableEq

/-- The real service's answer to `Socket`: result code, errno and descriptor. -/
structure RealSocket where
  succeeded : Bool
  errno : Int
  fd : Int

def defaultProtocol (type protocol : Int) : ProtocolType :=
  if protocol = 0 then
    match SocketType.ofInt type with
    | .stream => .tcp
    | .dgram => .udp
    | _ => .unspecified
  else .ofInt protocol

def socket (sessionId : Nat) (type protocol : Int) (real : RealSocket) : Program Bsd Answer := do
  if real.succeeded ∧ real.errno = 0 ∧ real.fd ≥ 0 then
    update fun b =>
      { b with
        socketInfo := b.socketInfo.insert real.fd
          ⟨.ofInt type, defaultProtocol type protocol, false, false, sessionId⟩ }
  pure .forwarded

/-- `it->second.is_proxy = true` where the entry is still there. -/
def markProxy (fd : Int) : Program Bsd Unit :=
  update fun b =>
    match b.socketInfo.lookup fd with
    | some info => { b with socketInfo := b.socketInfo.insert fd { info with isProxy := true } }
    | none => b

def proxyOf (fd : Int) : Program Bsd (Option Socket) := read (·.manager.sockets.lookup fd)

/-- `SetBroadcastEnabled(true)` for an option set before the proxy existed. -/
def applyBroadcast (fd : Int) (info : SocketInfo) : Program Bsd Unit := do
  let proxy ← proxyOf fd
  match proxy with
  | some s =>
      if info.broadcast then onManager (update (·.setSocket fd { s with broadcast := true }))
      else pure ()
  | none => pure ()

def finishBind (fd : Int) (info : SocketInfo) (addr : SockAddrIn) (now : Nat) :
    Program Bsd Answer := do
  let proxy ← proxyOf fd
  match proxy with
  | none => pure (.own (some .badF))
  | some s => do
      let bound ← onManager (ProxySocketManager.bind fd s addr)
      match bound with
      | .error errno => pure (.own (some errno))
      | .ok () => do
          markProxy fd
          onManager (deliverPendingPackets fd addr.getPort info.protocol now)
          pure (.own none)

/-- The local LDN address in place of `INADDR_ANY`, when it is known. -/
def bindAddress (addr : SockAddrIn) (localIp : UInt32) : SockAddrIn :=
  if addr.sinAddr = 0 ∧ localIp ≠ 0 then { addr with sinAddr := bswap32 localIp } else addr

def bindProxy (fd : Int) (info : SocketInfo) (addr : SockAddrIn) (now : Nat) :
    Program Bsd Answer := do
  applyBroadcast fd info
  let localIp ← onManager getLocalIp
  let bindAddr := bindAddress addr localIp
  if bindAddr.getPort = 0 then do
    let ephemeral ← onManager (allocatePort info.protocol)
    if ephemeral = 0 then pure (.own (some .addrInUse))
    else finishBind fd info { bindAddr with sinPort := bswap16 ephemeral } now
  else do
    let reserved ← onManager (reservePort bindAddr.getPort info.protocol)
    if reserved then finishBind fd info bindAddr now else pure (.own (some .addrInUse))

def isProxied (addr : SockAddrIn) : Bool :=
  addr.sinFamily = inet && (addr.isLdnAddress || addr.sinAddr = 0)

/-- `addr` is `none` when the buffer is too short for a `SockAddrIn`. -/
def bind (fd : Int) (addr : Option SockAddrIn) (now : Nat) : Program Bsd Answer :=
  match addr with
  | none => pure .forwarded
  | some addr =>
      if isProxied addr then do
        let known ← read (·.socketInfo.lookup fd)
        match known with
        | none => pure .forwarded
        | some info => do
            let created ← onManager (createProxySocket fd info.type info.protocol)
            if created then bindProxy fd info addr now else pure (.own (some .noMem))
      else pure .forwarded

/-- `proxy->Connect` and, on success, the mark. -/
def connectProxy (fd : Int) (addr : SockAddrIn) (reply : Option ProxyInfo) :
    Program Bsd Answer := do
  let proxy ← proxyOf fd
  match proxy with
  | none => pure (.own (some .badF))
  | some s => do
      let connected ← onManager (ProxySocketManager.connect fd s addr reply)
      match connected with
      | .error errno => pure (.own (some errno))
      | .ok () => do
          markProxy fd
          pure (.own none)

def autoBind (fd : Int) (port : UInt16) : Program Bsd (Except Errno Unit) := do
  let localIp ← onManager getLocalIp
  let proxy ← proxyOf fd
  match proxy with
  | none => pure (.error .badF)
  | some s => onManager (ProxySocketManager.bind fd s (.ofHost localIp port))

def isLdnInet (addr : SockAddrIn) : Bool := addr.sinFamily = inet && addr.isLdnAddress

def connect (fd : Int) (addr : Option SockAddrIn) (reply : Option ProxyInfo) :
    Program Bsd Answer :=
  match addr with
  | none => pure .forwarded
  | some addr =>
      if isLdnInet addr then do
        let known ← read (·.socketInfo.lookup fd)
        match known with
        | none => pure .forwarded
        | some info => do
            let proxy ← onManager (getProxySocket fd)
            match proxy with
            | some _ => connectProxy fd addr reply
            | none => do
                let created ← onManager (createProxySocket fd info.type info.protocol)
                if created then do
                  let ephemeral ← onManager (allocatePort info.protocol)
                  if ephemeral = 0 then pure (.own (some .addrInUse))
                  else do
                    let bound ← autoBind fd ephemeral
                    match bound with
                    | .error errno => do
                        onManager (releasePort ephemeral info.protocol)
                        pure (.own (some errno))
                    | .ok () => connectProxy fd addr reply
                else pure (.own (some .noMem))
      else pure .forwarded

/-- The proxy of a socket that sends to an LDN address before it was bound; the
entry is marked whether or not there is a proxy. -/
def sendToProxy (fd : Int) (info : SocketInfo) : Program Bsd (Except Errno Unit) := do
  let proxy ← onManager (getProxySocket fd)
  match proxy with
  | some _ => do
      markProxy fd
      pure (.ok ())
  | none => do
      let created ← onManager (createProxySocket fd info.type info.protocol)
      if created then do
        let ephemeral ← onManager (allocatePort info.protocol)
        if ephemeral ≠ 0 then do
          let bound ← autoBind fd ephemeral
          match bound with
          | .error errno => pure (.error errno)
          | .ok () => do
              markProxy fd
              pure (.ok ())
        else do
          markProxy fd
          pure (.ok ())
      else do
        markProxy fd
        pure (.ok ())

def sendVia (fd : Int) (addr : Option SockAddrIn) (bytes : List UInt8) : Program Bsd Answer := do
  let proxy ← onManager (getProxySocket fd)
  match proxy, addr with
  | some s, some dest => do
      let result ← onManager (ProxySocketManager.sendTo s bytes dest)
      match result with
      | .ok _ => pure (.own none)
      | .error errno => pure (.own (some errno))
  | _, _ => pure (.own (some .netUnreach))

def sendTo (fd : Int) (addr : Option SockAddrIn) (bytes : List UInt8) : Program Bsd Answer := do
  let known ← read (·.socketInfo.lookup fd)
  let toLdn := addr.any isLdnInet
  let isProxy := known.any (·.isProxy)
  let prepared ← match known with
    | some info =>
        if toLdn ∧ !info.isProxy then sendToProxy fd info else pure (.ok ())
    | none => pure (.ok ())
  match prepared with
  | .error errno => pure (.own (some errno))
  | .ok () => if isProxy ∨ toLdn then sendVia fd addr bytes else pure .forwarded

def close (fd : Int) : Program Bsd Answer := do
  let known ← read (·.socketInfo.lookup fd)
  match known with
  | some info => do
      if info.isProxy then (onManager (closeProxySocket fd)).discard
      update fun b => { b with socketInfo := b.socketInfo.erase fd }
      pure .forwarded
  | none => pure .forwarded

def closeFds : List Int → Program Manager Unit
  | [] => pure ()
  | fd :: fds => do
      let _ ← closeProxySocket fd
      closeFds fds

def dropEntries (selected : SocketInfo → Bool) : Program Bsd Unit := do
  let table ← read (·.socketInfo.entries)
  let dropped := table.filter fun e => selected e.2
  update fun b =>
    { b with socketInfo := (dropped.map (·.1)).foldl (fun t fd => t.erase fd) b.socketInfo }
  onManager (closeFds ((dropped.filter fun e => e.2.isProxy).map (·.1)))

/-- `~BsdMitmService`. -/
def destroySession (sessionId : Nat) : Program Bsd Unit :=
  dropEntries fun info => info.sessionId = sessionId

def resetProcessMitmState : Program Bsd Unit := dropEntries fun _ => true

/-- The real service's answer to `Accept`: errno, new descriptor and peer address. -/
structure RealAccept where
  errno : Int
  newFd : Int
  addr : SockAddrIn
  deriving DecidableEq

/-- `Accept` forwards the command, for proxied descriptors too. -/
def accept (_ : Int) (real : RealAccept) : Program Bsd RealAccept := pure real

end RyuLdn.BsdMitmService
