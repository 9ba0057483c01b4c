import RyuLdn.BsdBookkeepingRuns
import RyuLdn.LittleEndian

/-! The options of a descriptor: `Fcntl`, `SetSockOpt` and `GetSockOpt`. A descriptor
with a proxy socket keeps them there; without one the real service does, and the MITM
saves `SO_BROADCAST` for the `Bind` that will make the proxy. `Tracked` remembers what
the game was told it had set, and `ReadsBack` compares that with what it reads. -/
namespace RyuLdn.BsdSocketOptions

open BsdTypes ProtocolTypes ProxySocket ProxySocketManager BsdMitmService BsdBookkeeping
open LockedProgram Program TransitionSystem

def solSocket : Int := 0xffff
def soBroadcast : Int := 0x0020
def soError : Int := 0x1007
def soType : Int := 0x1008
def fGetFl : Int := 3
def fSetFl : Int := 4
def oNonBlock : UInt32 := 0x0004

def errnoFault : Int := 14
def errnoInval : Int := 22
def errnoNoProtoOpt : Int := 92

/-- The answer to the game; `value` is errno 0 with a result or an option. -/
inductive Reply where
  | value (v : Int)
  | failed (errno : Int)
  | forwarded
  deriving DecidableEq

/-- `static_cast<s32>(m_type)`. -/
def typeValue : SocketType → Int
  | .stream => 1
  | .dgram => 2
  | .other value => value

/-- `*reinterpret_cast<const s32*>(optval) != 0`. -/
def isSet (optval : List UInt8) : Bool := LittleEndian.value (optval.take 4) ≠ 0

/-- `arg` is the bit pattern of the `s32`. -/
def fcntl (fd cmd : Int) (arg : UInt32) : Program Bsd Reply := do
  let proxy ← onManager (getProxySocket fd)
  match proxy with
  | some s =>
      if cmd = fGetFl then pure (.value (if s.nonBlocking then oNonBlock.toNat else 0))
      else if cmd = fSetFl then do
        onManager (update (·.setSocket fd { s with nonBlocking := arg &&& oNonBlock ≠ 0 }))
        pure (.value 0)
      else pure (.failed errnoInval)
  | none => pure .forwarded

/-- `ProxySocket::GetSockOpt` with a buffer of `size` bytes, or a null pointer. -/
def readOption (s : Socket) (level optname : Int) (size : Option Nat) : Reply :=
  match size with
  | none => .failed errnoFault
  | some size =>
      if level = solSocket ∧ size ≥ 4 then
        if optname = soType then .value (typeValue s.type)
        else if optname = soError then .value 0
        else if optname = soBroadcast then .value (if s.broadcast then 1 else 0)
        else .failed errnoNoProtoOpt
      else .failed errnoNoProtoOpt

def getSockOpt (fd level optname : Int) (size : Option Nat) : Program Bsd Reply := do
  let proxy ← onManager (getProxySocket fd)
  match proxy with
  | some s => pure (readOption s level optname size)
  | none => pure .forwarded

/-- `ProxySocket::SetSockOpt`: all options but one are accepted and ignored. -/
def writeOption (s : Socket) (level optname : Int) (optval : List UInt8) : Except Int Socket :=
  if level = solSocket ∧ optname = soBroadcast then
    if optval.length ≥ 4 then .ok { s with broadcast := isSet optval } else .error errnoInval
  else .ok s

/-- `SO_BROADCAST` is saved with the entry whatever the real service will say. -/
def saveOption (b : Bsd) (fd level optname : Int) (optval : List UInt8) : Bsd :=
  if level = solSocket ∧ optname = soBroadcast ∧ optval.length ≥ 4 then
    match b.socketInfo.lookup fd with
    | some info =>
        { b with socketInfo := b.socketInfo.insert fd { info with broadcast := isSet optval } }
    | none => b
  else b

def setSockOpt (fd level optname : Int) (optval : List UInt8) : Program Bsd Reply := do
  let proxy ← onManager (getProxySocket fd)
  match proxy with
  | some s =>
      match writeOption s level optname optval with
      | .error errno => pure (.failed errno)
      | .ok written => do
          onManager (update (·.setSocket fd written))
          pure (.value 0)
  | none => do
      update (saveOption · fd level optname optval)
      pure .forwarded

@[ext] structure Options where
  nonBlocking : Bool
  broadcast : Bool
  deriving DecidableEq

def Options.fresh : Options := ⟨false, false⟩

/-- The options the game was last told it had set on each descriptor. -/
structure Tracked where
  bsd : Bsd
  asked : Int → Options

def Tracked.init : Tracked := ⟨.init, fun _ => .fresh⟩

/-- `accepted` is the answer of the real service to a forwarded command. -/
inductive Action where
  | command (a : BsdBookkeeping.Action)
  | fcntl (fd cmd : Int) (arg : UInt32) (accepted : Bool)
  | setSockOpt (fd level optname : Int) (optval : List UInt8) (accepted : Bool)
  | incomingData (info : ProxyInfo) (protocol : BsdTypes.ProtocolType) (data : List UInt8) (now : Nat)
  | connectRequest (request : ProxyInfo)
  | connectResponse (response : ProxyInfo)

def Reply.succeeds (reply : Reply) (accepted : Bool) : Bool :=
  match reply with
  | .value _ => true
  | .failed _ => false
  | .forwarded => accepted

/-- What `F_SETFL` and `SO_BROADCAST` ask for; no other command asks for anything. -/
def askedFlags (cmd : Int) (arg : UInt32) (o : Options) : Options :=
  if cmd = fSetFl then { o with nonBlocking := arg &&& oNonBlock ≠ 0 } else o

def askedOption (level optname : Int) (optval : List UInt8) (o : Options) : Options :=
  if level = solSocket ∧ optname = soBroadcast then { o with broadcast := isSet optval } else o

def ask (asked : Int → Options) (fd : Int) (change : Options → Options) (succeeded : Bool) :
    Int → Options :=
  if succeeded then Function.update asked fd (change (asked fd)) else asked

def made (real : RealSocket) : Bool :=
  real.succeeded && real.errno = 0 && real.fd ≥ 0

def askCommand (asked : Int → Options) : BsdBookkeeping.Action → Int → Options
  | .socket _ _ _ real => if made real then Function.update asked real.fd .fresh else asked
  | _ => asked

def step (t : Tracked) : Action → Option Tracked
  | .command a => (BsdBookkeeping.step t.bsd a).map fun b => ⟨b, askCommand t.asked a⟩
  | .fcntl fd cmd arg accepted =>
      (BsdSocketOptions.fcntl fd cmd arg false t.bsd).map fun (reply, b) =>
        ⟨b, ask t.asked fd (askedFlags cmd arg) (reply.succeeds accepted)⟩
  | .setSockOpt fd level optname optval accepted =>
      (BsdSocketOptions.setSockOpt fd level optname optval false t.bsd).map fun (reply, b) =>
        ⟨b, ask t.asked fd (askedOption level optname optval) (reply.succeeds accepted)⟩
  | .incomingData info protocol data now =>
      (onManager (routeIncomingData info.sourceIpv4 info.sourcePort info.destIpv4 info.destPort
        protocol data now) false t.bsd).map fun (_, b) => { t with bsd := b }
  | .connectRequest request =>
      (onManager (routeConnectRequest request) false t.bsd).map fun (_, b) => { t with bsd := b }
  | .connectResponse response =>
      (onManager (routeConnectResponse response) false t.bsd).map fun (_, b) => { t with bsd := b }

def answer (p : Program Bsd Reply) (b : Bsd) : Option Reply := (p false b).map (·.1)

/-- `F_GETFL` and `SO_BROADCAST` of every proxied descriptor the game has open read back
what it set. -/
structure ReadsBack (t : Tracked) : Prop where
  flags : ∀ fd ∈ t.bsd.socketInfo, fd ∈ t.bsd.manager.sockets →
    answer (fcntl fd fGetFl 0) t.bsd =
      some (.value (if (t.asked fd).nonBlocking then oNonBlock.toNat else 0))
  broadcast : ∀ fd ∈ t.bsd.socketInfo, fd ∈ t.bsd.manager.sockets → ∀ size ≥ 4,
    answer (getSockOpt fd solSocket soBroadcast (some size)) t.bsd =
      some (.value (if (t.asked fd).broadcast then 1 else 0))

def socketOptions (s : Socket) : Options := ⟨s.nonBlocking, s.broadcast⟩

def options (m : Manager) (fd : Int) : Option Options := (m.sockets.lookup fd).map socketOptions

def startsFresh (t : Tracked) (fd : Int) : Bool :=
  decide (fd ∈ t.bsd.manager.sockets) || isFull t.bsd.manager || decide (t.asked fd = .fresh)

/-- `Bind` gives the proxy the saved `SO_BROADCAST`, and never takes it away. -/
def bindKeeps (t : Tracked) (fd : Int) (info : SocketInfo) : Bool :=
  match options t.bsd.manager fd with
  | some o => !info.broadcast || o.broadcast
  | none => isFull t.bsd.manager || decide (t.asked fd = ⟨false, info.broadcast⟩)

def Keeps (t : Tracked) : Action → Bool
  | .command (.socket _ _ _ real) =>
      !made real || (options t.bsd.manager real.fd).all (· = .fresh)
  | .command (.bind fd addr _) =>
      addr.all fun a => !isProxied a || (t.bsd.socketInfo.lookup fd).all fun info =>
        bindKeeps t fd info
  | .command (.connect fd addr _) =>
      addr.all fun a => !isLdnInet a || (t.bsd.socketInfo.lookup fd).all fun _ => startsFresh t fd
  | .command (.sendTo fd addr _) =>
      addr.all fun a => !isLdnInet a || (t.bsd.socketInfo.lookup fd).all fun info =>
        info.isProxy || startsFresh t fd
  | _ => true

def Agree (t : Tracked) : Prop :=
  ∀ fd o, fd ∈ t.bsd.socketInfo → options t.bsd.manager fd = some o → o = t.asked fd

theorem options_setSocket (m : Manager) (fd : Int) (s : Socket) :
    options (m.setSocket fd s) = Function.update (options m) fd (some (socketOptions s)) := by
  funext j
  unfold options
  by_cases own : j = fd
  · rw [own, Function.update_self, Manager.lookup_setSocket]
    rfl
  · rw [Function.update_of_ne own, Manager.lookup_setSocket_ne _ own]

theorem options_known {m : Manager} {fd : Int} {s : Socket} (known : m.sockets.lookup fd = some s) :
    options m fd = some (socketOptions s) := by
  rw [options, known]
  rfl

theorem options_setSocket_of_eq {m : Manager} {fd : Int} {s : Socket}
    (known : options m fd = some (socketOptions s)) : options (m.setSocket fd s) = options m := by
  rw [options_setSocket, ← known, Function.update_eq_self]

theorem options_congr {m m' : Manager} (same : m'.sockets = m.sockets) : options m' = options m := by
  funext fd
  rw [options, options, same]

theorem beginConnect_options {s started : Socket} {addr : SockAddrIn}
    (begun : s.beginConnect addr = .ok started) : socketOptions started = socketOptions s := by
  unfold Socket.beginConnect at begun
  split at begun
  · cases begun
  · split at begun
    · cases begun
    · split at begun <;> rw [← Except.ok.inj begun] <;> rfl

theorem endConnect_options (s : Socket) : socketOptions s.endConnect.2 = socketOptions s := by
  unfold Socket.endConnect
  split
  · rfl
  · split
    · rfl
    · split <;> rfl

theorem bind_options {m : Manager} {fd : Int} {s : Socket} (addr : SockAddrIn)
    (known : m.sockets.lookup fd = some s) :
    (ProxySocketManager.bind fd s addr).Ensures false m fun _ m' => options m' = options m := by
  unfold ProxySocketManager.bind Socket.bind
  split
  · simp
  · rename_i bound same
    simp only [ensures_bind, ensures_update, ensures_pure]
    refine options_setSocket_of_eq ((options_known known).trans ?_)
    split at same
    · cases same
    · split at same
      · cases same
      · rw [← Except.ok.inj same]
        rfl

theorem connect_options {m : Manager} {fd : Int} {s : Socket} (addr : SockAddrIn)
    (reply : Option ProxyInfo) (known : m.sockets.lookup fd = some s) :
    (ProxySocketManager.connect fd s addr reply).Ensures false m fun _ m' =>
      options m' = options m := by
  unfold ProxySocketManager.connect
  cases begun : s.beginConnect addr with
  | error errno => simp
  | ok started =>
      have first : options (m.setSocket fd started) = options m :=
        options_setSocket_of_eq (by rw [options_known known, beginConnect_options begun])
      have at' : options m fd = some (socketOptions started) := by
        rw [options_known known, beginConnect_options begun]
      simp only [ensures_bind, ensures_update]
      split
      · simp only [ensures_bind]
        refine sendVia_ensures.mono ?_
        rintro sent m' ⟨-, sockets, -⟩
        have sentSame : options m' = options m := (options_congr sockets).trans first
        split
        · simp only [ensures_bind, ensures_update, ensures_pure]
          rw [← sentSame]
          refine options_setSocket_of_eq ?_
          rw [sentSame, at', endConnect_options]
          cases reply <;> rfl
        · simp only [ensures_bind, ensures_update, ensures_pure]
          rw [← sentSame]
          refine options_setSocket_of_eq ?_
          rw [sentSame, at']
          rfl
      · simpa using first

theorem sendTo_options {m : Manager} (s : Socket) (bytes : List UInt8) (dest : SockAddrIn) :
    (ProxySocketManager.sendTo s bytes dest).Ensures false m fun _ m' => options m' = options m := by
  unfold ProxySocketManager.sendTo
  split
  · simp
  · simp only [ensures_bind, ensures_pure]
    refine sendVia_ensures.mono ?_
    rintro sent m' ⟨-, sockets, -⟩
    exact options_congr sockets

theorem options_incomingData {m : Manager} {fd : Int} {s : Socket} (data : List UInt8)
    (source : SockAddrIn) (known : options m fd = some (socketOptions s)) :
    options (m.setSocket fd (s.incomingData data source)) = options m :=
  options_setSocket_of_eq known

theorem deliverTo_options {m : Manager} (data : List UInt8) (source : SockAddrIn)
    (targets : List (Sigma fun _ : Int => Socket))
    (known : ∀ e ∈ targets, options m e.1 = some (socketOptions e.2)) :
    options (deliverTo m data source targets) = options m := by
  induction targets generalizing m with
  | nil => rfl
  | cons e targets ih =>
      have first := options_incomingData data source (known e (by simp))
      rw [deliverTo, ih ?_, first]
      intro e' member
      rw [first]
      exact known e' (by simp [member])

theorem options_of_mem {m : Manager} {e : Sigma fun _ : Int => Socket}
    (member : e ∈ m.sockets.entries) : options m e.1 = some (socketOptions e.2) :=
  options_known (AList.mem_lookup_iff.mpr member)

theorem deliverPendingPackets_options {m : Manager} (fd : Int) (port : UInt16)
    (protocol : BsdTypes.ProtocolType) (now : Nat) :
    (deliverPendingPackets fd port protocol now).Ensures false m fun _ m' =>
      options m' = options m := by
  have handed : ∀ (packets : List PendingPacket) (s : Socket), socketOptions (packets.foldl
      (fun s p => s.incomingData p.data (.ofHost p.sourceIp p.sourcePort)) s) = socketOptions s := by
    intro packets
    induction packets with
    | nil => exact fun s => rfl
    | cons p packets ih => exact fun s => ih _
  unfold deliverPendingPackets
  simp only [ensures_withLock, ensures_bind, ensures_read, id]
  split
  · simp
  · rename_i s known
    simp only [ensures_update]
    refine (options_congr rfl).trans (options_setSocket_of_eq ?_)
    rw [options_known known, handed]

theorem mem_entries_of_found {m : Manager} {destIp : UInt32} {destPort : UInt16}
    {protocol : BsdTypes.ProtocolType} {e : Sigma fun _ : Int => Socket}
    (found : e ∈ findAllSocketsByDestination m destIp destPort protocol 8) :
    e ∈ m.sockets.entries := by
  unfold findAllSocketsByDestination at found
  rw [if_neg (by decide)] at found
  split at found
  · split at found
    · rename_i hit
      rw [List.mem_singleton.mp found]
      exact List.mem_of_mem_filter (List.mem_of_find?_eq_some hit)
    · exact List.mem_of_mem_filter (List.mem_of_find?_eq_some (Option.mem_toList.mp found))
  · exact List.mem_of_mem_filter (List.mem_of_mem_filter (List.mem_of_mem_take found))

theorem routeIncomingData_options {m : Manager} (sourceIp : UInt32) (sourcePort : UInt16)
    (destIp : UInt32) (destPort : UInt16) (protocol : BsdTypes.ProtocolType) (data : List UInt8)
    (now : Nat) :
    (routeIncomingData sourceIp sourcePort destIp destPort protocol data now).Ensures false m
      fun _ m' => options m' = options m := by
  unfold routeIncomingData
  simp only [ensures_withLock, ensures_bind, ensures_read, id]
  split
  · simp
  · split
    · split
      · simp
      · simp only [ensures_bind, ensures_update, ensures_pure]
        exact options_congr rfl
    · rename_i target targets found
      simp only [ensures_bind, ensures_update, ensures_pure]
      refine deliverTo_options data _ _ fun e member => options_of_mem ?_
      rw [← found] at member
      exact mem_entries_of_found member

theorem routeConnectRequest_options {m : Manager} (request : ProxyInfo) :
    (routeConnectRequest request).Ensures false m fun _ m' => options m' = options m := by
  unfold routeConnectRequest
  simp only [ensures_withLock, ensures_bind, ensures_read]
  split
  · rename_i e hit
    have known := options_of_mem (List.mem_of_find?_eq_some hit)
    have queued : options (m.setSocket e.1 (e.2.incomingConnection request).1) = options m := by
      refine options_setSocket_of_eq (known.trans ?_)
      unfold Socket.incomingConnection
      split <;> rfl
    unfold ProxySocketManager.incomingConnection
    simp only [ensures_bind, ensures_update, ensures_pure]
    split
    · simp [sendProxyConnectReply, ProxySocketManager.sendVia]
    · simpa using queued
  · simp

theorem routeConnectResponse_options {m : Manager} (response : ProxyInfo) :
    (routeConnectResponse response).Ensures false m fun _ m' => options m' = options m := by
  unfold routeConnectResponse
  simp only [ensures_withLock, ensures_bind, ensures_read]
  split
  · rename_i e hit
    simp only [ensures_bind, ensures_update, ensures_pure]
    exact options_setSocket_of_eq (options_of_mem (List.mem_of_find?_eq_some hit))
  · simp

theorem options_closed {m m' : Manager} {gone : Int → Prop} (closed : Closed m m' gone) {fd : Int}
    {o : Options} (left : options m' fd = some o) : ¬ gone fd ∧ options m fd = some o := by
  by_cases out : gone fd
  · rw [options, closed.dropped fd out] at left
    cases left
  · rw [options, closed.kept fd out] at left
    exact ⟨out, left⟩

structure Same (b b' : Bsd) : Prop where
  entries : ∀ fd, fd ∈ b'.socketInfo ↔ fd ∈ b.socketInfo
  options : options b'.manager = options b.manager

theorem Same.refl (b : Bsd) : Same b b := ⟨fun _ => Iff.rfl, rfl⟩

theorem Same.trans {b b' b'' : Bsd} (first : Same b b') (second : Same b' b'') : Same b b'' :=
  ⟨fun fd => (second.entries fd).trans (first.entries fd), second.options.trans first.options⟩

theorem Same.marked (b : Bsd) (fd : Int) : Same b (marked b fd) := by
  refine ⟨fun j => ?_, rfl⟩
  rw [BsdBookkeeping.marked]
  dsimp only
  cases entry : b.socketInfo.lookup fd with
  | none => simp [markEntry, entry]
  | some info =>
      rw [← AList.lookup_isSome, markEntry_lookup entry, ← AList.lookup_isSome]
      by_cases own : j = fd
      · rw [own, if_pos rfl, entry]
        simp
      · rw [if_neg own]

theorem Same.on_manager {b : Bsd} {m : Manager}
    (same : BsdSocketOptions.options m = BsdSocketOptions.options b.manager) :
    Same b { b with manager := m } := ⟨fun _ => Iff.rfl, same⟩

theorem finishBind_same (b : Bsd) (fd : Int) (info : SocketInfo) (addr : SockAddrIn) (now : Nat) :
    (finishBind fd info addr now).Ensures false b fun _ b' => Same b b' := by
  unfold finishBind proxyOf
  simp only [ensures_bind, ensures_read]
  cases known : b.manager.sockets.lookup fd with
  | none => simpa using Same.refl b
  | some s =>
      simp only [ensures_bind, ensures_onManager]
      refine (bind_options addr known).mono ?_
      intro result m first
      cases result with
      | error errno => simpa using Same.on_manager first
      | ok _ =>
          simp only [ensures_bind, ensures_markProxy, ensures_onManager, ensures_pure]
          refine (deliverPendingPackets_options fd addr.getPort info.protocol now).mono ?_
          intro _ m' second
          have mark := Same.marked { b with manager := m } fd
          exact ((Same.on_manager first).trans mark).trans (Same.on_manager second)

theorem connectProxy_same (b : Bsd) (fd : Int) (addr : SockAddrIn) (reply : Option ProxyInfo) :
    (connectProxy fd addr reply).Ensures false b fun _ b' => Same b b' := by
  unfold connectProxy proxyOf
  simp only [ensures_bind, ensures_read]
  cases known : b.manager.sockets.lookup fd with
  | none => simpa using Same.refl b
  | some s =>
      simp only [ensures_bind, ensures_onManager]
      refine (connect_options addr reply known).mono ?_
      intro result m first
      cases result with
      | error errno => simpa using Same.on_manager first
      | ok _ =>
          simp only [ensures_bind, ensures_markProxy, ensures_pure]
          exact (Same.on_manager first).trans (Same.marked { b with manager := m } fd)

theorem autoBind_same (b : Bsd) (fd : Int) (port : UInt16) :
    (autoBind fd port).Ensures false b fun _ b' => Same b b' := by
  unfold autoBind proxyOf getLocalIp
  simp only [ensures_bind, ensures_onManager, ensures_withLock, ensures_read]
  cases known : b.manager.sockets.lookup fd with
  | none => simpa using Same.refl b
  | some s =>
      simp only [ensures_onManager]
      exact (bind_options _ known).mono fun _ _ same => Same.on_manager same

theorem sendVia_same (b : Bsd) (fd : Int) (addr : Option SockAddrIn) (bytes : List UInt8) :
    (BsdMitmService.sendVia fd addr bytes).Ensures false b fun _ b' => Same b b' := by
  unfold BsdMitmService.sendVia getProxySocket
  simp only [ensures_bind, ensures_onManager, ensures_withLock, ensures_read]
  split
  · simp only [ensures_bind, ensures_onManager]
    refine (sendTo_options _ bytes _).mono ?_
    intro result m same
    cases result <;> simpa using Same.on_manager same
  · simpa using Same.refl b

def afterCreate (m : Manager) (fd : Int) : Int → Option Options :=
  if fd ∈ m.sockets ∨ isFull m = true then options m
  else Function.update (options m) fd (some .fresh)

theorem createProxySocket_options (m : Manager) (fd : Int) (type : SocketType)
    (protocol : BsdTypes.ProtocolType) :
    (createProxySocket fd type protocol).Ensures false m fun _ m' =>
      options m' = afterCreate m fd := by
  unfold afterCreate
  refine createProxySocket_ensures.mono ?_
  rintro created m' (⟨s, known, -, rfl⟩ | ⟨-, full, -, rfl⟩ | ⟨absent, room, -, rfl⟩)
  · rw [if_pos (Or.inl (by rw [← AList.lookup_isSome, known]; rfl))]
  · rw [if_pos (Or.inr full)]
  · rw [if_neg (by simp [← AList.lookup_isSome, absent, room]), options_setSocket]
    rfl

/-- The options once the saved one is applied in `Bind`. -/
def afterBind (m : Manager) (fd : Int) (info : SocketInfo) : Int → Option Options :=
  match options m fd with
  | some o => Function.update (options m) fd
      (some { o with broadcast := o.broadcast || info.broadcast })
  | none =>
      if isFull m then options m
      else Function.update (options m) fd (some ⟨false, info.broadcast⟩)

theorem options_broadcasted {b : Bsd} {fd : Int} {s : Socket} (info : SocketInfo)
    (known : b.manager.sockets.lookup fd = some s) :
    options (BsdBindSteps.broadcasted b fd s info).manager =
      Function.update (options b.manager) fd
        (some ⟨s.nonBlocking, s.broadcast || info.broadcast⟩) := by
  unfold BsdBindSteps.broadcasted
  cases saved : info.broadcast with
  | true =>
      rw [if_pos rfl]
      dsimp only
      rw [options_setSocket]
      simp [socketOptions]
  | false =>
      rw [if_neg Bool.false_ne_true, Bool.or_false]
      exact (Function.update_eq_self_iff.mpr (options_known known).symm).symm

theorem bindProxy_options {b : Bsd} {fd : Int} {s : Socket} {info : SocketInfo} (addr : SockAddrIn)
    (now : Nat) (known : b.manager.sockets.lookup fd = some s) :
    (bindProxy fd info addr now).Ensures false b fun _ b' =>
      Same (BsdBindSteps.broadcasted b fd s info) b' := by
  unfold bindProxy
  intro a b' done
  rw [bind_apply, BsdBindSteps.applyBroadcast_apply info known, Option.bind_some] at done
  revert a b'
  change Ensures _ false _ _
  unfold getLocalIp allocatePort reservePort
  simp only [ensures_bind, ensures_onManager, ensures_withLock, ensures_read]
  have pool : ∀ p, Same (BsdBindSteps.broadcasted b fd s info)
      (BsdBindSteps.withPool (BsdBindSteps.broadcasted b fd s info) p) :=
    fun p => Same.on_manager (options_congr rfl)
  split
  · simp only [ensures_bind, ensures_onManager, ensures_read, ensures_update, ensures_pure, id]
    split
    · exact ensures_pure.mpr (pool _)
    · exact (finishBind_same _ fd info _ now).mono fun _ _ same => (pool _).trans same
  · simp only [ensures_bind, ensures_onManager, ensures_read, ensures_update, ensures_pure, id]
    split
    · exact (finishBind_same _ fd info _ now).mono fun _ _ same => (pool _).trans same
    · exact ensures_pure.mpr (pool _)

theorem bind_tracked_options {b : Bsd} {fd : Int} {info : SocketInfo} {addr : SockAddrIn}
    (now : Nat) (proxied : isProxied addr = true) (entry : b.socketInfo.lookup fd = some info) :
    (BsdMitmService.bind fd (some addr) now).Ensures false b fun _ b' =>
      (∀ j, j ∈ b'.socketInfo ↔ j ∈ b.socketInfo) ∧
        options b'.manager = afterBind b.manager fd info := by
  intro a b' done
  rw [BsdBindSteps.bind_tracked now proxied entry] at done
  cases known : b.manager.sockets.lookup fd with
  | some s =>
      rw [known] at done
      have same := bindProxy_options addr now known a b' done
      refine ⟨fun j => (same.entries j).trans (by rw [BsdBindSteps.broadcasted_socketInfo]), ?_⟩
      rw [same.options, options_broadcasted info known, afterBind, options_known known]
      rfl
  | none =>
      have absent : options b.manager fd = none := by rw [options, known]; rfl
      rw [known] at done
      dsimp only at done
      rw [afterBind, absent]
      dsimp only
      split at done
      · rename_i full
        cases done
        rw [if_pos full]
        exact ⟨fun _ => Iff.rfl, rfl⟩
      · rename_i room
        have made := Manager.lookup_setSocket b.manager fd (Socket.new info.type info.protocol)
        have same := bindProxy_options
          (b := { b with manager := b.manager.setSocket fd (Socket.new info.type info.protocol) })
          addr now made a b' done
        refine ⟨fun j => (same.entries j).trans (by rw [BsdBindSteps.broadcasted_socketInfo]), ?_⟩
        rw [same.options, options_broadcasted info made, if_neg room]
        dsimp only
        rw [options_setSocket, Function.update_idem]
        rfl

/-- `Connect`, `SendTo`: the proxy made on the way is all that changes. -/
structure Creates (b b' : Bsd) (fd : Int) : Prop where
  entries : ∀ j, j ∈ b'.socketInfo ↔ j ∈ b.socketInfo
  options : options b'.manager = afterCreate b.manager fd

theorem Creates.then_same {b b' b'' : Bsd} {fd : Int} (first : Creates b b' fd)
    (second : Same b' b'') : Creates b b'' fd :=
  ⟨fun j => (second.entries j).trans (first.entries j), second.options.trans first.options⟩

theorem Creates.of_same {b b' : Bsd} {fd : Int} (same : Same b b')
    (registered : fd ∈ b.manager.sockets) : Creates b b' fd :=
  ⟨same.entries, by rw [same.options, afterCreate, if_pos (Or.inl registered)]⟩

theorem Creates.of_create {b : Bsd} {m : Manager} {fd : Int}
    (made : BsdSocketOptions.options m = afterCreate b.manager fd) :
    Creates b { b with manager := m } fd := ⟨fun _ => Iff.rfl, made⟩

theorem mem_sockets {m : Manager} {fd : Int} {s : Socket} (known : m.sockets.lookup fd = some s) :
    fd ∈ m.sockets := by
  rw [← AList.lookup_isSome, known]
  rfl

theorem same_withPool (b : Bsd) (pool : EphemeralPortPool.Pool) :
    Same b { b with manager := { b.manager with portPool := pool } } :=
  Same.on_manager (options_congr rfl)

theorem connect_creates {b : Bsd} {fd : Int} {info : SocketInfo} {addr : SockAddrIn}
    (reply : Option ProxyInfo) (toLdn : isLdnInet addr = true)
    (entry : b.socketInfo.lookup fd = some info) :
    (BsdMitmService.connect fd (some addr) reply).Ensures false b fun _ b' => Creates b b' fd := by
  unfold BsdMitmService.connect getProxySocket
  simp only [toLdn, if_true, ensures_bind, ensures_read, entry, ensures_onManager,
    ensures_withLock]
  cases known : b.manager.sockets.lookup fd with
  | some s =>
      exact (connectProxy_same b fd addr reply).mono
        fun _ _ same => Creates.of_same same (mem_sockets known)
  | none =>
      simp only [ensures_bind, ensures_onManager]
      refine (createProxySocket_options b.manager fd info.type info.protocol).mono ?_
      intro created m made
      have first := Creates.of_create made
      cases created with
      | false => simpa using first
      | true =>
          unfold allocatePort releasePort
          simp only [if_true, ensures_bind, ensures_onManager, ensures_read, ensures_update,
            ensures_pure, id]
          have second := first.then_same (same_withPool _ (m.portPool.allocatePort info.protocol).2)
          split
          · exact ensures_pure.mpr second
          · rw [ensures_bind]
            refine (autoBind_same _ fd _).mono ?_
            intro bound b₂ third
            cases bound with
            | error errno =>
                simp only [ensures_bind, ensures_onManager, ensures_update, ensures_pure]
                exact (second.then_same third).then_same (same_withPool b₂ _)
            | ok _ =>
                exact (connectProxy_same b₂ fd addr reply).mono
                  fun _ _ last => (second.then_same third).then_same last

theorem sendToProxy_creates (b : Bsd) (fd : Int) (info : SocketInfo) :
    (sendToProxy fd info).Ensures false b fun _ b' => Creates b b' fd := by
  unfold sendToProxy getProxySocket
  simp only [ensures_bind, ensures_onManager, ensures_withLock, ensures_read]
  cases known : b.manager.sockets.lookup fd with
  | some s =>
      simp only [ensures_bind, ensures_markProxy, ensures_pure]
      exact Creates.of_same (Same.marked b fd) (mem_sockets known)
  | none =>
      simp only [ensures_bind, ensures_onManager]
      refine (createProxySocket_options b.manager fd info.type info.protocol).mono ?_
      intro created m made
      have first := Creates.of_create made
      cases created with
      | false =>
          simp only [Bool.false_eq_true, if_false, ensures_bind, ensures_markProxy, ensures_pure]
          exact first.then_same (Same.marked _ fd)
      | true =>
          unfold allocatePort
          simp only [if_true, ensures_bind, ensures_onManager, ensures_read, ensures_update,
            ensures_pure, id]
          have second := first.then_same (same_withPool _ (m.portPool.allocatePort info.protocol).2)
          split
          · rw [ensures_bind]
            refine (autoBind_same _ fd _).mono ?_
            intro bound b₂ third
            cases bound with
            | error errno => exact ensures_pure.mpr (second.then_same third)
            | ok _ =>
                simp only [ensures_bind, ensures_markProxy, ensures_pure]
                exact (second.then_same third).then_same (Same.marked b₂ fd)
          · simp only [ensures_bind, ensures_markProxy, ensures_pure]
            exact second.then_same (Same.marked _ fd)

theorem sendTo_creates {b : Bsd} {fd : Int} {addr : SockAddrIn} {info : SocketInfo}
    (bytes : List UInt8) (toLdn : isLdnInet addr = true)
    (entry : b.socketInfo.lookup fd = some info) (bare : info.isProxy = false) :
    (BsdMitmService.sendTo fd (some addr) bytes).Ensures false b fun _ b' => Creates b b' fd := by
  unfold BsdMitmService.sendTo
  simp only [ensures_bind, ensures_read, entry, Option.any_some, toLdn, bare, Bool.not_false,
    and_self, if_true, or_true]
  refine (sendToProxy_creates b fd info).mono ?_
  intro prepared b₁ first
  cases prepared with
  | error errno => exact ensures_pure.mpr first
  | ok _ => exact (sendVia_same b₁ fd (some addr) bytes).mono fun _ _ last => first.then_same last

theorem sendTo_same {b : Bsd} {fd : Int} {addr : Option SockAddrIn} (bytes : List UInt8)
    (ready : ∀ info, b.socketInfo.lookup fd = some info →
      addr.any isLdnInet = true → info.isProxy = true) :
    (BsdMitmService.sendTo fd addr bytes).Ensures false b fun _ b' => Same b b' := by
  have sent : (if (b.socketInfo.lookup fd).any (·.isProxy) = true ∨ addr.any isLdnInet = true then
      BsdMitmService.sendVia fd addr bytes else pure .forwarded).Ensures false b
        fun _ b' => Same b b' := by
    split
    · exact sendVia_same b fd addr bytes
    · exact ensures_pure.mpr (Same.refl b)
  unfold BsdMitmService.sendTo
  simp only [ensures_bind, ensures_read]
  cases entry : b.socketInfo.lookup fd with
  | none =>
      rw [entry] at sent
      simpa only [ensures_bind, ensures_pure] using sent
  | some info =>
      have done : ¬ (addr.any isLdnInet = true ∧ (!info.isProxy) = true) := by
        rintro ⟨toLdn, bare⟩
        rw [ready info entry toLdn] at bare
        cases bare
      rw [entry] at sent
      dsimp only
      rw [if_neg done]
      simpa only [ensures_bind, ensures_pure] using sent

theorem Agree.narrow {t : Tracked} (agree : Agree t) {b : Bsd}
    (entries : ∀ fd, fd ∈ b.socketInfo → fd ∈ t.bsd.socketInfo)
    (left : ∀ fd o, options b.manager fd = some o → options t.bsd.manager fd = some o) :
    Agree ⟨b, t.asked⟩ :=
  fun fd o open_ known => agree fd o (entries fd open_) (left fd o known)

theorem Agree.same {t : Tracked} (agree : Agree t) {b : Bsd} (same : Same t.bsd b) :
    Agree ⟨b, t.asked⟩ :=
  agree.narrow (fun fd => (same.entries fd).mp) fun fd o known => by rwa [same.options] at known

theorem Agree.update_iff {t : Tracked} (agree : Agree t) {b : Bsd} {fd : Int} {o : Options}
    (entries : ∀ j, j ∈ b.socketInfo ↔ j ∈ t.bsd.socketInfo) (here : fd ∈ t.bsd.socketInfo)
    (changed : options b.manager = Function.update (options t.bsd.manager) fd (some o)) :
    Agree ⟨b, t.asked⟩ ↔ o = t.asked fd := by
  constructor
  · intro after
    refine after fd o ((entries fd).mpr here) ?_
    rw [changed, Function.update_self]
  · intro right j p open_ known
    rw [changed] at known
    by_cases own : j = fd
    · rw [own, Function.update_self, Option.some.injEq] at known
      rw [← known, own, right]
    · rw [Function.update_of_ne own] at known
      exact agree j p ((entries j).mp open_) known

theorem Agree.creates_iff {t : Tracked} (agree : Agree t) {b : Bsd} {fd : Int}
    (here : fd ∈ t.bsd.socketInfo) (creates : Creates t.bsd b fd) :
    Agree ⟨b, t.asked⟩ ↔ startsFresh t fd = true := by
  have changed := creates.options
  unfold afterCreate at changed
  by_cases already : fd ∈ t.bsd.manager.sockets ∨ isFull t.bsd.manager = true
  · rw [if_pos already] at changed
    have after := agree.same ⟨creates.entries, changed⟩
    simp only [startsFresh, Bool.or_eq_true, decide_eq_true_eq]
    exact ⟨fun _ => Or.inl already, fun _ => after⟩
  · rw [if_neg already] at changed
    rw [agree.update_iff creates.entries here changed]
    simp only [startsFresh, Bool.or_eq_true, decide_eq_true_eq]
    exact ⟨fun fresh => Or.inr fresh.symm, fun all => (all.resolve_left already).symm⟩

theorem Agree.bind_iff {t : Tracked} (agree : Agree t) {b : Bsd} {fd : Int} {info : SocketInfo}
    (here : fd ∈ t.bsd.socketInfo) (entries : ∀ j, j ∈ b.socketInfo ↔ j ∈ t.bsd.socketInfo)
    (bound : options b.manager = afterBind t.bsd.manager fd info) :
    Agree ⟨b, t.asked⟩ ↔ bindKeeps t fd info = true := by
  unfold afterBind at bound
  unfold bindKeeps
  cases known : options t.bsd.manager fd with
  | some o =>
      rw [known] at bound
      rw [agree.update_iff entries here bound, ← agree fd o here known]
      cases info.broadcast <;> cases has : o.broadcast <;> simp [Options.ext_iff, has]
  | none =>
      rw [known] at bound
      dsimp only at bound ⊢
      by_cases full : isFull t.bsd.manager = true
      · rw [if_pos full] at bound
        simp [full, agree.same ⟨entries, bound⟩]
      · rw [if_neg full] at bound
        rw [agree.update_iff entries here bound]
        simp [full, eq_comm]

theorem Agree.socket_iff {t : Tracked} (agree : Agree t) {fd : Int} (info : SocketInfo) :
    Agree ⟨{ t.bsd with socketInfo := t.bsd.socketInfo.insert fd info },
        Function.update t.asked fd .fresh⟩ ↔
      (options t.bsd.manager fd).all (· = .fresh) = true := by
  constructor
  · intro after
    cases known : options t.bsd.manager fd with
    | none => rfl
    | some o =>
        have right := after fd o (by simp) known
        simpa using right
  · intro fresh j o open_ known
    dsimp only at open_ known ⊢
    by_cases own : j = fd
    · subst own
      rw [known] at fresh
      simpa using fresh
    · rw [Function.update_of_ne own]
      exact agree j o (by simpa [own] using open_) known

theorem close_narrows (b : Bsd) (fd : Int) :
    (BsdMitmService.close fd).Ensures false b fun _ b' =>
      (∀ j, j ∈ b'.socketInfo → j ∈ b.socketInfo) ∧
        ∀ j o, options b'.manager j = some o → options b.manager j = some o := by
  unfold BsdMitmService.close
  simp only [ensures_bind, ensures_read]
  split
  · split
    · rw [ensures_bind, ensures_discard, ensures_onManager]
      refine (closeProxySocket_closed b.manager fd).mono ?_
      intro _ m closed
      rw [ensures_bind, ensures_update, ensures_pure]
      exact ⟨fun j => by simp, fun j o left => (options_closed closed left).2⟩
    · rw [ensures_bind, ensures_update, ensures_pure]
      exact ⟨fun j => by simp, fun _ _ left => left⟩
  · rw [ensures_pure]
    exact ⟨fun _ here => here, fun _ _ left => left⟩

theorem dropEntries_narrows (b : Bsd) (selected : SocketInfo → Bool) :
    (dropEntries selected).Ensures false b fun _ b' =>
      (∀ j, j ∈ b'.socketInfo → j ∈ b.socketInfo) ∧
        ∀ j o, options b'.manager j = some o → options b.manager j = some o := by
  unfold dropEntries
  simp only [ensures_bind, ensures_read, ensures_update, ensures_onManager]
  refine (closeFds_closed b.manager _).mono ?_
  intro _ m closed
  refine ⟨fun j => ?_, fun j o left => (options_closed closed left).2⟩
  rw [← AList.lookup_isSome, lookup_eraseAll, ← AList.lookup_isSome]
  split
  · simp
  · exact id

theorem reset_narrows (m : Manager) :
    ProxySocketManager.reset.Ensures false m fun _ m' => ∀ j, options m' j = none := by
  unfold ProxySocketManager.reset
  simp only [ensures_withLock, ensures_bind, ensures_read, ensures_update]
  intro _ m' _ j
  simp [options]

theorem mem_info {b : Bsd} {fd : Int} {info : SocketInfo}
    (entry : b.socketInfo.lookup fd = some info) : fd ∈ b.socketInfo := by
  rw [← AList.lookup_isSome, entry]
  rfl

def Decides (t : Tracked) (a : BsdBookkeeping.Action) : Prop :=
  a.program.Ensures false t.bsd fun _ b' =>
    (Agree ⟨b', askCommand t.asked a⟩ ↔ Keeps t (.command a) = true)

section Commands

variable {t : Tracked} (agree : Agree t)
include agree

theorem socket_decides (sessionId : Nat) (type protocol : Int) (real : RealSocket) :
    Decides t (.socket sessionId type protocol real) := by
  refine ensures_discard.mpr ?_
  unfold BsdMitmService.socket
  simp only [askCommand, Keeps, Bool.or_eq_true, Bool.not_eq_true']
  split
  · rename_i all
    have new : made real = true := by simp [made, all]
    simp only [ensures_bind, ensures_update, ensures_pure, new, if_true]
    rw [agree.socket_iff]
    simp
  · rename_i refused
    have none : made real = false := by
      by_contra all
      simp only [made, Bool.not_eq_false, Bool.and_eq_true, decide_eq_true_eq, and_assoc] at all
      exact refused all
    rw [ensures_pure]
    exact iff_of_true (by rw [none]; exact agree) (Or.inl none)

theorem bind_decides (fd : Int) (addr : Option SockAddrIn) (now : Nat) :
    Decides t (.bind fd addr now) := by
  refine ensures_discard.mpr ?_
  cases addr with
  | none => exact ensures_pure.mpr (iff_of_true agree rfl)
  | some addr =>
      by_cases proxied : isProxied addr = true
      · cases entry : t.bsd.socketInfo.lookup fd with
        | none =>
            unfold BsdMitmService.bind
            simp only [proxied, if_true, ensures_bind, ensures_read, entry, ensures_pure]
            exact iff_of_true agree (by simp [Keeps, entry])
        | some info =>
            refine (bind_tracked_options now proxied entry).mono ?_
            rintro _ b' ⟨entries, bound⟩
            rw [show askCommand t.asked (.bind fd (some addr) now) = t.asked from rfl,
              agree.bind_iff (mem_info entry) entries bound]
            simp [Keeps, proxied, entry]
      · unfold BsdMitmService.bind
        dsimp only
        rw [if_neg proxied, ensures_pure]
        exact iff_of_true agree (by simp [Keeps, proxied])

theorem connect_decides (fd : Int) (addr : Option SockAddrIn) (reply : Option ProxyInfo) :
    Decides t (.connect fd addr reply) := by
  refine ensures_discard.mpr ?_
  cases addr with
  | none => exact ensures_pure.mpr (iff_of_true agree rfl)
  | some addr =>
      by_cases toLdn : isLdnInet addr = true
      · cases entry : t.bsd.socketInfo.lookup fd with
        | none =>
            unfold BsdMitmService.connect
            simp only [toLdn, if_true, ensures_bind, ensures_read, entry, ensures_pure]
            exact iff_of_true agree (by simp [Keeps, entry])
        | some info =>
            refine (connect_creates reply toLdn entry).mono ?_
            intro _ b' creates
            rw [show askCommand t.asked (.connect fd (some addr) reply) = t.asked from rfl,
              agree.creates_iff (mem_info entry) creates]
            simp [Keeps, toLdn, entry]
      · unfold BsdMitmService.connect
        dsimp only
        rw [if_neg toLdn, ensures_pure]
        exact iff_of_true agree (by simp [Keeps, toLdn])

theorem sendTo_decides (fd : Int) (addr : Option SockAddrIn) (bytes : List UInt8) :
    Decides t (.sendTo fd addr bytes) := by
  refine ensures_discard.mpr ?_
  by_cases needs : ∃ a info, addr = some a ∧ isLdnInet a = true ∧
      t.bsd.socketInfo.lookup fd = some info ∧ info.isProxy = false
  · obtain ⟨a, info, rfl, toLdn, entry, bare⟩ := needs
    refine (sendTo_creates bytes toLdn entry bare).mono ?_
    intro _ b' creates
    rw [show askCommand t.asked (.sendTo fd (some a) bytes) = t.asked from rfl,
      agree.creates_iff (mem_info entry) creates]
    simp [Keeps, toLdn, entry, bare]
  · have ready : ∀ info, t.bsd.socketInfo.lookup fd = some info →
        addr.any isLdnInet = true → info.isProxy = true := by
      intro info entry toLdn
      cases addr with
      | none => cases toLdn
      | some a =>
          by_contra bare
          exact needs ⟨a, info, rfl, toLdn, entry, by simpa using bare⟩
    refine (sendTo_same bytes ready).mono ?_
    intro _ b' same
    refine iff_of_true (agree.same same) ?_
    cases addr with
    | none => rfl
    | some a =>
        cases inet : isLdnInet a with
        | false => simp [Keeps, inet]
        | true =>
            cases entry : t.bsd.socketInfo.lookup fd with
            | none => simp [Keeps, entry]
            | some info => simp [Keeps, entry, ready info entry (by simpa using inet)]

theorem decides_of_narrows {a : BsdBookkeeping.Action} (asks : ∀ asked, askCommand asked a = asked)
    (keeps : Keeps t (.command a) = true)
    (less : a.program.Ensures false t.bsd fun _ b =>
      (∀ j, j ∈ b.socketInfo → j ∈ t.bsd.socketInfo) ∧
        ∀ j o, options b.manager j = some o → options t.bsd.manager j = some o) :
    Decides t a := by
  refine less.mono ?_
  rintro _ b ⟨entries, proxies⟩
  rw [asks]
  exact iff_of_true (agree.narrow entries proxies) keeps

theorem agree_command {a : BsdBookkeeping.Action} {b : Bsd}
    (taken : BsdBookkeeping.step t.bsd a = some b) :
    Agree ⟨b, askCommand t.asked a⟩ ↔ Keeps t (.command a) = true := by
  have decides : Decides t a := by
    cases a with
    | socket sessionId type protocol real => exact socket_decides agree sessionId type protocol real
    | bind fd addr now => exact bind_decides agree fd addr now
    | connect fd addr reply => exact connect_decides agree fd addr reply
    | sendTo fd addr bytes => exact sendTo_decides agree fd addr bytes
    | close fd =>
        exact decides_of_narrows agree (fun _ => rfl) rfl
          (ensures_discard.mpr (close_narrows t.bsd fd))
    | destroySession sessionId =>
        exact decides_of_narrows agree (fun _ => rfl) rfl
          (dropEntries_narrows t.bsd (·.sessionId = sessionId))
    | resetProcessMitmState =>
        exact decides_of_narrows agree (fun _ => rfl) rfl
          (dropEntries_narrows t.bsd fun _ => true)
    | managerReset =>
        apply decides_of_narrows agree (fun _ => rfl) rfl
        simp only [Action.program, ensures_onManager]
        refine (reset_narrows t.bsd.manager).mono fun _ m none => ?_
        exact ⟨fun _ here => here, fun j o left => by simp [none j] at left⟩
    | configure localIp sendCallback onConnect onConnectReply onDisconnect =>
        apply decides_of_narrows agree (fun _ => rfl) rfl
        simp only [Action.program, ensures_onManager, ensures_update]
        exact ⟨fun _ here => here, fun _ _ left => left⟩
  obtain ⟨r, done, rfl⟩ := Option.map_eq_some_iff.mp taken
  exact decides r.1 r.2 done

end Commands

inductive Obeys (b b' : Bsd) (fd : Int) (change : Options → Options) (reply : Reply) : Prop
  | forwarded (none : options b.manager fd = none) (same : Same b b')
  | set (v : Int) (answered : reply = .value v) (entries : ∀ j, j ∈ b'.socketInfo ↔ j ∈ b.socketInfo)
      (o : Options) (known : options b.manager fd = some o)
      (changed : options b'.manager = Function.update (options b.manager) fd (some (change o)))
  | refused (errno : Int) (answered : reply = .failed errno) (same : Same b b')

theorem fcntl_obeys (b : Bsd) (fd cmd : Int) (arg : UInt32) :
    (fcntl fd cmd arg).Ensures false b fun reply b' =>
      Obeys b b' fd (askedFlags cmd arg) reply := by
  unfold fcntl getProxySocket
  simp only [ensures_bind, ensures_onManager, ensures_withLock, ensures_read]
  cases known : b.manager.sockets.lookup fd with
  | none => exact ensures_pure.mpr (.forwarded (by rw [options, known]; rfl) (.refl b))
  | some s =>
      have has := options_known known
      dsimp only
      split
      · rename_i get
        have keeps : askedFlags cmd arg (socketOptions s) = socketOptions s :=
          if_neg (by rw [get]; decide)
        refine ensures_pure.mpr (.set _ rfl (fun _ => Iff.rfl) _ has ?_)
        rw [keeps, ← has, Function.update_eq_self]
      · split
        · rename_i set
          simp only [ensures_bind, ensures_onManager, ensures_update, ensures_pure]
          refine .set 0 rfl (fun _ => Iff.rfl) _ has ?_
          rw [options_setSocket, askedFlags, if_pos set]
          rfl
        · exact ensures_pure.mpr (.refused _ rfl (.refl b))

theorem saveOption_same (b : Bsd) (fd level optname : Int) (optval : List UInt8) :
    Same b (saveOption b fd level optname optval) := by
  unfold saveOption
  split
  · split
    · rename_i info entry
      refine ⟨fun j => ?_, rfl⟩
      dsimp only
      rw [AList.mem_insert, or_iff_right_of_imp]
      rintro rfl
      exact mem_info entry
    · exact .refl b
  · exact .refl b

theorem setSockOpt_obeys (b : Bsd) (fd level optname : Int) (optval : List UInt8) :
    (setSockOpt fd level optname optval).Ensures false b fun reply b' =>
      Obeys b b' fd (askedOption level optname optval) reply := by
  unfold setSockOpt getProxySocket
  simp only [ensures_bind, ensures_onManager, ensures_withLock, ensures_read]
  cases known : b.manager.sockets.lookup fd with
  | none =>
      simp only [ensures_bind, ensures_update, ensures_pure]
      exact .forwarded (by rw [options, known]; rfl) (saveOption_same b fd level optname optval)
  | some s =>
      have has := options_known known
      cases written : writeOption s level optname optval with
      | error errno => simpa [written] using .refused errno rfl (.refl b)
      | ok s' =>
          simp only [written, ensures_bind, ensures_onManager, ensures_update, ensures_pure]
          refine .set 0 rfl (fun _ => Iff.rfl) _ has ?_
          rw [options_setSocket]
          unfold writeOption at written
          unfold askedOption
          split at written
          · rename_i broadcast
            rw [if_pos broadcast]
            split at written
            · rw [← Except.ok.inj written]
              rfl
            · cases written
          · rename_i other
            rw [if_neg other, ← Except.ok.inj written]

theorem Agree.obeys {t : Tracked} (agree : Agree t) {b : Bsd} {fd : Int}
    {change : Options → Options} {reply : Reply} (obeys : Obeys t.bsd b fd change reply)
    (accepted : Bool) : Agree ⟨b, ask t.asked fd change (reply.succeeds accepted)⟩ := by
  cases obeys with
  | forwarded none same =>
      intro j o open_ left
      have apart : j ≠ fd := by
        rintro rfl
        rw [same.options, none] at left
        cases left
      have right := agree.same same j o open_ left
      dsimp only [ask]
      split
      · rwa [Function.update_of_ne apart]
      · exact right
  | set v answered entries o known changed =>
      subst answered
      intro j p open_ left
      rw [changed] at left
      change p = Function.update t.asked fd (change (t.asked fd)) j
      by_cases own : j = fd
      · subst own
        rw [Function.update_self, Option.some.injEq] at left
        rw [Function.update_self, ← left, agree j o ((entries j).mp open_) known]
      · rw [Function.update_of_ne own] at left ⊢
        exact agree j p ((entries j).mp open_) left
  | refused errno answered same =>
      subst answered
      exact agree.same same

theorem agree_step_iff {t t' : Tracked} {a : Action} (agree : Agree t) (taken : step t a = some t') :
    Agree t' ↔ Keeps t a = true := by
  cases a with
  | command a =>
      obtain ⟨b, done, rfl⟩ := Option.map_eq_some_iff.mp taken
      exact agree_command agree done
  | fcntl fd cmd arg accepted =>
      obtain ⟨⟨reply, b⟩, done, rfl⟩ := Option.map_eq_some_iff.mp taken
      exact iff_of_true (agree.obeys (fcntl_obeys t.bsd fd cmd arg reply b done) accepted) rfl
  | setSockOpt fd level optname optval accepted =>
      obtain ⟨⟨reply, b⟩, done, rfl⟩ := Option.map_eq_some_iff.mp taken
      have obeys := setSockOpt_obeys t.bsd fd level optname optval reply b done
      exact iff_of_true (agree.obeys obeys accepted) rfl
  | incomingData info protocol data now =>
      obtain ⟨⟨_, b⟩, done, rfl⟩ := Option.map_eq_some_iff.mp taken
      obtain ⟨⟨_, m⟩, routed, same⟩ := Option.map_eq_some_iff.mp done
      cases same
      have kept := routeIncomingData_options _ _ _ _ _ _ _ _ m routed
      exact iff_of_true (agree.same (Same.on_manager kept)) rfl
  | connectRequest request =>
      obtain ⟨⟨_, b⟩, done, rfl⟩ := Option.map_eq_some_iff.mp taken
      obtain ⟨⟨_, m⟩, routed, same⟩ := Option.map_eq_some_iff.mp done
      cases same
      have kept := routeConnectRequest_options request _ m routed
      exact iff_of_true (agree.same (Same.on_manager kept)) rfl
  | connectResponse response =>
      obtain ⟨⟨_, b⟩, done, rfl⟩ := Option.map_eq_some_iff.mp taken
      obtain ⟨⟨_, m⟩, routed, same⟩ := Option.map_eq_some_iff.mp done
      cases same
      have kept := routeConnectResponse_options response _ m routed
      exact iff_of_true (agree.same (Same.on_manager kept)) rfl

theorem answer_getFl {b : Bsd} {fd : Int} {s : Socket} (known : b.manager.sockets.lookup fd = some s) :
    answer (fcntl fd fGetFl 0) b = some (.value (if s.nonBlocking then oNonBlock.toNat else 0)) := by
  simp [answer, fcntl, getProxySocket, onManager, known]

theorem answer_broadcast {b : Bsd} {fd : Int} {s : Socket}
    (known : b.manager.sockets.lookup fd = some s) {size : Nat} (room : size ≥ 4) :
    answer (getSockOpt fd solSocket soBroadcast (some size)) b =
      some (.value (if s.broadcast then 1 else 0)) := by
  simp [answer, getSockOpt, getProxySocket, onManager, known, readOption, room, soBroadcast,
    soType, soError]

theorem readsBack_iff_agree (t : Tracked) : ReadsBack t ↔ Agree t := by
  constructor
  · intro reads fd o here known
    obtain ⟨s, registered, rfl⟩ := Option.map_eq_some_iff.mp known
    have flags := reads.flags fd here (mem_sockets registered)
    have broadcast := reads.broadcast fd here (mem_sockets registered) 4 le_rfl
    rw [answer_getFl registered, Option.some.injEq, Reply.value.injEq] at flags
    rw [answer_broadcast registered le_rfl, Option.some.injEq, Reply.value.injEq] at broadcast
    refine Options.ext ?_ ?_
    · change s.nonBlocking = (t.asked fd).nonBlocking
      revert flags
      cases s.nonBlocking <;> cases (t.asked fd).nonBlocking <;> simp [oNonBlock]
    · change s.broadcast = (t.asked fd).broadcast
      revert broadcast
      cases s.broadcast <;> cases (t.asked fd).broadcast <;> simp
  · intro agree
    refine ⟨fun fd here registered => ?_, fun fd here registered size room => ?_⟩ <;>
      obtain ⟨s, known⟩ := Option.isSome_iff_exists.mp (AList.lookup_isSome.mpr registered) <;>
      rw [← agree fd _ here (options_known known)]
    · exact answer_getFl known
    · exact answer_broadcast known room

/-- Along a run, whatever packets arrive and sockets come and go, what the game reads back
is what it has set, in every state and on every proxied descriptor, exactly if no proxy
comes without the options asked for so far: `Connect` and `SendTo` make a socket without
any, `Bind` one with the saved `SO_BROADCAST` alone, a second `Bind` turns that on again,
and a new descriptor may meet a proxy left over from an old one. -/
theorem options_readBack_iff {t : Tracked} {actions : List Action}
    (steps : run step .init actions = some t) :
    (∀ front back m, actions = front ++ back → run step .init front = some m → ReadsBack m) ↔
      run (guarded Keeps step) .init actions = some t := by
  simp only [readsBack_iff_agree]
  let everything : Tracked → Prop := fun _ => True
  have inv : everything .init := trivial
  have start : Agree .init := by
    intro fd o here
    simp [Tracked.init, Bsd.init] at here
  exact run_guarded_iff (fun _ _ _ _ => trivial) (fun _ agree taken => agree_step_iff agree taken)
    inv start steps

def bindBetween : List Action :=
  [.command (.socket 1 2 0 ⟨true, 0, 3⟩), .setSockOpt 3 solSocket soBroadcast [1, 0, 0, 0] true,
    .command (.bind 3 (some (.ofHost 0x0A720001 50000)) 0), .fcntl 3 fSetFl 4 true]

theorem bindBetween_runs : (run step .init bindBetween).isSome = true := by decide +kernel

theorem options_readBack_iff_bindBetween :
    let t := (run step .init bindBetween).get bindBetween_runs
    (∀ front back m, bindBetween = front ++ back → run step .init front = some m → ReadsBack m) ↔
      run (guarded Keeps step) .init bindBetween = some t :=
  options_readBack_iff (Option.some_get _).symm

/-- `O_NONBLOCK` asked for before the `Bind` is lost. -/
example : (run (guarded Keeps step) .init [.command (.socket 1 2 0 ⟨true, 0, 3⟩),
    .fcntl 3 fSetFl 4 true, .command (.bind 3 (some (.ofHost 0x0A720001 50000)) 0)]).isNone := by
  decide +kernel

end RyuLdn.BsdSocketOptions
