import RyuLdn.BsdCommands

/-! Who answers the commands on a descriptor, the MITM or the real service behind it.
The commands ask in three ways: for the mark, for the proxy, or for the mark and then
the proxy. They agree on a descriptor as long as mark and proxy come and go together. -/
namespace RyuLdn.BsdRouting

open BsdTypes ProtocolTypes ProxySocket ProxySocketManager BsdMitmService BsdBindSteps
open BsdBookkeeping hiding Action step
open BsdSocketOptions hiding Reply Action step Keeps
open BsdCommands LockedProgram Program TransitionSystem

@[ext] structure Books where
  proxied : Int → Bool
  mark : Int → Option Bool

def books (b : Bsd) : Books where
  proxied fd := (b.manager.sockets.lookup fd).isSome
  mark fd := (b.socketInfo.lookup fd).map (·.isProxy)

namespace Books

def Agree (k : Books) : Prop := ∀ fd, k.proxied fd = true ↔ k.mark fd = some true

def addProxy (k : Books) (fd : Int) : Books := { k with proxied := Function.update k.proxied fd true }

def setMark (k : Books) (fd : Int) : Books :=
  { k with mark := Function.update k.mark fd ((k.mark fd).map fun _ => true) }

theorem setMark_of_marked {k : Books} {fd : Int} (already : k.mark fd = some true) :
    k.setMark fd = k := by
  rw [setMark, already, Option.map_some, Function.update_eq_self_iff.mpr already.symm]

end Books

/-- The commands that go by the books; a `SendTo` to an LDN address makes a proxy first. -/
def consults : Command → Bool
  | .forwardedOnly => false
  | .sendTo addr _ => !addr.any isLdnInet
  | _ => true

def Forwards (b : Bsd) (fd : Int) (c : Command) : Prop :=
  ∃ b', c.program fd false b = some (.forwarded, b')

/-- The commands on a descriptor are all answered by the MITM, or all by the real service. -/
def OneSided (b : Bsd) : Prop :=
  ∀ fd c c', consults c = true → consults c' = true → (Forwards b fd c ↔ Forwards b fd c')

def Answers (body : Socket → Program Manager Reply) : Prop :=
  ∀ s m, ∃ reply m', body s false m = some (reply, m') ∧ reply ≠ .forwarded

theorem answers_pure {f : Socket → Reply} (own : ∀ s, f s ≠ .forwarded) : Answers fun s => pure (f s) :=
  fun s m => ⟨f s, m, rfl, own s⟩

theorem ofReceived_ne_forwarded (addrSize : Nat) (r : Socket.Received) :
    Reply.ofReceived addrSize r ≠ .forwarded := by
  cases r <;> simp [Reply.ofReceived]

theorem answers_receive (fd : Int) (addrSize : Nat) (call : Socket → Socket.Received × Socket) :
    Answers (receive fd addrSize call) :=
  fun _ _ => ⟨_, _, rfl, ofReceived_ne_forwarded addrSize _⟩

theorem sendTo_returns (s : Socket) (bytes : List UInt8) (dest : SockAddrIn) (m : Manager) :
    ∃ result m', ProxySocketManager.sendTo s bytes dest false m = some (result, m') := by
  unfold ProxySocketManager.sendTo sendProxyData ProxySocketManager.sendVia
  cases s.sendToCheck true bytes.length with
  | some errno => exact ⟨_, _, rfl⟩
  | none => cases called : m.sendCallback <;> simp [bind_apply, called]

theorem answers_sendConnected (bytes : List UInt8) : Answers (sendConnected · bytes) := by
  intro s m
  dsimp only [sendConnected]
  by_cases connected : s.state ≠ .connected
  · exact ⟨.failed .notConn, m, by rw [if_pos connected]; rfl, by simp⟩
  · obtain ⟨result, m', sent⟩ := sendTo_returns s bytes s.remoteAddr m
    refine ⟨.ofSent result, m', ?_, by cases result <;> simp [Reply.ofSent]⟩
    rw [if_neg connected, bind_apply, sent]
    rfl

theorem onProxy_forwards {body : Socket → Program Manager Reply} (answers : Answers body) (b : Bsd)
    (fd : Int) :
    (∃ b', onProxy fd body false b = some (.forwarded, b')) ↔ (books b).proxied fd = false := by
  unfold onProxy getProxySocket
  cases known : b.manager.sockets.lookup fd with
  | none => simp [bind_apply, known, books]
  | some s =>
      obtain ⟨reply, m', done, own⟩ := answers s b.manager
      simp [bind_apply, known, books, done, own]

theorem onMarked_forwards {body : Socket → Program Manager Reply} (answers : Answers body) (b : Bsd)
    (fd : Int) :
    (∃ b', onMarked fd body false b = some (.forwarded, b')) ↔
      ¬ ((books b).mark fd = some true ∧ (books b).proxied fd = true) := by
  have proxy := onProxy_forwards answers b fd
  unfold onProxy at proxy
  unfold onMarked
  by_cases marked : (b.socketInfo.lookup fd).any (·.isProxy) = true
  · have mark : (books b).mark fd = some true := by
      simpa [books, Option.any_eq_true] using marked
    simp only [bind_apply, read_apply, Option.bind_some, marked, if_true] at proxy ⊢
    rw [proxy]
    simp [mark]
  · have mark : (books b).mark fd ≠ some true := by
      simpa [books, Option.any_eq_true] using marked
    simp [bind_apply, marked, mark]

def asksMark : Command → Bool
  | .send _ | .write _ | .recv .. | .read _ | .recvFrom .. => true
  | _ => false

theorem ofAnswer_eq_forwarded (answer : Answer) :
    Reply.ofAnswer answer = .forwarded ↔ answer = .forwarded := by
  rcases answer with (_ | _) | _ <;> simp [Reply.ofAnswer]

theorem ofOption_eq_forwarded (reply : BsdSocketOptions.Reply) :
    Reply.ofOption reply = .forwarded ↔ reply = .forwarded := by
  cases reply <;> simp [Reply.ofOption]

theorem readOption_ne_forwarded (s : Socket) (level optname : Int) (size : Option Nat) :
    readOption s level optname size ≠ .forwarded := by
  unfold readOption
  cases size with
  | none => simp
  | some size =>
      dsimp only
      repeat' split
      all_goals simp

theorem marked_forwards {c : Command} (asks : asksMark c = true) (b : Bsd) (fd : Int) :
    Forwards b fd c ↔ ¬ ((books b).mark fd = some true ∧ (books b).proxied fd = true) := by
  cases c with
  | send bytes => exact onMarked_forwards (answers_sendConnected bytes) b fd
  | write bytes => exact onMarked_forwards (answers_sendConnected bytes) b fd
  | recv len flags => exact onMarked_forwards (answers_receive fd 0 _) b fd
  | read len => exact onMarked_forwards (answers_receive fd 0 _) b fd
  | recvFrom len flags addrSize => exact onMarked_forwards (answers_receive fd addrSize _) b fd
  | _ => cases asks

theorem sendTo_forwards {addr : Option SockAddrIn} (other : addr.any isLdnInet = false)
    (bytes : List UInt8) (b : Bsd) (fd : Int) :
    Forwards b fd (.sendTo addr bytes) ↔ (books b).mark fd ≠ some true := by
  have via : ∀ b₁, ∃ answer b₂, BsdMitmService.sendVia fd addr bytes false b₁ = some (answer, b₂) ∧
      answer ≠ .forwarded := by
    intro b₁
    unfold BsdMitmService.sendVia getProxySocket
    cases known : b₁.manager.sockets.lookup fd with
    | none => simp [bind_apply, known]
    | some s =>
        cases addr with
        | none => simp [bind_apply, known]
        | some dest =>
            obtain ⟨result, m', sent⟩ := sendTo_returns s bytes dest b₁.manager
            cases result <;> simp [bind_apply, known, sent]
  obtain ⟨answer, b₂, sent, own⟩ := via b
  unfold Forwards Command.program BsdMitmService.sendTo
  cases entry : b.socketInfo.lookup fd with
  | none => simp [bind_apply, entry, other, books, Reply.ofAnswer]
  | some info =>
      cases mark : info.isProxy with
      | false => simp [bind_apply, entry, mark, other, books, Reply.ofAnswer]
      | true => simp [bind_apply, entry, mark, other, books, sent, ofAnswer_eq_forwarded, own]

theorem proxy_forwards {c : Command} (consult : consults c = true) (other : asksMark c = false)
    (noSend : ∀ addr bytes, c ≠ .sendTo addr bytes) (b : Bsd) (fd : Int) :
    Forwards b fd c ↔ (books b).proxied fd = false := by
  cases c with
  | send | write | recv | read | recvFrom => cases other
  | sendTo addr bytes => exact absurd rfl (noSend addr bytes)
  | forwardedOnly => cases consult
  | getPeerName addrSize =>
      refine onProxy_forwards (answers_pure fun s => ?_) b fd
      split <;> simp [nameReply]
  | getSockName addrSize => exact onProxy_forwards (answers_pure fun s => by simp [nameReply]) b fd
  | ioctl request size =>
      refine onProxy_forwards (answers_pure fun s => ?_) b fd
      split <;> simp
  | fcntl cmd arg =>
      unfold Forwards Command.program fcntl getProxySocket
      cases known : b.manager.sockets.lookup fd with
      | none => simp [bind_apply, known, books, Reply.ofOption]
      | some s =>
          by_cases get : cmd = fGetFl
          · simp [bind_apply, known, books, get, Reply.ofOption]
          · by_cases set : cmd = fSetFl
            · subst set
              simp [bind_apply, known, books, get, Reply.ofOption]
            · simp [bind_apply, known, books, get, set, Reply.ofOption]
  | getSockOpt level optname size =>
      unfold Forwards Command.program getSockOpt getProxySocket
      cases known : b.manager.sockets.lookup fd with
      | none => simp [bind_apply, known, books, Reply.ofOption]
      | some s =>
          simp [bind_apply, known, books, ofOption_eq_forwarded, readOption_ne_forwarded]
  | setSockOpt level optname optval =>
      unfold Forwards Command.program setSockOpt getProxySocket
      cases known : b.manager.sockets.lookup fd with
      | none => simp [bind_apply, known, books, Reply.ofOption]
      | some s =>
          cases written : writeOption s level optname optval with
          | error errno => simp [bind_apply, known, books, written, Reply.ofOption]
          | ok s' => simp [bind_apply, known, books, written, Reply.ofOption]

theorem oneSided_iff (b : Bsd) : OneSided b ↔ (books b).Agree := by
  constructor
  · intro sided fd
    have send := marked_forwards (c := .send []) rfl b fd
    have name := proxy_forwards (c := .getSockName 0) rfl rfl (by simp) b fd
    have unaddressed := @sendTo_forwards none rfl [] b fd
    have first := sided fd (.send []) (.getSockName 0) rfl rfl
    have second := sided fd (.sendTo none []) (.getSockName 0) rfl rfl
    rw [send, name] at first
    rw [unaddressed, name] at second
    cases proxied : (books b).proxied fd with
    | false => simpa [proxied] using second
    | true => simpa [proxied] using first
  · intro agree fd
    have side : ∀ c, consults c = true → (Forwards b fd c ↔ (books b).proxied fd = false) := by
      intro c consult
      have same := agree fd
      cases asks : asksMark c with
      | true =>
          rw [marked_forwards asks b fd, ← same, and_self, Bool.not_eq_true]
      | false =>
          by_cases sends : ∃ addr bytes, c = .sendTo addr bytes
          · obtain ⟨addr, bytes, rfl⟩ := sends
            have other : addr.any isLdnInet = false := by simpa [consults] using consult
            rw [sendTo_forwards other bytes b fd, ne_eq, ← same, Bool.not_eq_true]
          · refine proxy_forwards consult asks ?_ b fd
            exact fun addr bytes same => sends ⟨addr, bytes, same⟩
    intro c c' consult consult'
    rw [side c consult, side c' consult']

theorem books_of_sockets {b : Bsd} {m : Manager}
    (same : ∀ fd, (m.sockets.lookup fd).isSome = (b.manager.sockets.lookup fd).isSome) :
    books { b with manager := m } = books b := by
  exact Books.ext (funext same) rfl

theorem books_untouched {b : Bsd} {m : Manager} (same : Untouched b.manager m) :
    books { b with manager := m } = books b := by
  refine books_of_sockets fun fd => ?_
  cases known : b.manager.sockets.lookup fd with
  | none => rw [same.keys fd known]
  | some s =>
      obtain ⟨s', known', -⟩ := same.sockets fd s known
      rw [known', Option.isSome_some, Option.isSome_some]

theorem books_options {b : Bsd} {m : Manager} (same : options m = options b.manager) :
    books { b with manager := m } = books b := by
  refine books_of_sockets fun fd => ?_
  have here := congrArg Option.isSome (congrFun same fd)
  simpa [options] using here

theorem books_setSocket (b : Bsd) (fd : Int) (s : Socket) :
    books { b with manager := b.manager.setSocket fd s } = (books b).addProxy fd := by
  refine Books.ext (funext fun j => ?_) rfl
  by_cases own : j = fd
  · subst own
    simp [books, Books.addProxy]
  · simp [books, Books.addProxy, own, Manager.lookup_setSocket_ne s own]

theorem books_marked (b : Bsd) (fd : Int) : books (marked b fd) = (books b).setMark fd := by
  refine Books.ext rfl (funext fun j => ?_)
  cases entry : b.socketInfo.lookup fd with
  | none =>
      have none : (books b).mark fd = none := by simp [books, entry]
      have same : (marked b fd).socketInfo = b.socketInfo := by
        rw [marked, markEntry, entry]
      rw [Books.setMark, none, Option.map_none, Function.update_eq_self_iff.mpr none.symm,
        books, same]
      rfl
  | some info =>
      have mark : (books b).mark fd = some info.isProxy := by simp [books, entry]
      rw [Books.setMark, mark]
      simp only [books, marked, markEntry_lookup entry]
      by_cases own : j = fd
      · simp [own]
      · simp [own]

theorem Books.addProxy_of_proxied {k : Books} {fd : Int} (already : k.proxied fd = true) :
    k.addProxy fd = k := by
  rw [Books.addProxy, Function.update_eq_self_iff.mpr already.symm]

theorem proxied_of_found {b : Bsd} {fd : Int} {s : Socket}
    (found : b.manager.sockets.lookup fd = some s) : (books b).proxied fd = true := by
  simp [books, found]

theorem books_setSocket_found {b : Bsd} {fd : Int} {s : Socket}
    (found : b.manager.sockets.lookup fd = some s) (s' : Socket) :
    books { b with manager := b.manager.setSocket fd s' } = books b := by
  rw [books_setSocket, Books.addProxy_of_proxied (proxied_of_found found)]

theorem books_withPool (b : Bsd) (pool : EphemeralPortPool.Pool) :
    books (withPool b pool) = books b := rfl

theorem books_broadcasted {b : Bsd} {fd : Int} {s : Socket} (info : SocketInfo)
    (found : b.manager.sockets.lookup fd = some s) : books (broadcasted b fd s info) = books b := by
  unfold broadcasted
  split
  · exact books_setSocket_found found _
  · rfl

theorem books_autoBound (b : Bsd) (fd : Int) (type : SocketType) (protocol : ProtocolType) :
    books { b with manager := autoBound b.manager fd type protocol } = (books b).addProxy fd := by
  have made := books_setSocket b fd (Socket.new type protocol)
  have again := books_setSocket_found
    (b := withPool { b with manager := b.manager.setSocket fd (Socket.new type protocol) }
      (b.manager.portPool.allocatePort protocol).2)
    (Manager.lookup_setSocket b.manager fd _) (autoBoundSocket b.manager type protocol)
  exact again.trans made

theorem connectProxy_books {b : Bsd} {fd : Int} {s : Socket} (addr : SockAddrIn)
    (reply : Option ProxyInfo) (found : b.manager.sockets.lookup fd = some s) :
    (connectProxy fd addr reply).Ensures false b fun answer b' =>
      books b' = if answer = .own none then (books b).setMark fd else books b := by
  unfold connectProxy proxyOf
  simp only [ensures_bind, ensures_read, found, ensures_onManager]
  refine (connect_untouched addr reply found).mono ?_
  intro result m same
  have kept := books_untouched same
  cases result with
  | error errno => simpa using kept
  | ok _ =>
      simp only [ensures_bind, ensures_markProxy, ensures_pure, if_true]
      rw [books_marked, kept]

theorem connectProxy_answer {b : Bsd} {fd : Int} {s : Socket} {addr : SockAddrIn}
    {reply : Option ProxyInfo} {accepted : Prop} (found : b.manager.sockets.lookup fd = some s)
    (connects : (ProxySocketManager.connect fd s addr reply).Ensures false b.manager
      fun result _ => (result = .ok () ↔ accepted)) :
    (connectProxy fd addr reply).Ensures false b fun answer _ => (answer = .own none ↔ accepted) := by
  unfold connectProxy proxyOf
  simp only [ensures_bind, ensures_read, found, ensures_onManager]
  refine connects.mono ?_
  intro result m same
  cases result with
  | error errno => simpa using same
  | ok _ => simpa using same

theorem finishBind_books {b : Bsd} {fd : Int} {s : Socket} {addr : SockAddrIn} (info : SocketInfo)
    (now : Nat) (found : b.manager.sockets.lookup fd = some s) (family : addr.sinFamily = inet) :
    (finishBind fd info addr now).Ensures false b fun _ b' =>
      books b' = if s.state = .created then (books b).setMark fd else books b := by
  unfold finishBind proxyOf ProxySocketManager.bind Socket.bind
  simp only [ensures_bind, ensures_read, found]
  by_cases fresh : s.state = .created
  · simp only [fresh, ne_eq, not_true_eq_false, if_false, family, ensures_onManager, ensures_bind,
      ensures_update, ensures_pure, ensures_markProxy, if_true]
    refine (deliverPendingPackets_untouched fd addr.getPort info.protocol now).mono ?_
    intro _ m delivered
    rw [books_untouched delivered, books_marked, books_setSocket_found found]
  · simp [fresh]

theorem bindProxy_books {b : Bsd} {fd : Int} {s : Socket} {info : SocketInfo} {addr : SockAddrIn}
    (now : Nat) (found : b.manager.sockets.lookup fd = some s) (family : addr.sinFamily = inet) :
    (bindProxy fd info addr now).Ensures false b fun _ b' =>
      books b' =
        if obtainable b.manager.portPool info.protocol addr.getPort = true ∧ s.state = .created then
          (books b).setMark fd
        else books b := by
  intro answer b' done
  rw [bindProxy_apply now found] at done
  by_cases free : obtainable b.manager.portPool info.protocol addr.getPort = true
  · rw [if_pos free] at done
    have there := lookup_withPool_broadcasted info
      (takenPool b.manager.portPool info.protocol addr.getPort) found
    have bound := finishBind_books info now there ((boundAddress_family b info addr).trans family)
      answer b' done
    rw [bound, books_withPool, books_broadcasted info found]
    simp [free]
  · rw [if_neg free] at done
    cases done
    rw [books_broadcasted info found, if_neg fun both => free both.1]

theorem connect_ok_iff {m : Manager} {fd : Int} {s : Socket} {addr : SockAddrIn}
    {reply : Option ProxyInfo} (open_ : s.state ≠ .closed) (family : addr.sinFamily = inet)
    (blocking : s.nonBlocking = false) :
    (ProxySocketManager.connect fd s addr reply).Ensures false m fun result _ =>
      (result = .ok () ↔ s.type ≠ .stream ∨
        m.proxyConnectCallback.any (fun send => send (s.connectInfo addr)) = true ∧
          reply.any (fun response => response.protocol = ProtocolType.unspecified.toField) = true) := by
  unfold ProxySocketManager.connect
  by_cases stream : s.type = .stream
  · simp only [Socket.beginConnect, if_neg open_, family, ne_eq, not_true_eq_false, if_false, stream,
      if_true, ensures_bind, ensures_update]
    refine sendVia_ensures.mono ?_
    rintro sent m' ⟨-, -, rfl⟩
    rw [Manager.setSocket_proxyConnectCallback]
    cases accepted : m.proxyConnectCallback.any fun send => send (s.connectInfo addr) with
    | false => simp
    | true =>
        cases reply with
        | none => simp [Socket.endConnect, blocking]
        | some response =>
            by_cases success : response.protocol = ProtocolType.unspecified.toField
            · simp [Socket.endConnect, Socket.handleConnectResponse, blocking, success]
            · simp [Socket.endConnect, Socket.handleConnectResponse, blocking, success]
  · simp [Socket.beginConnect, open_, family, stream]

namespace Books

variable {k : Books} {fd : Int} {v : Bool}

theorem Agree.setMark_eq (agree : k.Agree) (proxied : k.proxied fd = true) : k.setMark fd = k :=
  setMark_of_marked ((agree fd).mp proxied)

theorem Agree.not_addProxy (agree : k.Agree) (absent : k.proxied fd = false) :
    ¬ (k.addProxy fd).Agree := by
  intro again
  have mark := (again fd).mp (by simp [addProxy])
  have proxied := (agree fd).mpr mark
  rw [absent] at proxied
  cases proxied

theorem Agree.addProxy_setMark (agree : k.Agree) (tracked : k.mark fd = some v) :
    ((k.addProxy fd).setMark fd).Agree := by
  intro j
  by_cases own : j = fd
  · simp [own, addProxy, setMark, tracked]
  · simpa [own, addProxy, setMark] using agree j

theorem not_agree_setMark (tracked : k.mark fd = some v) (absent : k.proxied fd = false) :
    ¬ (k.setMark fd).Agree := by
  intro again
  have proxied := (again fd).mpr (by simp [setMark, tracked])
  rw [show (k.setMark fd).proxied fd = k.proxied fd from rfl, absent] at proxied
  cases proxied

end Books

theorem absent_of_none {b : Bsd} {fd : Int} (none : b.manager.sockets.lookup fd = none) :
    (books b).proxied fd = false := by
  simp [books, none]

theorem tracked_of_entry {b : Bsd} {fd : Int} {info : SocketInfo}
    (entry : b.socketInfo.lookup fd = some info) : (books b).mark fd = some info.isProxy := by
  simp [books, entry]

theorem bind_agree {b : Bsd} {fd : Int} {info : SocketInfo} {addr : SockAddrIn} (now : Nat)
    (agree : (books b).Agree) (proxied : isProxied addr = true)
    (entry : b.socketInfo.lookup fd = some info) :
    (BsdMitmService.bind fd (some addr) now).Ensures false b fun _ b' =>
      ((books b').Agree ↔ fd ∈ b.manager.sockets ∨ isFull b.manager = true ∨
        obtainable b.manager.portPool info.protocol addr.getPort = true) := by
  have family : addr.sinFamily = inet := by
    simp only [isProxied, Bool.and_eq_true, decide_eq_true_eq] at proxied
    exact proxied.1
  intro answer b' done
  rw [bind_tracked now proxied entry] at done
  cases known : b.manager.sockets.lookup fd with
  | some s =>
      rw [known] at done
      have after := bindProxy_books now known family answer b' done
      rw [agree.setMark_eq (proxied_of_found known), ite_self] at after
      rw [after]
      exact iff_of_true agree (Or.inl (mem_sockets known))
  | none =>
      have absent := absent_of_none known
      have unregistered : fd ∉ b.manager.sockets := AList.lookup_eq_none.mp known
      rw [known] at done
      dsimp only at done
      by_cases full : isFull b.manager = true
      · rw [if_pos full] at done
        cases done
        exact iff_of_true agree (Or.inr (Or.inl full))
      · rw [if_neg full] at done
        have made := Manager.lookup_setSocket b.manager fd (Socket.new info.type info.protocol)
        have after := bindProxy_books
          (b := { b with manager := b.manager.setSocket fd (Socket.new info.type info.protocol) })
          now made family answer b' done
        rw [books_setSocket, Manager.setSocket_portPool] at after
        by_cases free : obtainable b.manager.portPool info.protocol addr.getPort = true
        · rw [if_pos ⟨free, rfl⟩] at after
          rw [after]
          exact iff_of_true (agree.addProxy_setMark (tracked_of_entry entry)) (Or.inr (Or.inr free))
        · rw [if_neg fun both => free both.1] at after
          rw [after]
          refine iff_of_false (agree.not_addProxy absent) ?_
          rintro (here | filled | given)
          · exact unregistered here
          · exact full filled
          · exact free given

theorem connectProxy_new_agree {b : Bsd} {fd : Int} {info : SocketInfo} {addr : SockAddrIn}
    {reply : Option ProxyInfo} (agree : (books b).Agree) (family : addr.sinFamily = inet)
    (entry : b.socketInfo.lookup fd = some info) (known : b.manager.sockets.lookup fd = none) :
    (connectProxy fd addr reply).Ensures false
      { b with manager := autoBound b.manager fd info.type info.protocol } fun _ b' =>
        ((books b').Agree ↔ info.type ≠ .stream ∨
          b.manager.proxyConnectCallback.any
              (fun send => send (autoBoundRequest b.manager info.protocol addr)) = true ∧
            reply.any (fun response =>
              response.protocol = ProtocolType.unspecified.toField) = true) := by
  have found : (autoBound b.manager fd info.type info.protocol).sockets.lookup fd =
      some (autoBoundSocket b.manager info.type info.protocol) :=
    Manager.lookup_setSocket _ fd _
  have before := books_autoBound b fd info.type info.protocol
  have connects := @connect_ok_iff (autoBound b.manager fd info.type info.protocol) fd
    (autoBoundSocket b.manager info.type info.protocol) addr reply
    (by simp [autoBoundSocket]) family rfl
  have answered := connectProxy_answer
    (b := { b with manager := autoBound b.manager fd info.type info.protocol }) found connects
  refine ((connectProxy_books addr reply found).and answered).mono ?_
  rintro answer b' ⟨after, accepted⟩
  have request : (autoBoundSocket b.manager info.type info.protocol).connectInfo addr =
      autoBoundRequest b.manager info.protocol addr := by
    simp [autoBoundSocket, Socket.connectInfo, autoBoundRequest, Socket.new, Endpoint.new]
  rw [request] at accepted
  change answer = .own none ↔ info.type ≠ .stream ∨ _ at accepted
  rw [before] at after
  by_cases done : answer = .own none
  · rw [if_pos done] at after
    rw [after]
    exact iff_of_true (agree.addProxy_setMark (tracked_of_entry entry)) (accepted.mp done)
  · rw [if_neg done] at after
    rw [after]
    exact iff_of_false (agree.not_addProxy (absent_of_none known)) fun ok => done (accepted.mpr ok)

theorem connect_agree {b : Bsd} {fd : Int} {info : SocketInfo} {addr : SockAddrIn}
    (reply : Option ProxyInfo) (agree : (books b).Agree) (toLdn : isLdnInet addr = true)
    (entry : b.socketInfo.lookup fd = some info) :
    (BsdMitmService.connect fd (some addr) reply).Ensures false b fun _ b' =>
      ((books b').Agree ↔ connectClean b.manager fd info addr reply = true) := by
  have family : addr.sinFamily = inet := by
    simp only [isLdnInet, Bool.and_eq_true, decide_eq_true_eq] at toLdn
    exact toLdn.1
  unfold BsdMitmService.connect getProxySocket
  simp only [toLdn, if_true, ensures_bind, ensures_read, entry, ensures_onManager,
    ensures_withLock]
  cases known : b.manager.sockets.lookup fd with
  | some s =>
      refine (connectProxy_books addr reply known).mono ?_
      intro answer b' after
      rw [agree.setMark_eq (proxied_of_found known), ite_self] at after
      rw [after]
      exact iff_of_true agree (by simp [connectClean, mem_sockets known])
  | none =>
      have absent := absent_of_none known
      have unregistered : fd ∉ b.manager.sockets := AList.lookup_eq_none.mp known
      simp only [ensures_bind, ensures_onManager]
      refine createProxySocket_ensures.mono ?_
      rintro created m (⟨s, found, -, -⟩ | ⟨-, full, rfl, rfl⟩ | ⟨-, room, rfl, rfl⟩)
      · rw [known] at found
        cases found
      · simp only [Bool.false_eq_true, if_false, ensures_pure]
        exact iff_of_true agree (by simp [connectClean, full])
      · by_cases none : (b.manager.portPool.allocatePort info.protocol).1 = 0
        · simp only [if_true, ensures_bind, ensures_onManager, allocatePort, ensures_read, id,
            ensures_update, ensures_pure, Manager.setSocket_portPool, none]
          have made := books_setSocket b fd (Socket.new info.type info.protocol)
          refine iff_of_false ?_ ?_
          · exact fun again => agree.not_addProxy absent (made ▸ again)
          · simp [connectClean, unregistered, room, hasFree, none]
        · simp only [if_true, ensures_bind, ensures_onManager, allocatePort, ensures_read, id,
            ensures_update, ensures_pure, Manager.setSocket_portPool, none, if_false]
          refine (autoBind_new fd info.type info.protocol).mono ?_
          rintro - b₁ ⟨rfl, rfl⟩
          refine (connectProxy_new_agree agree family entry known).mono ?_
          intro _ b' again
          rw [again]
          simp [connectClean, unregistered, room, hasFree, none]

theorem sendToProxy_books {b : Bsd} {fd : Int} (info : SocketInfo)
    (absent : b.manager.sockets.lookup fd = none) :
    (sendToProxy fd info).Ensures false b fun _ b' => books b' =
      if isFull b.manager = true then (books b).setMark fd
      else ((books b).addProxy fd).setMark fd := by
  unfold sendToProxy getProxySocket
  simp only [ensures_bind, ensures_onManager, ensures_withLock, ensures_read, absent]
  refine createProxySocket_ensures.mono ?_
  rintro created m (⟨s, found, -, -⟩ | ⟨-, full, rfl, rfl⟩ | ⟨-, room, rfl, rfl⟩)
  · rw [absent] at found
    cases found
  · simp only [Bool.false_eq_true, if_false, ensures_bind, ensures_markProxy, ensures_pure]
    rw [books_marked, if_pos full]
  · have made := books_setSocket b fd (Socket.new info.type info.protocol)
    have empty : ¬ isFull b.manager = true := by simp [room]
    simp only [if_neg empty]
    by_cases none : (b.manager.portPool.allocatePort info.protocol).1 = 0
    · simp only [if_true, ensures_bind, ensures_onManager, allocatePort, ensures_read, id,
        ensures_update, ensures_pure, Manager.setSocket_portPool, none, ne_eq,
        not_true_eq_false, if_false, ensures_markProxy]
      rw [books_marked]
      exact congrArg (·.setMark fd) made
    · simp only [if_true, ensures_bind, ensures_onManager, allocatePort, ensures_read, id,
        ensures_update, ensures_pure, Manager.setSocket_portPool, none, ne_eq,
        not_false_eq_true]
      refine (autoBind_new fd info.type info.protocol).mono ?_
      rintro - b₁ ⟨rfl, rfl⟩
      simp only [ensures_bind, ensures_markProxy, ensures_pure]
      rw [books_marked, books_autoBound]

theorem sendVia_books (b : Bsd) (fd : Int) (addr : Option SockAddrIn) (bytes : List UInt8) :
    (BsdMitmService.sendVia fd addr bytes).Ensures false b fun _ b' => books b' = books b := by
  unfold BsdMitmService.sendVia getProxySocket
  simp only [ensures_bind, ensures_onManager, ensures_withLock, ensures_read]
  split
  · simp only [ensures_bind, ensures_onManager]
    refine (sendTo_untouched _ bytes _).mono ?_
    intro result m same
    cases result <;> simpa using books_untouched same
  · simp

/-- A `SendTo` marks the entry, and there may be no room for the proxy. -/
def sendToKeeps (b : Bsd) (fd : Int) (addr : Option SockAddrIn) : Bool :=
  addr.all fun a => !isLdnInet a || (b.socketInfo.lookup fd).all fun info =>
    info.isProxy || !isFull b.manager

theorem sendTo_agree {b : Bsd} {fd : Int} {addr : Option SockAddrIn} (bytes : List UInt8)
    (agree : (books b).Agree) :
    (BsdMitmService.sendTo fd addr bytes).Ensures false b fun _ b' =>
      ((books b').Agree ↔ sendToKeeps b fd addr = true) := by
  have sent : ∀ (b₁ : Bsd) (known : Option SocketInfo),
      (if known.any (·.isProxy) = true ∨ addr.any isLdnInet = true then
        BsdMitmService.sendVia fd addr bytes else pure .forwarded).Ensures false b₁
          fun _ b' => books b' = books b₁ := by
    intro b₁ known
    split
    · exact sendVia_books b₁ fd addr bytes
    · exact ensures_pure.mpr rfl
  unfold BsdMitmService.sendTo
  simp only [ensures_bind, ensures_read]
  cases entry : b.socketInfo.lookup fd with
  | none =>
      refine ensures_bind.mpr (ensures_pure.mpr ((sent b none).mono ?_))
      intro _ b' same
      rw [same]
      refine iff_of_true agree ?_
      simp [sendToKeeps, entry]
  | some info =>
      have mark := tracked_of_entry entry
      by_cases makes : addr.any isLdnInet = true ∧ (!info.isProxy) = true
      · have bare : info.isProxy = false := by simpa using makes.2
        have absent : (books b).proxied fd = false := by
          rw [← Bool.not_eq_true, agree fd, mark, bare]
          simp
        have none : b.manager.sockets.lookup fd = none := by simpa [books] using absent
        have needs : sendToKeeps b fd addr = !isFull b.manager := by
          obtain ⟨a, rfl, toLdn⟩ := (Option.any_eq_true _ _).mp makes.1
          simp [sendToKeeps, toLdn, entry, bare]
        simp only [if_pos makes, ensures_bind]
        refine (sendToProxy_books info none).mono ?_
        intro prepared b₁ after
        have settled : (books b₁).Agree ↔ sendToKeeps b fd addr = true := by
          rw [after, needs]
          by_cases full : isFull b.manager = true
          · rw [if_pos full]
            exact iff_of_false (Books.not_agree_setMark mark absent) (by simp [full])
          · rw [if_neg full]
            exact iff_of_true (agree.addProxy_setMark mark) (by simpa using full)
        cases prepared with
        | error errno => exact ensures_pure.mpr settled
        | ok _ =>
            refine (sent b₁ (some info)).mono ?_
            intro _ b' same
            rw [same]
            exact settled
      · simp only [if_neg makes]
        refine ensures_bind.mpr (ensures_pure.mpr ((sent b (some info)).mono ?_))
        intro _ b' same
        rw [same]
        refine iff_of_true agree ?_
        cases addr with
        | none => rfl
        | some a =>
            have marked : isLdnInet a = true → info.isProxy = true := by simpa using makes
            simp only [sendToKeeps, Option.all_some, entry]
            cases toLdn : isLdnInet a with
            | false => rfl
            | true => simp [marked toLdn]

theorem close_agree {b : Bsd} (fd : Int) (agree : (books b).Agree) :
    (BsdMitmService.close fd).Ensures false b fun _ b' => (books b').Agree := by
  unfold BsdMitmService.close
  simp only [ensures_bind, ensures_read]
  cases entry : b.socketInfo.lookup fd with
  | none => exact ensures_pure.mpr agree
  | some info =>
      have mark := tracked_of_entry entry
      have others : ∀ m : Manager, m.sockets.lookup fd = none →
          (∀ j, j ≠ fd → m.sockets.lookup j = b.manager.sockets.lookup j) →
            (books ⟨b.socketInfo.erase fd, m⟩).Agree := by
        intro m gone kept j
        by_cases own : j = fd
        · simp [own, books, gone]
        · have same := agree j
          simpa [books, own, kept j own, AList.lookup_erase_ne own] using same
      by_cases marked : info.isProxy = true
      · simp only [marked, if_true, ensures_bind, ensures_discard, ensures_onManager]
        refine (closeProxySocket_closed b.manager fd).mono ?_
        intro _ m closed
        simp only [ensures_update, ensures_pure]
        exact others m (closed.dropped fd rfl) fun j apart => closed.kept j apart
      · have absent : (books b).proxied fd = false := by
          rw [← Bool.not_eq_true, agree fd, mark]
          simpa using marked
        simp only [marked, Bool.false_eq_true, if_false, ensures_bind, ensures_update, ensures_pure]
        exact others b.manager (by simpa [books] using absent) fun _ _ => rfl

theorem dropEntries_agree {b : Bsd} (selected : SocketInfo → Bool) (agree : (books b).Agree) :
    (dropEntries selected).Ensures false b fun _ b' => (books b').Agree := by
  unfold dropEntries
  simp only [ensures_bind, ensures_read, ensures_update, ensures_onManager, List.filter_filter]
  refine (closeFds_closed b.manager _).mono ?_
  intro _ m closed fd
  have dropped := mem_droppedFds b.socketInfo selected fd
  have shut := mem_droppedFds b.socketInfo (fun info => info.isProxy && selected info) fd
  have same := agree fd
  simp only [books] at same ⊢
  rw [lookup_eraseAll]
  cases entry : b.socketInfo.lookup fd with
  | none =>
      have stays := closed.kept fd (by rw [shut, entry]; simp)
      simpa [stays, entry] using same
  | some info =>
      cases chosen : selected info with
      | false =>
          have stays := closed.kept fd (by rw [shut, entry]; simp [chosen])
          rw [if_neg (by rw [dropped, entry]; simp [chosen]), stays, same, entry]
      | true =>
          rw [if_pos (by rw [dropped, entry]; simp [chosen])]
          cases proxied : info.isProxy with
          | true =>
              have gone := closed.dropped fd (by rw [shut, entry]; simp [chosen, proxied])
              simp [gone]
          | false =>
              have stays := closed.kept fd (by rw [shut, entry]; simp [proxied])
              rw [stays, same, entry]
              simp [proxied]

theorem reset_agree {b : Bsd} (agree : (books b).Agree) :
    (onManager ProxySocketManager.reset).Ensures false b fun _ b' =>
      ((books b').Agree ↔ b.manager.sockets.keys = []) := by
  simp only [ensures_onManager]
  refine (reset_narrows b.manager).mono ?_
  intro _ m none
  have gone : ∀ fd, (books { b with manager := m }).proxied fd = false := by
    intro fd
    have here := none fd
    rw [options, Option.map_eq_none_iff] at here
    simp [books, here]
  constructor
  · intro again
    refine List.eq_nil_iff_forall_not_mem.mpr fun fd here => ?_
    have proxied : (books b).proxied fd = true := by
      rw [books, AList.lookup_isSome]
      exact here
    have left := (again fd).mpr ((agree fd).mp proxied)
    rw [gone fd] at left
    cases left
  · intro keys fd
    have absent : (books b).proxied fd = false := by
      rw [books, ← Bool.not_eq_true, AList.lookup_isSome, AList.mem_keys, keys]
      exact List.not_mem_nil
    have same := agree fd
    rw [absent] at same
    rw [gone fd]
    exact same

theorem socket_agree {b : Bsd} {sessionId : Nat} {type protocol : Int} {real : RealSocket}
    (agree : (books b).Agree) :
    (BsdMitmService.socket sessionId type protocol real).Ensures false b fun _ b' =>
      ((books b').Agree ↔ made real = false ∨ real.fd ∉ b.manager.sockets) := by
  unfold BsdMitmService.socket
  split
  · rename_i all
    have new : made real = true := by simp [made, all]
    simp only [ensures_bind, ensures_update, ensures_pure, new, Bool.true_eq_false, false_or]
    have own : (books b).proxied real.fd = true ↔ real.fd ∈ b.manager.sockets := by
      rw [books, AList.lookup_isSome]
    constructor
    · intro again here
      have mark := (again real.fd).mp (own.mpr here)
      simp [books] at mark
    · intro fresh fd
      by_cases same : fd = real.fd
      · subst same
        have absent := mt own.mp fresh
        simpa [books] using absent
      · simpa [books, same] using agree fd
  · rename_i refused
    have none : made real = false := by
      by_contra all
      simp only [made, Bool.not_eq_false, Bool.and_eq_true, decide_eq_true_eq, and_assoc] at all
      exact refused all
    exact ensures_pure.mpr (iff_of_true agree (Or.inl none))

/-- `resume` is a receive call that waited; a `SendTo` may come either as a command or as
a call. -/
inductive Action where
  | command (a : BsdBookkeeping.Action)
  | call (fd : Int) (c : Command)
  | resume (fd : Int) (len : Nat) (flags : UInt32) (addrSize : Nat) (wantSource : Bool)
  | incomingData (info : ProxyInfo) (protocol : BsdTypes.ProtocolType) (data : List UInt8) (now : Nat)
  | connectRequest (request : ProxyInfo)
  | connectResponse (response : ProxyInfo)

def Action.program : Action → Program Bsd Unit
  | .command a => a.program
  | .call fd c => (c.program fd).discard
  | .resume fd len flags addrSize wantSource =>
      (BsdCommands.resume fd len flags addrSize wantSource).discard
  | .incomingData info protocol data now =>
      (onManager (routeIncomingData info.sourceIpv4 info.sourcePort info.destIpv4 info.destPort
        protocol data now)).discard
  | .connectRequest request => (onManager (routeConnectRequest request)).discard
  | .connectResponse response => (onManager (routeConnectResponse response)).discard

def step (b : Bsd) (a : Action) : Option Bsd := (a.program false b).map (·.2)

/-- A proxy that comes gets its mark in the same command, and a mark its proxy; neither
goes without the other, nor waits for a new descriptor. -/
def Keeps (b : Bsd) : Action → Bool
  | .command (.socket _ _ _ real) => !made real || decide (real.fd ∉ b.manager.sockets)
  | .command (.bind fd addr _) =>
      addr.all fun a => !isProxied a || (b.socketInfo.lookup fd).all fun info =>
        decide (fd ∈ b.manager.sockets) || isFull b.manager ||
          obtainable b.manager.portPool info.protocol a.getPort
  | .command (.connect fd addr reply) =>
      addr.all fun a => !isLdnInet a || (b.socketInfo.lookup fd).all fun info =>
        connectClean b.manager fd info a reply
  | .command (.sendTo fd addr _) => sendToKeeps b fd addr
  | .command .managerReset => decide (b.manager.sockets.keys = [])
  | .call fd (.sendTo addr _) => sendToKeeps b fd addr
  | _ => true

theorem sendConnected_untouched (s : Socket) (bytes : List UInt8) (m : Manager) :
    (sendConnected s bytes).Ensures false m fun _ m' => Untouched m m' := by
  unfold sendConnected
  split
  · exact ensures_pure.mpr (.refl m)
  · rw [ensures_bind]
    refine (sendTo_untouched s bytes s.remoteAddr).mono ?_
    intro result m' same
    exact ensures_pure.mpr same

theorem onProxy_ensures {b : Bsd} {fd : Int} {body : Socket → Program Manager Reply}
    {post : Reply → Bsd → Prop} (forwarded : post .forwarded b)
    (own : ∀ s, b.manager.sockets.lookup fd = some s →
      (body s).Ensures false b.manager fun reply m => post reply { b with manager := m }) :
    (onProxy fd body).Ensures false b post := by
  unfold onProxy getProxySocket
  simp only [ensures_bind, ensures_onManager, ensures_withLock, ensures_read]
  cases known : b.manager.sockets.lookup fd with
  | none => exact ensures_pure.mpr forwarded
  | some s => exact ensures_onManager.mpr (own s known)

theorem onMarked_ensures {b : Bsd} {fd : Int} {body : Socket → Program Manager Reply}
    {post : Reply → Bsd → Prop} (forwarded : post .forwarded b)
    (own : ∀ s, b.manager.sockets.lookup fd = some s →
      (body s).Ensures false b.manager fun reply m => post reply { b with manager := m }) :
    (onMarked fd body).Ensures false b post := by
  have proxy := onProxy_ensures forwarded own
  unfold onProxy at proxy
  unfold onMarked
  rw [ensures_bind, ensures_read]
  split
  · exact proxy
  · exact ensures_pure.mpr forwarded

theorem onProxy_books {body : Socket → Program Manager Reply} (b : Bsd) (fd : Int)
    (steady : ∀ s, b.manager.sockets.lookup fd = some s →
      (body s).Ensures false b.manager fun _ m => books { b with manager := m } = books b) :
    (onProxy fd body).Ensures false b fun _ b' => books b' = books b :=
  onProxy_ensures rfl steady

theorem onMarked_books {body : Socket → Program Manager Reply} (b : Bsd) (fd : Int)
    (steady : ∀ s, b.manager.sockets.lookup fd = some s →
      (body s).Ensures false b.manager fun _ m => books { b with manager := m } = books b) :
    (onMarked fd body).Ensures false b fun _ b' => books b' = books b :=
  onMarked_ensures rfl steady

theorem receive_books {b : Bsd} {fd : Int} {s : Socket} (addrSize : Nat)
    (call : Socket → Socket.Received × Socket) (known : b.manager.sockets.lookup fd = some s) :
    (receive fd addrSize call s).Ensures false b.manager fun _ m =>
      books { b with manager := m } = books b := by
  unfold receive
  simp only [ensures_bind, ensures_update, ensures_pure]
  exact books_setSocket_found known _

theorem saveOption_books (b : Bsd) (fd level optname : Int) (optval : List UInt8) :
    books (saveOption b fd level optname optval) = books b := by
  unfold saveOption
  split
  · split
    · rename_i info entry
      refine Books.ext rfl (funext fun j => ?_)
      by_cases own : j = fd
      · subst own
        simp [books, entry]
      · simp [books, own]
    · rfl
  · rfl

theorem fcntl_books (b : Bsd) (fd cmd : Int) (arg : UInt32) :
    (fcntl fd cmd arg).Ensures false b fun _ b' => books b' = books b := by
  unfold fcntl getProxySocket
  simp only [ensures_bind, ensures_onManager, ensures_withLock, ensures_read]
  cases known : b.manager.sockets.lookup fd with
  | none => exact ensures_pure.mpr rfl
  | some s =>
      dsimp only
      split
      · exact ensures_pure.mpr rfl
      · split
        · simp only [ensures_bind, ensures_onManager, ensures_update, ensures_pure]
          exact books_setSocket_found known _
        · exact ensures_pure.mpr rfl

theorem setSockOpt_books (b : Bsd) (fd level optname : Int) (optval : List UInt8) :
    (setSockOpt fd level optname optval).Ensures false b fun _ b' => books b' = books b := by
  unfold setSockOpt getProxySocket
  simp only [ensures_bind, ensures_onManager, ensures_withLock, ensures_read]
  cases known : b.manager.sockets.lookup fd with
  | none =>
      simp only [ensures_bind, ensures_update, ensures_pure]
      exact saveOption_books b fd level optname optval
  | some s =>
      dsimp only
      cases writeOption s level optname optval with
      | error errno => exact ensures_pure.mpr rfl
      | ok written =>
          simp only [ensures_bind, ensures_onManager, ensures_update, ensures_pure]
          exact books_setSocket_found known _

theorem call_agree {b : Bsd} (fd : Int) (c : Command) (agree : (books b).Agree) :
    (c.program fd).Ensures false b fun _ b' =>
      ((books b').Agree ↔ Keeps b (.call fd c) = true) := by
  have steady : ∀ {p : Program Bsd Reply}, Keeps b (.call fd c) = true →
      p.Ensures false b (fun _ b' => books b' = books b) →
        p.Ensures false b fun _ b' => ((books b').Agree ↔ Keeps b (.call fd c) = true) := by
    intro p kept same
    refine same.mono fun _ b' equal => ?_
    rw [equal]
    exact iff_of_true agree kept
  have sends : ∀ bytes s, b.manager.sockets.lookup fd = some s →
      (sendConnected s bytes).Ensures false b.manager
        fun _ m => books { b with manager := m } = books b := fun bytes s _ =>
    (sendConnected_untouched s bytes b.manager).mono fun _ _ same => books_untouched same
  cases c with
  | send bytes => exact steady rfl (onMarked_books b fd (sends bytes))
  | write bytes => exact steady rfl (onMarked_books b fd (sends bytes))
  | sendTo addr bytes =>
      simp only [Command.program, ensures_bind]
      refine (sendTo_agree bytes agree).mono ?_
      intro answer b' settled
      exact ensures_pure.mpr settled
  | recv len flags =>
      exact steady rfl (onMarked_books b fd fun _ known => receive_books 0 _ known)
  | read len => exact steady rfl (onMarked_books b fd fun _ known => receive_books 0 _ known)
  | recvFrom len flags addrSize =>
      exact steady rfl (onMarked_books b fd fun _ known => receive_books addrSize _ known)
  | getPeerName addrSize => exact steady rfl (onProxy_books b fd fun _ _ => ensures_pure.mpr rfl)
  | getSockName addrSize => exact steady rfl (onProxy_books b fd fun _ _ => ensures_pure.mpr rfl)
  | ioctl request size => exact steady rfl (onProxy_books b fd fun _ _ => ensures_pure.mpr rfl)
  | fcntl cmd arg =>
      refine steady rfl (ensures_bind.mpr ((fcntl_books b fd cmd arg).mono ?_))
      exact fun _ _ same => ensures_pure.mpr same
  | getSockOpt level optname size =>
      refine steady rfl (ensures_bind.mpr ?_)
      unfold getSockOpt getProxySocket
      simp only [ensures_bind, ensures_onManager, ensures_withLock, ensures_read, ensures_pure]
      split <;> exact ensures_pure.mpr rfl
  | setSockOpt level optname optval =>
      refine steady rfl (ensures_bind.mpr ((setSockOpt_books b fd level optname optval).mono ?_))
      exact fun _ _ same => ensures_pure.mpr same
  | forwardedOnly => exact steady rfl (ensures_pure.mpr rfl)

theorem command_agree {b : Bsd} (a : BsdBookkeeping.Action) (agree : (books b).Agree) :
    a.program.Ensures false b fun _ b' => ((books b').Agree ↔ Keeps b (.command a) = true) := by
  cases a with
  | socket sessionId type protocol real =>
      refine ensures_discard.mpr ((socket_agree agree).mono ?_)
      intro _ b' settled
      rw [settled]
      simp [Keeps]
  | bind fd addr now =>
      refine ensures_discard.mpr ?_
      cases addr with
      | none => exact ensures_pure.mpr (iff_of_true agree rfl)
      | some addr =>
          by_cases proxied : isProxied addr = true
          · cases entry : b.socketInfo.lookup fd with
            | none =>
                unfold BsdMitmService.bind
                simp only [proxied, if_true, ensures_bind, ensures_read, entry, ensures_pure]
                exact iff_of_true agree (by simp [Keeps, entry])
            | some info =>
                refine (bind_agree now agree proxied entry).mono ?_
                intro _ b' settled
                rw [settled]
                simp [Keeps, proxied, entry, or_assoc]
          · unfold BsdMitmService.bind
            dsimp only
            rw [if_neg proxied, ensures_pure]
            exact iff_of_true agree (by simp [Keeps, proxied])
  | connect fd addr reply =>
      refine ensures_discard.mpr ?_
      cases addr with
      | none => exact ensures_pure.mpr (iff_of_true agree rfl)
      | some addr =>
          by_cases toLdn : isLdnInet addr = true
          · cases entry : b.socketInfo.lookup fd with
            | none =>
                unfold BsdMitmService.connect
                simp only [toLdn, if_true, ensures_bind, ensures_read, entry, ensures_pure]
                exact iff_of_true agree (by simp [Keeps, entry])
            | some info =>
                refine (connect_agree reply agree toLdn entry).mono ?_
                intro _ b' settled
                rw [settled]
                simp [Keeps, toLdn, entry]
          · unfold BsdMitmService.connect
            dsimp only
            rw [if_neg toLdn, ensures_pure]
            exact iff_of_true agree (by simp [Keeps, toLdn])
  | sendTo fd addr bytes => exact ensures_discard.mpr (sendTo_agree bytes agree)
  | close fd =>
      exact ensures_discard.mpr ((close_agree fd agree).mono fun _ _ still => iff_of_true still rfl)
  | destroySession sessionId =>
      exact (dropEntries_agree (·.sessionId = sessionId) agree).mono
        fun _ _ still => iff_of_true still rfl
  | resetProcessMitmState =>
      exact (dropEntries_agree (fun _ => true) agree).mono fun _ _ still => iff_of_true still rfl
  | managerReset =>
      refine (reset_agree agree).mono ?_
      intro _ b' settled
      rw [settled]
      simp [Keeps]
  | configure localIp sendCallback onConnect onConnectReply onDisconnect =>
      simp only [BsdBookkeeping.Action.program, ensures_onManager, ensures_update]
      exact iff_of_true agree rfl

theorem agree_step_iff {b b' : Bsd} {a : Action} (agree : (books b).Agree)
    (taken : step b a = some b') : (books b').Agree ↔ Keeps b a = true := by
  have ensures : a.program.Ensures false b fun _ b' => ((books b').Agree ↔ Keeps b a = true) := by
    cases a with
    | command a => exact command_agree a agree
    | call fd c => exact ensures_discard.mpr (call_agree fd c agree)
    | resume fd len flags addrSize wantSource =>
        refine ensures_discard.mpr ((onProxy_books b fd fun _ known =>
          receive_books addrSize _ known).mono ?_)
        intro _ b₁ same
        rw [same]
        exact iff_of_true agree rfl
    | incomingData info protocol data now =>
        refine ensures_discard.mpr (ensures_onManager.mpr
          ((routeIncomingData_options _ _ _ _ protocol data now).mono ?_))
        intro _ m same
        rw [books_options same]
        exact iff_of_true agree rfl
    | connectRequest request =>
        refine ensures_discard.mpr (ensures_onManager.mpr
          ((routeConnectRequest_options request).mono ?_))
        intro _ m same
        rw [books_options same]
        exact iff_of_true agree rfl
    | connectResponse response =>
        refine ensures_discard.mpr (ensures_onManager.mpr
          ((routeConnectResponse_options response).mono ?_))
        intro _ m same
        rw [books_options same]
        exact iff_of_true agree rfl
  obtain ⟨r, done, rfl⟩ := Option.map_eq_some_iff.mp taken
  exact ensures r.1 r.2 done

/-- Along a run, whatever sockets and packets come and go, the commands on each descriptor
are answered by one side in every state exactly if every step keeps mark and proxy
together: a `Connect` that is refused leaves a proxy without a mark, and so does a `Bind`
without a port; a `SendTo` in a full registry leaves a mark without a proxy, and so does
the reset of the manager. -/
theorem answered_by_one_side_iff {b : Bsd} {actions : List Action}
    (steps : run step .init actions = some b) :
    (∀ front back m, actions = front ++ back → run step .init front = some m → OneSided m) ↔
      run (guarded Keeps step) .init actions = some b := by
  simp only [oneSided_iff]
  let everything : Bsd → Prop := fun _ => True
  have inv : everything .init := trivial
  have start : (books .init).Agree := by
    intro fd
    simp [books, Bsd.init, Manager.init]
  exact run_guarded_iff (fun _ _ _ _ => trivial) (fun _ agree taken => agree_step_iff agree taken)
    inv start steps

def boundAndClosed : List Action :=
  [.command (.socket 1 2 0 ⟨true, 0, 3⟩), .command (.bind 3 (some (.ofHost 0x0A720001 50000)) 0),
    .call 3 (.send [1, 2]), .call 3 (.getSockName 16), .command (.close 3)]

theorem answered_by_one_side_iff_boundAndClosed : ∃ b,
    run (guarded Keeps step) .init boundAndClosed = some b ∧
      ∀ front back m, boundAndClosed = front ++ back → run step .init front = some m →
        OneSided m := by
  have evaluated : (run (guarded Keeps step) .init boundAndClosed).isSome = true := by
    decide +kernel
  obtain ⟨b, ran⟩ := Option.isSome_iff_exists.mp evaluated
  exact ⟨b, ran, (answered_by_one_side_iff (run_of_guarded ran)).mpr ran⟩

def refusedConnect : List Action :=
  [.command (.socket 1 1 0 ⟨true, 0, 3⟩),
    .command (.connect 3 (some (.ofHost 0x0A720002 50000)) none)]

theorem refusedConnect_not_oneSided :
    ∃ b, run step .init refusedConnect = some b ∧ ¬ OneSided b := by
  have facts : (run step .init refusedConnect).any (fun b =>
      (books b).proxied 3 && decide ((books b).mark 3 = some false)) = true := by
    decide +kernel
  obtain ⟨b, ran, facts⟩ := (Option.any_eq_true _ _).mp facts
  refine ⟨b, ran, ?_⟩
  rw [oneSided_iff]
  intro agree
  obtain ⟨proxied, unmarked⟩ := Bool.and_eq_true_iff.mp facts
  have marked := (agree 3).mp proxied
  rw [of_decide_eq_true unmarked] at marked
  cases marked

end RyuLdn.BsdRouting
