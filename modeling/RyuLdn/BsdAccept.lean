import RyuLdn.BsdMitmService
import RyuLdn.TransitionSystem

/-! The accept path of a proxied listener: connection requests from peers are
queued on it, the game calls `Accept`, and data of those peers arrives for the
listener's address and port. The queued connections never leave the queue, and
they are not registered, so the routing cannot find them. -/
namespace RyuLdn.BsdAccept

open BsdTypes ProtocolTypes ProxySocket ProxySocketManager BsdMitmService LockedProgram Program
open TransitionSystem

inductive Event where
  | queued (request : ProxyInfo)
  /-- The game calls `Accept`; the real service has an answer too. -/
  | accept (real : RealAccept)
  | data (sourceIp : UInt32) (sourcePort : UInt16) (destIp : UInt32) (destPort : UInt16)
      (bytes : List UInt8) (now : Nat)

/-- The service with the listener's descriptor, the peers whose connection was
queued, in order, and the descriptors `Accept` registered for them. -/
structure Path where
  bsd : Bsd
  fd : Int
  peers : List SockAddrIn
  handedOut : List Int

namespace Path

def listener (h : Path) : Option Socket := h.bsd.manager.sockets.lookup h.fd

def start (bsd : Bsd) (fd : Int) : Path :=
  ⟨bsd, fd, ((bsd.manager.sockets.lookup fd).map fun l => l.acceptQueue.map (·.remoteAddr)).getD [],
    []⟩

/-- The state a command or an operation leaves; one that stops leaves the old one. -/
def after {α : Type} (bsd : Bsd) (p : Program Bsd α) : Bsd :=
  match p false bsd with
  | some r => r.2
  | none => bsd

def queueRequest (h : Path) (request : ProxyInfo) : Path :=
  match h.listener with
  | some l =>
      match l.incomingConnection request with
      | (l, some _) =>
          { h with
            bsd := { h.bsd with manager := h.bsd.manager.setSocket h.fd l }
            peers := h.peers ++ [.ofHost request.sourceIpv4 request.sourcePort] }
      | (_, none) => h
  | none => h

def callAccept (h : Path) (real : RealAccept) : Path :=
  let bsd := after h.bsd (BsdMitmService.accept h.fd real)
  { h with
    bsd := bsd
    handedOut :=
      if real.newFd ∈ bsd.manager.sockets ∧ real.newFd ∉ h.bsd.manager.sockets then
        h.handedOut ++ [real.newFd]
      else h.handedOut }

def step (h : Path) : Event → Path
  | .queued request => h.queueRequest request
  | .accept real => h.callAccept real
  | .data sourceIp sourcePort destIp destPort bytes now =>
      let route := routeIncomingData sourceIp sourcePort destIp destPort .tcp bytes now
      { h with bsd := after h.bsd (onManager route) }

def IsFor (h : Path) (destIp : UInt32) (destPort : UInt16) : Prop :=
  ∃ l ∈ h.listener, l.localAddr.getPort = destPort ∧
    (l.localAddr.getAddr = 0 ∨ l.localAddr.getAddr = destIp)

/-- The bytes were appended to what the socket of `fd`, accepted for `peer`, has
received. -/
def Gets (h h' : Path) (fd : Int) (peer : SockAddrIn) (bytes : List UInt8) : Prop :=
  ∃ s ∈ h.bsd.manager.sockets.lookup fd, s.remoteAddr = peer ∧
    ∃ s' ∈ h'.bsd.manager.sockets.lookup fd,
      s'.rxRing.toList = s.rxRing.toList ++ [⟨peer, bytes⟩]

/-- What the accept path owes. `Accept` with a connection pending takes the oldest
one out of the queue, registers it under the returned descriptor and returns the
peer's address; the bytes that a peer sends to the listener's address go to a
descriptor handed out for that peer and leave the listener's ring alone. -/
def Owes (h : Path) : Event → Prop
  | .queued _ => True
  | .accept real =>
      let h' := h.step (.accept real)
      ∀ l ∈ h.listener, ∀ first rest, l.acceptQueue = first :: rest →
        (∃ l' ∈ h'.listener, l'.acceptQueue = rest) ∧ real.newFd ∈ h'.handedOut ∧
          real.addr = first.remoteAddr
  | .data sourceIp sourcePort destIp destPort bytes now =>
      let peer := SockAddrIn.ofHost sourceIp sourcePort
      let h' := h.step (.data sourceIp sourcePort destIp destPort bytes now)
      peer ∈ h.peers → h.IsFor destIp destPort → bytes ≠ [] →
        (∃ fd ∈ h.handedOut, Gets h h' fd peer bytes) ∧
          h'.listener.map (·.rxRing.toList) = h.listener.map (·.rxRing.toList)

/-- The path is not used: no connection waits when `Accept` is called, and no byte
comes for the listener from a peer whose connection was queued. -/
def Unused (h : Path) : Event → Prop
  | .queued _ => True
  | .accept _ => ∀ l ∈ h.listener, l.acceptQueue = []
  | .data sourceIp sourcePort destIp destPort bytes _ =>
      SockAddrIn.ofHost sourceIp sourcePort ∈ h.peers → h.IsFor destIp destPort → bytes = []

theorem callAccept_eq (h : Path) (real : RealAccept) : h.callAccept real = h := by
  unfold callAccept after BsdMitmService.accept
  simp

theorem handedOut_step {h : Path} (none : h.handedOut = []) (event : Event) :
    (h.step event).handedOut = [] := by
  cases event with
  | queued request =>
      unfold step queueRequest
      dsimp only
      split
      · split <;> exact none
      · exact none
  | accept real =>
      unfold step
      dsimp only
      rw [callAccept_eq]
      exact none
  | data sourceIp sourcePort destIp destPort bytes now => exact none

theorem owes_iff_unused {h : Path} (none : h.handedOut = []) (event : Event) :
    h.Owes event ↔ h.Unused event := by
  cases event with
  | queued request => exact Iff.rfl
  | accept real =>
      simp only [Owes, Unused, step, callAccept_eq]
      constructor
      · intro owes l known
        cases queue : l.acceptQueue with
        | nil => rfl
        | cons first rest =>
            have out := (owes l known first rest queue).2.1
            rw [none] at out
            cases out
      · intro empty l known first rest queue
        rw [empty l known] at queue
        cases queue
  | data sourceIp sourcePort destIp destPort bytes now =>
      simp only [Owes, Unused, none]
      constructor
      · intro owes known here
        by_contra some
        obtain ⟨⟨fd, out, -⟩, -⟩ := owes known here some
        cases out
      · intro empty known here some
        exact absurd (empty known here) some

/-- A run meets what the accept path owes exactly if it does not use the path. -/
theorem owes_iff_unused_run (bsd : Bsd) (fd : Int) (events : List Event) :
    StepsMeet step Owes (start bsd fd) events ↔ StepsMeet step Unused (start bsd fd) events := by
  have keep : ∀ h event, h.handedOut = [] → (step h event).handedOut = [] :=
    fun h event none => handedOut_step none event
  have same : ∀ h event, h.handedOut = [] → (Owes h event ↔ Unused h event) :=
    fun h event none => owes_iff_unused none event
  have first : (fun h : Path => h.handedOut = []) (start bsd fd) := rfl
  exact stepsMeet_iff keep same first events

def listening : Bsd :=
  { Bsd.init with
    manager := Manager.init.setSocket 3
      { Socket.new .stream .tcp with localAddr := .ofHost 0x0A720001 5000, state := .listening } }

def connectAcceptData : List Event :=
  [.queued ⟨0x0A720002, 50000, 0x0A720001, 5000, 6⟩, .accept ⟨0, 4, .ofHost 0x0A720002 50000⟩,
    .data 0x0A720002 50000 0x0A720001 5000 [7] 0]

/-- The connection stays in the queue and the byte lands in the listener's ring. -/
theorem connectAcceptData_not_owes :
    ¬ StepsMeet step Owes (start listening 3) connectAcceptData ∧
      (connectAcceptData.foldl step (start listening 3)).listener.map
          (fun l => (l.acceptQueue.length, l.rxRing.toList)) =
        some (1, [⟨.ofHost 0x0A720002 50000, [7]⟩]) := by
  refine ⟨?_, by decide +kernel⟩
  intro owes
  have registered : ∃ l ∈ (step (start listening 3)
      (.queued ⟨0x0A720002, 50000, 0x0A720001, 5000, 6⟩)).listener,
      ∃ first rest, l.acceptQueue = first :: rest := by
    refine ⟨_, rfl, _, [], rfl⟩
  obtain ⟨l, known, first, rest, queue⟩ := registered
  have out := (owes.2.1 l known first rest queue).2.1
  revert out
  decide +kernel

end Path

end RyuLdn.BsdAccept
