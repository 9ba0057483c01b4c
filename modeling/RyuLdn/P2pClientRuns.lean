import RyuLdn.HandleLedger
import RyuLdn.P2pClient

/-! Runs of one `P2pProxyClient`: which descriptors it loses, what `IsReady` promises
while calls and the receive thread interleave, and that `Disconnect` comes back. -/
namespace RyuLdn.P2pClient

open HandleLedger ProtocolTypes StreamReassembly TransitionSystem

def move (st : State) (a : Action) : State := (step st a).getD st

def ledger (st : State) : Ledger Unit Nat := ⟨st.opened, st.closed, fun _ => st.client.socketFd⟩

/-- Every descriptor `socket` returned is closed, or is the one in `m_socket_fd`. -/
def NoLeak (st : State) : Prop := Balanced (ledger st)

/-- The kernel does not hand out a descriptor that is open. -/
def FreshDescriptor (st : State) : Action → Prop
  | .connect _ _ (some fd) _ _ => st.opened.count fd = st.closed.count fd
  | _ => True

instance (st : State) : ∀ a, Decidable (FreshDescriptor st a)
  | .connect _ _ fd _ _ => by
      unfold FreshDescriptor
      cases fd <;> infer_instance
  | .connectResumes .. | .disconnect _ | .dispose | .threadJoined _ | .disconnectResumes _
  | .performAuth .. | .send .. | .ensureProxyReady _ | .readyWaitEnds _ | .recvLoop | .recv _
  | .process | .recvThreadExits => isTrue trivial

/-- `Connect` gets to `socket` with the descriptor of an earlier connection in `m_socket_fd`. -/
def OverwritesDescriptor (st : State) : Action → Prop
  | .connect caller ipLen _ _ _ =>
      st.isFree caller = true ∧ passesChecks st ipLen = true ∧ st.client.socketFd.isSome = true
  | _ => False

instance (st : State) : ∀ a, Decidable (OverwritesDescriptor st a)
  | .connect .. => inferInstanceAs (Decidable (_ ∧ _))
  | .connectResumes .. | .disconnect _ | .dispose | .threadJoined _ | .disconnectResumes _
  | .performAuth .. | .send .. | .ensureProxyReady _ | .readyWaitEnds _ | .recvLoop | .recv _
  | .process | .recvThreadExits => isFalse id

inductive DescriptorStep (st : State) (a : Action) (next : State) : Prop where
  | keeps (same : ledger next = ledger st) (mild : ¬ OverwritesDescriptor st a)
  | closes (back : ledger next = ⟨st.opened, st.closed ++ st.client.socketFd.toList, fun _ => none⟩)
      (mild : ¬ OverwritesDescriptor st a)
  | opens {caller : Nat} {ipLen fd : Option Nat} {handshake : Handshake} {threadCreated : Bool}
      (call : a = .connect caller ipLen fd handshake threadCreated)
      (free : st.isFree caller = true) (passes : passesChecks st ipLen = true)
      (out : ledger next = ⟨st.opened ++ fd.toList, st.closed, fun _ => fd⟩ ∨
        ∃ f, fd = some f ∧ ledger next = ⟨st.opened ++ [f], st.closed ++ [f], fun _ => none⟩)

theorem startReceiving_ledger (st : State) (threadCreated : Bool) :
    ledger (st.startReceiving threadCreated) = ledger st ∨
      ledger (st.startReceiving threadCreated) =
        ⟨st.opened, st.closed ++ st.client.socketFd.toList, fun _ => none⟩ := by
  rw [State.startReceiving]
  split
  · exact Or.inl rfl
  · exact Or.inr rfl

theorem connect_descriptorStep {st : State} {caller : Nat} (free : st.isFree caller = true)
    (ipLen fd : Option Nat) (handshake : Handshake) (threadCreated : Bool) :
    DescriptorStep st (.connect caller ipLen fd handshake threadCreated)
      (st.connect caller ipLen fd handshake threadCreated) := by
  rw [State.connect]
  split
  · rename_i passes
    refine .opens rfl free passes ?_
    cases fd with
    | none => exact Or.inl rfl
    | some f =>
        cases handshake with
        | failed => exact Or.inr ⟨f, rfl, rfl⟩
        | inProgress => exact Or.inl rfl
        | established =>
            rcases startReceiving_ledger (st.openSocket (some f)) threadCreated with same | back
            · exact Or.inl same
            · exact Or.inr ⟨f, rfl, back⟩
  · rename_i refused
    refine .keeps rfl ?_
    rintro ⟨_, passes, _⟩
    exact refused passes

theorem disconnect_ledger (st : State) (caller : Nat) :
    ledger (st.disconnect caller) = ledger st ∨
      ledger (st.disconnect caller) = ⟨st.opened, st.closed ++ st.client.socketFd.toList, fun _ => none⟩ := by
  rw [State.disconnect]
  split
  · exact Or.inl rfl
  · right
    dsimp only
    split <;> rfl

theorem processTurn_ledger (st : State) : ledger st.processTurn = ledger st := by
  have handled : ∀ packet, (st.client.handle packet).socketFd = st.client.socketFd := by
    intro packet
    rw [Client.handle]
    split <;> rfl
  rw [State.processTurn]
  split
  · split
    · split <;> rfl
    · simp [ledger, handled]
  · rfl

theorem receive_ledger (st : State) (chunk : List UInt8) : ledger (st.receive chunk) = ledger st := by
  rw [State.receive]
  split <;> rfl

theorem write_ledger (st : State) (packet : List UInt8) (taken : Option Nat) :
    ledger (st.write packet taken) = ledger st := by
  rw [State.write]
  split <;> rfl

theorem step_descriptorStep {st next : State} {a : Action} (taken : step st a = some next) :
    DescriptorStep st a next := by
  have kept : ∀ {n : State}, ledger n = ledger st → (¬ OverwritesDescriptor st a) →
      DescriptorStep st a n := fun same mild => .keeps same mild
  cases a <;> simp only [step, Option.some.injEq, Option.ite_none_right_eq_some] at taken
  case connect caller ipLen fd handshake threadCreated =>
    obtain ⟨free, rfl⟩ := taken
    exact connect_descriptorStep free ipLen fd handshake threadCreated
  case connectResumes caller fdToPoll established threadCreated =>
    obtain ⟨_, rfl⟩ := taken
    rw [State.finishConnect]
    split
    · exact kept rfl id
    · split
      · rcases startReceiving_ledger (st.resume caller) threadCreated with same | back
        · exact kept same id
        · exact .closes back id
      · exact .closes rfl id
  case disconnect caller =>
    obtain ⟨_, rfl⟩ := taken
    rcases disconnect_ledger st caller with same | back
    · exact kept same id
    · exact .closes back id
  case dispose =>
    subst taken
    exact kept rfl id
  case threadJoined caller =>
    obtain ⟨_, rfl⟩ := taken
    exact kept rfl id
  case disconnectResumes caller =>
    obtain ⟨_, rfl⟩ := taken
    exact kept rfl id
  case performAuth config amount =>
    subst taken
    refine kept ?_ id
    split
    · exact write_ledger st _ _
    · rfl
  case send packet amount =>
    subst taken
    refine kept ?_ id
    split
    · exact write_ledger st _ _
    · rfl
  case ensureProxyReady caller =>
    obtain ⟨_, taken⟩ := taken
    refine kept ?_ id
    split at taken
    · cases taken
      rfl
    · split at taken <;> cases taken <;> rfl
  case readyWaitEnds caller =>
    obtain ⟨_, rfl⟩ := taken
    exact kept rfl id
  case recvLoop =>
    obtain ⟨_, rfl⟩ := taken
    exact kept rfl id
  case recv chunk =>
    split at taken
    · obtain ⟨_, ⟨⟩⟩ := Option.ite_none_right_eq_some.mp taken
      exact kept (receive_ledger st _) id
    · cases taken
      exact kept rfl id
    · cases taken
  case process =>
    obtain ⟨_, rfl⟩ := taken
    exact kept (processTurn_ledger st) id
  case recvThreadExits =>
    obtain ⟨_, rfl⟩ := taken
    refine kept ?_ id
    rw [State.exitReceiving]
    simp only [ledger]
    split <;> rfl

theorem move_eq_of_none {st : State} {a : Action} (refused : step st a = none) :
    move st a = st := by
  rw [move, refused, Option.getD_none]

theorem not_overwrites_of_none {st : State} {a : Action} (refused : step st a = none) :
    ¬ OverwritesDescriptor st a := by
  cases a <;> simp_all [step, OverwritesDescriptor]

theorem move_eq_of_some {st next : State} {a : Action} (taken : step st a = some next) :
    move st a = next := by
  rw [move, taken, Option.getD_some]

/-- The descriptor in `m_socket_fd` is open, and none is closed more often than opened. -/
structure HeldIsOpen (l : Ledger Unit Nat) : Prop where
  held : ∀ fd, l.holder () = some fd → l.given.count fd = l.returned.count fd + 1
  bounded : ∀ fd, l.returned.count fd ≤ l.given.count fd

theorem heldIsOpen_init : HeldIsOpen (ledger init) where
  held := by simp [ledger, init]
  bounded := by simp [ledger, init]

theorem HeldIsOpen.closed {st : State} (open_ : HeldIsOpen (ledger st)) :
    HeldIsOpen ⟨st.opened, st.closed ++ st.client.socketFd.toList, fun _ => none⟩ := by
  refine ⟨by simp, ?_⟩
  intro fd
  have bounded := open_.bounded fd
  cases holds : st.client.socketFd with
  | none => simpa [ledger] using bounded
  | some f =>
      have one := open_.held f holds
      simp only [ledger] at one bounded
      rw [Option.toList_some, List.count_append, List.count_singleton]
      split
      · rename_i same
        obtain rfl := beq_iff_eq.mp same
        exact one.ge
      · exact bounded

theorem HeldIsOpen.opened {st : State} (open_ : HeldIsOpen (ledger st)) {fd : Option Nat}
    (new : ∀ f, fd = some f → st.opened.count f = st.closed.count f) :
    HeldIsOpen ⟨st.opened ++ fd.toList, st.closed, fun _ => fd⟩ := by
  cases fd with
  | none => exact ⟨by simp, by simpa [ledger] using open_.bounded⟩
  | some f =>
      have back := new f rfl
      refine ⟨?_, ?_⟩
      · rintro g ⟨⟩
        simp [back]
      · intro g
        have bounded := open_.bounded g
        simp only [ledger] at bounded
        simp only [Option.toList_some, List.count_append]
        omega

theorem HeldIsOpen.bounced {st : State} (open_ : HeldIsOpen (ledger st)) (f : Nat) :
    HeldIsOpen ⟨st.opened ++ [f], st.closed ++ [f], fun _ => none⟩ := by
  refine ⟨by simp, ?_⟩
  intro g
  have bounded := open_.bounded g
  simp only [ledger] at bounded
  simp only [List.count_append]
  omega

theorem heldIsOpen_move (st : State) (a : Action) (open_ : HeldIsOpen (ledger st))
    (fresh : FreshDescriptor st a) : HeldIsOpen (ledger (move st a)) := by
  cases taken : step st a with
  | none =>
      rw [move_eq_of_none taken]
      exact open_
  | some next =>
      rw [move_eq_of_some taken]
      rcases step_descriptorStep taken with ⟨same, _⟩ | ⟨back, _⟩ | ⟨rfl, -, -, out⟩
      · rw [same]
        exact open_
      · rw [back]
        exact open_.closed
      · rename_i fd _ _
        have new : ∀ f, fd = some f → st.opened.count f = st.closed.count f := by
          rintro f rfl
          exact fresh
        rcases out with out | ⟨f, rfl, out⟩
        · rw [out]
          exact open_.opened new
        · rw [out]
          exact open_.bounced f

theorem noLeak_init : NoLeak init where
  held := by simp [ledger, init]
  idle := by simp [ledger, init]
  unique := by simp

theorem NoLeak.opened {st : State} (noLeak : NoLeak st) (empty : st.client.socketFd = none)
    {fd : Option Nat} (new : ∀ f, fd = some f → st.opened.count f = st.closed.count f) :
    Balanced (⟨st.opened ++ fd.toList, st.closed, fun _ => fd⟩ : Ledger Unit Nat) := by
  cases fd with
  | none =>
      have same : (⟨st.opened ++ [], st.closed, fun _ => none⟩ : Ledger Unit Nat) = ledger st := by
        simp [ledger, empty]
      rw [Option.toList_none, same]
      exact noLeak
  | some f =>
      have out := Balanced.giveOut (l := ledger st) noLeak (k := ()) empty (new f rfl)
      have holder : Function.update (ledger st).holder () (some f) = fun _ => some f :=
        funext fun _ => Function.update_self ..
      rwa [holder] at out

theorem NoLeak.bounced {st : State} (noLeak : NoLeak st) (empty : st.client.socketFd = none)
    (f : Nat) :
    Balanced (⟨st.opened ++ [f], st.closed ++ [f], fun _ => none⟩ : Ledger Unit Nat) := by
  have out := Balanced.bounce (l := ledger st) noLeak f
  have holder : (ledger st).holder = fun _ => none := funext fun _ => empty
  rwa [holder] at out

theorem NoLeak.closed {st : State} (noLeak : NoLeak st) :
    Balanced (⟨st.opened, st.closed ++ st.client.socketFd.toList, fun _ => none⟩ :
      Ledger Unit Nat) := by
  have back := Balanced.giveBack (l := ledger st) noLeak ()
  have holder : Function.update (ledger st).holder () none = fun _ => none :=
    funext fun _ => Function.update_self ..
  rwa [holder] at back

theorem not_noLeak_of_overwritten {st next : State} (open_ : HeldIsOpen (ledger st)) {f : Nat}
    (held : st.client.socketFd = some f) {fd : Option Nat}
    (new : ∀ g, fd = some g → st.opened.count g = st.closed.count g)
    (out : ledger next = ⟨st.opened ++ fd.toList, st.closed, fun _ => fd⟩ ∨
      ∃ g, fd = some g ∧ ledger next = ⟨st.opened ++ [g], st.closed ++ [g], fun _ => none⟩) :
    ¬ NoLeak next := by
  intro noLeak
  have one := open_.held f held
  simp only [ledger] at one
  have apart : fd ≠ some f := by
    rintro rfl
    have back := new f rfl
    omega
  have idle := Balanced.idle noLeak f
  rcases out with out | ⟨g, rfl, out⟩
  · rw [out] at idle
    have back := idle (fun _ => apart)
    simp only [List.count_append] at back
    omega
  · rw [out] at idle
    have back := idle (by simp)
    simp only [List.count_append] at back
    omega

theorem noLeak_move_iff (st : State) (a : Action) (open_ : HeldIsOpen (ledger st))
    (fresh : FreshDescriptor st a) (noLeak : NoLeak st) :
    NoLeak (move st a) ↔ ¬ OverwritesDescriptor st a := by
  cases taken : step st a with
  | none =>
      rw [move_eq_of_none taken]
      exact iff_of_true noLeak (not_overwrites_of_none taken)
  | some next =>
      rw [move_eq_of_some taken]
      rcases step_descriptorStep taken with ⟨same, mild⟩ | ⟨back, mild⟩ | ⟨rfl, free, passes, out⟩
      · rw [NoLeak, same]
        exact iff_of_true noLeak mild
      · rw [NoLeak, back]
        exact iff_of_true noLeak.closed mild
      · rename_i fd _ _
        have new : ∀ f, fd = some f → st.opened.count f = st.closed.count f := by
          rintro f rfl
          exact fresh
        cases holds : st.client.socketFd with
        | none =>
            refine iff_of_true ?_ (fun stores => by simp [OverwritesDescriptor, holds] at stores)
            rcases out with out | ⟨f, rfl, out⟩
            · rw [NoLeak, out]
              exact noLeak.opened holds new
            · rw [NoLeak, out]
              exact noLeak.bounced holds f
        | some f =>
            refine iff_of_false (not_noLeak_of_overwritten open_ holds new out) ?_
            exact fun mild => mild ⟨free, passes, by simp [holds]⟩

/-- However the calls and the receive thread interleave, no descriptor is closed twice,
and none is lost exactly as long as `Connect` finds `m_socket_fd` empty. -/
theorem descriptors_kept_iff {actions : List Action}
    (fresh : StepsMeet move FreshDescriptor init actions) :
    (∀ st ∈ visited move init actions, ∀ fd, st.closed.count fd ≤ st.opened.count fd) ∧
      ((∀ st ∈ visited move init actions, NoLeak st) ↔
        StepsMeet move (fun st a => ¬ OverwritesDescriptor st a) init actions) := by
  constructor
  · intro st seen
    exact (visited_of_stepsMeet heldIsOpen_move heldIsOpen_init fresh st seen).bounded
  · have keep (st : State) (a : Action) := heldIsOpen_move st a
    exact visited_iff_stepsMeet_of keep noLeak_move_iff heldIsOpen_init noLeak_init fresh

def hostPacket : List UInt8 := P2pServer.proxyConfigPacket ⟨0x0A720002, 0xFFFF0000⟩

/-- A connection that gets its configuration, up to its `Disconnect`. -/
def untilJoining : List Action :=
  [.connect 0 (some 4) (some 7) .inProgress true, .connectResumes 0 7 true true,
    .ensureProxyReady 0, .recvLoop, .recv (some hostPacket), .process, .readyWaitEnds 0,
    .disconnect 0]

theorem descriptors_kept_iff_untilJoining :
    StepsMeet move FreshDescriptor init untilJoining ∧
      ∀ st ∈ visited move init untilJoining, NoLeak st := by
  have fresh : StepsMeet move FreshDescriptor init untilJoining := by decide
  exact ⟨fresh, (descriptors_kept_iff fresh).2.mpr (by decide)⟩

def PendingCall.isConnecting : PendingCall → Bool
  | .connecting _ => true
  | _ => false

def PendingCall.isDisconnecting : PendingCall → Bool
  | .joining | .joined => true
  | _ => false

structure AtRest (st : State) : Prop where
  socketFd : st.client.socketFd = none
  connected : st.client.connected = false
  ready : st.client.ready = false
  recvThreadCreated : st.client.recvThreadCreated = false
  thread : st.thread = .absent
  idle : ∀ p ∈ st.pending, p.2 = .awaitingReady

instance (st : State) : Decidable (AtRest st) :=
  decidable_of_iff (st.client.socketFd = none ∧ st.client.connected = false ∧
      st.client.ready = false ∧ st.client.recvThreadCreated = false ∧ st.thread = .absent ∧
      ∀ p ∈ st.pending, p.2 = .awaitingReady)
    ⟨fun ⟨a, b, c, d, e, f⟩ => ⟨a, b, c, d, e, f⟩, fun ⟨a, b, c, d, e, f⟩ => ⟨a, b, c, d, e, f⟩⟩

/-- `Connect` only gets past its checks when the last connection is gone. -/
def ConnectsAtRest (st : State) : Action → Prop
  | .connect _ ipLen _ _ _ => passesChecks st ipLen = true → AtRest st
  | _ => True

instance (st : State) : ∀ a, Decidable (ConnectsAtRest st a)
  | .connect .. => inferInstanceAs (Decidable (_ → _))
  | .connectResumes .. | .disconnect _ | .dispose | .threadJoined _ | .disconnectResumes _
  | .performAuth .. | .send .. | .ensureProxyReady _ | .readyWaitEnds _ | .recvLoop | .recv _
  | .process | .recvThreadExits => isTrue trivial

def lastConfig (processed : List (List UInt8)) : Option ProxyConfig :=
  (processed.filterMap configOf).getLast?

def Disconnecting (st : State) : Prop := ∃ p ∈ st.pending, p.2.isDisconnecting = true

def CallersDistinct (st : State) : Prop := ∀ p ∈ st.pending, ∀ q ∈ st.pending, p.1 = q.1 → p = q

theorem CallersDistinct.await {st : State} (distinct : CallersDistinct st) {caller : Nat}
    (free : st.isFree caller = true) (call : PendingCall) : CallersDistinct (st.await caller call) := by
  have unused : ∀ p ∈ st.pending, p.1 ≠ caller := by simpa [State.isFree] using free
  intro p memberP q memberQ same
  simp only [State.await, List.mem_cons] at memberP memberQ
  rcases memberP with rfl | memberP <;> rcases memberQ with rfl | memberQ
  · rfl
  · exact absurd same.symm (unused q memberQ)
  · exact absurd same (unused p memberP)
  · exact distinct p memberP q memberQ same

theorem CallersDistinct.resume {st : State} (distinct : CallersDistinct st) (caller : Nat) :
    CallersDistinct (st.resume caller) := by
  intro p memberP q memberQ
  exact distinct p (List.mem_of_mem_filter memberP) q (List.mem_of_mem_filter memberQ)

theorem isFree_resume (st : State) (caller : Nat) : (st.resume caller).isFree caller = true := by
  simp [State.resume, State.isFree]

structure OneConnection (st : State) : Prop where
  callers : CallersDistinct st
  thread : st.thread ≠ .absent → st.client.recvThreadCreated = true
  alive : st.thread ≠ .absent → st.thread ≠ .done → st.client.connected = true
  connected : st.client.connected = true → st.client.recvThreadCreated = true
  created : st.client.recvThreadCreated = true → st.client.socketFd.isSome = true ∨ Disconnecting st
  ready : st.client.ready = true →
    st.client.connected = true ∧ lastConfig st.processed = some st.client.proxyConfig
  connecting : ∀ caller fd, (caller, .connecting fd) ∈ st.pending →
    st.client.recvThreadCreated = false ∧
      (st.client.socketFd = none ∨ st.client.socketFd = some fd) ∧
      ∀ p ∈ st.pending, p.2.isConnecting = true → p.1 = caller
  socket : st.client.socketFd.isSome = true →
    st.client.recvThreadCreated = true ∨ ∃ p ∈ st.pending, p.2.isConnecting = true
  disconnecting : Disconnecting st →
    st.client.socketFd = none ∧ st.client.recvThreadRunning = false
  joined : ∀ caller, (caller, .joined) ∈ st.pending → st.thread = .absent
  descriptor : ∀ fd, st.thread = .receiving (some fd) →
    st.client.socketFd = some fd ∨ st.client.socketFd = none

theorem oneConnection_init : OneConnection init where
  callers := by simp [init, CallersDistinct]
  thread := by simp [init]
  alive := by simp [init]
  connected := by simp [init]
  created := by simp [init]
  ready := by simp [init]
  connecting := by simp [init]
  socket := by simp [init]
  disconnecting := by simp [init, Disconnecting]
  joined := by simp [init]
  descriptor := by simp [init]

theorem AtRest.quiet {st : State} (rest : AtRest st) : ¬ Disconnecting st := by
  rintro ⟨p, member, busy⟩
  rw [rest.idle p member] at busy
  cases busy

theorem AtRest.calm {st : State} (rest : AtRest st) :
    ∀ p ∈ st.pending, p.2.isConnecting = false := by
  intro p member
  rw [rest.idle p member]
  rfl

namespace OneConnection

variable {st : State}

attribute [local grind =] PendingCall.isConnecting PendingCall.isDisconnecting

theorem startReceiving (callers : CallersDistinct st) (quiet : ¬ Disconnecting st)
    (calm : ∀ p ∈ st.pending, p.2.isConnecting = false) (held : st.client.socketFd.isSome = true)
    (absent : st.thread = .absent) (notReady : st.client.ready = false) (threadCreated : Bool) :
    OneConnection (st.startReceiving threadCreated) := by
  rw [State.startReceiving]
  split
  · refine ⟨callers, ?_, ?_, ?_, ?_, ?_, ?_, ?_, ?_, ?_, ?_⟩
    all_goals simp only [Disconnecting] at *
    all_goals grind
  · refine ⟨callers, ?_, ?_, ?_, ?_, ?_, ?_, ?_, ?_, ?_, ?_⟩
    all_goals simp only [State.closeSocket, Disconnecting] at *
    all_goals grind

theorem connect (one : OneConnection st) {caller : Nat} (free : st.isFree caller = true)
    {ipLen fd : Option Nat} {handshake : Handshake} {threadCreated : Bool}
    (rests : passesChecks st ipLen = true → AtRest st) :
    OneConnection (st.connect caller ipLen fd handshake threadCreated) := by
  rw [State.connect]
  split
  · rename_i passes
    have rest := rests passes
    have quiet := rest.quiet
    have calm := rest.calm
    have callers := one.callers
    obtain ⟨noSocket, down, notReady, uncreated, absent, idle⟩ := rest
    cases fd with
    | none =>
        refine ⟨callers, ?_, ?_, ?_, ?_, ?_, ?_, ?_, ?_, ?_, ?_⟩
        all_goals simp only [State.openSocket, Disconnecting] at *
        all_goals grind
    | some f =>
        cases handshake with
        | established =>
            have held : (st.openSocket (some f)).client.socketFd.isSome = true := rfl
            exact @OneConnection.startReceiving (st.openSocket (some f)) callers quiet calm held
              absent notReady threadCreated
        | failed =>
            refine ⟨callers, ?_, ?_, ?_, ?_, ?_, ?_, ?_, ?_, ?_, ?_⟩
            all_goals simp only [State.openSocket, State.closeSocket, Disconnecting] at *
            all_goals grind
        | inProgress =>
            refine ⟨callers.await free _, ?_, ?_, ?_, ?_, ?_, ?_, ?_, ?_, ?_, ?_⟩
            all_goals simp only [State.openSocket, State.await, Disconnecting, List.mem_cons,
              exists_eq_or_imp] at *
            all_goals grind
  · exact one

theorem connectResumes (one : OneConnection st) {caller f : Nat}
    (called : (caller, .connecting f) ∈ st.pending) (established threadCreated : Bool) :
    OneConnection ((st.resume caller).finishConnect f established threadCreated) := by
  obtain ⟨uncreated, socket, alone⟩ := one.connecting caller f called
  have down : st.client.connected = false := by
    have created := one.connected
    grind
  have notReady : st.client.ready = false := by
    have connected := one.ready
    grind
  have absent : st.thread = .absent := by
    have created := one.thread
    grind
  have calm : ∀ p ∈ (st.resume caller).pending, p.2.isConnecting = false := by
    intro p member
    simp only [State.resume, List.mem_filter] at member
    grind
  have quiet : st.client.socketFd.isSome = true → ¬ Disconnecting (st.resume caller) := by
    rintro held ⟨p, member, busy⟩
    simp only [State.resume, List.mem_filter] at member
    have closed := (one.disconnecting ⟨p, member.1, busy⟩).1
    simp [closed] at held
  have callers := one.callers.resume caller
  rw [State.finishConnect]
  split
  · -- a `Disconnect` has closed the descriptor meanwhile
    rename_i gone
    simp only [State.resume] at gone
    have noSocket : st.client.socketFd = none := by grind
    have disconnecting := one.disconnecting
    have joined := one.joined
    refine ⟨callers, ?_, ?_, ?_, ?_, ?_, ?_, ?_, ?_, ?_, ?_⟩
    all_goals simp only [State.resume, Disconnecting] at *
    all_goals grind
  · rename_i here
    simp only [State.resume, ne_eq, not_not] at here
    have held : st.client.socketFd.isSome = true := by simp [here]
    split
    · exact OneConnection.startReceiving callers (quiet held) calm held absent notReady
        threadCreated
    · have still := quiet held
      refine ⟨callers, ?_, ?_, ?_, ?_, ?_, ?_, ?_, ?_, ?_, ?_⟩
      all_goals simp only [State.closeSocket, State.resume, Disconnecting] at *
      all_goals grind

theorem disconnect (one : OneConnection st) {caller : Nat} (free : st.isFree caller = true) :
    OneConnection (st.disconnect caller) := by
  rw [State.disconnect]
  split
  · exact one
  · obtain ⟨callers, thread, alive, connected, created, ready, connecting, socket, disconnecting,
      joined, descriptor⟩ := one
    dsimp only
    split
    · refine ⟨callers.await free _, ?_, ?_, ?_, ?_, ?_, ?_, ?_, ?_, ?_, ?_⟩
      all_goals simp only [State.closeSocket, State.withClient, State.await, Disconnecting,
        List.mem_cons, exists_eq_or_imp] at *
      all_goals grind
    · refine ⟨callers, ?_, ?_, ?_, ?_, ?_, ?_, ?_, ?_, ?_, ?_⟩
      all_goals simp only [State.closeSocket, State.withClient, State.finishDisconnect,
        Disconnecting] at *
      all_goals grind

theorem threadJoined (one : OneConnection st) {caller n : Nat}
    (called : (caller, .joining) ∈ st.pending) :
    OneConnection (State.await { st.resume caller with thread := .absent, destroyed := n }
      caller .joined) := by
  have closed := one.disconnecting ⟨_, called, rfl⟩
  have free := isFree_resume st caller
  have callers := (one.callers.resume caller).await free .joined
  obtain ⟨_, thread, alive, connected, created, ready, connecting, socket, disconnecting, joined,
    descriptor⟩ := one
  refine ⟨callers, ?_, ?_, ?_, ?_, ?_, ?_, ?_, ?_, ?_, ?_⟩
  all_goals simp only [State.resume, State.await, Disconnecting, List.mem_cons,
    exists_eq_or_imp] at *
  all_goals grind

theorem disconnectResumes (one : OneConnection st) {caller : Nat}
    (called : (caller, .joined) ∈ st.pending) :
    OneConnection ((st.resume caller).withClient
      ({ · with recvThreadCreated := false })).finishDisconnect := by
  have closed := one.disconnecting ⟨_, called, rfl⟩
  have absent := one.joined caller called
  have callers := one.callers.resume caller
  obtain ⟨_, thread, alive, connected, created, ready, connecting, socket, disconnecting, joined,
    descriptor⟩ := one
  refine ⟨callers, ?_, ?_, ?_, ?_, ?_, ?_, ?_, ?_, ?_, ?_⟩
  all_goals simp only [State.resume, State.finishDisconnect, State.withClient, Disconnecting] at *
  all_goals grind

theorem same (one : OneConnection st) {next : State} (client : next.client = st.client)
    (thread : next.thread = st.thread) (processed : next.processed = st.processed)
    (callers : CallersDistinct next)
    (pending : ∀ p, p.2 ≠ .awaitingReady → (p ∈ next.pending ↔ p ∈ st.pending)) :
    OneConnection next := by
  have busy : Disconnecting next ↔ Disconnecting st := by
    constructor <;> rintro ⟨p, member, busy⟩ <;> refine ⟨p, ?_, busy⟩ <;> grind
  obtain ⟨_, thread', alive, connected, created, ready, connecting, socket, disconnecting, joined,
    descriptor⟩ := one
  refine ⟨callers, ?_, ?_, ?_, ?_, ?_, ?_, ?_, ?_, ?_, ?_⟩
  all_goals simp only [client, thread, processed, busy]
  all_goals grind

theorem write (one : OneConnection st) (packet : List UInt8) (taken : Option Nat) :
    OneConnection (st.write packet taken) := by
  rw [State.write]
  split
  · exact one.same rfl rfl rfl one.callers fun _ _ => Iff.rfl
  · exact one

theorem continues (one : OneConnection st) (thread : RecvThread) (running : Bool)
    (buffer : PacketBuffer recvBufferSize) (alive : st.thread ≠ .absent ∧ st.thread ≠ .done)
    (lower : running = true → st.client.recvThreadRunning = true)
    (own : ∀ fd, thread = .receiving (some fd) → st.client.socketFd = some fd) :
    OneConnection { st.withClient ({ · with recvThreadRunning := running, recvBuffer := buffer })
      with thread := thread } := by
  obtain ⟨callers, thread', alive', connected, created, ready, connecting, socket, disconnecting,
    joined, descriptor⟩ := one
  refine ⟨callers, ?_, ?_, ?_, ?_, ?_, ?_, ?_, ?_, ?_, ?_⟩
  all_goals simp only [State.withClient, Disconnecting] at *
  all_goals grind

theorem lastConfig_append (processed : List (List UInt8)) (packet : List UInt8) :
    lastConfig (processed ++ [packet]) = (configOf packet).or (lastConfig processed) := by
  rw [lastConfig, List.filterMap_append]
  cases carried : configOf packet with
  | none => simp [carried, lastConfig]
  | some config => simp [carried]

theorem processTurn (one : OneConnection st) (here : st.thread = .processing) :
    OneConnection st.processTurn := by
  have alive : st.thread ≠ .absent ∧ st.thread ≠ .done := by simp [here]
  have on (running : Bool) (lower : running = true → st.client.recvThreadRunning = true) :=
    one.continues .looping running st.client.recvBuffer alive lower (by simp)
  rw [State.processTurn]
  split
  · split
    · split
      · exact on false (by simp)
      · exact on st.client.recvThreadRunning id
    · rename_i packetSize _
      generalize st.client.recvBuffer.bytes.take packetSize = packet
      have up := one.alive alive.1 alive.2
      have carries := lastConfig_append st.processed packet
      obtain ⟨callers, thread, _, connected, created, ready, connecting, socket, disconnecting,
        joined, descriptor⟩ := one
      unfold Client.handle
      cases configOf packet <;> refine ⟨callers, ?_, ?_, ?_, ?_, ?_, ?_, ?_, ?_, ?_, ?_⟩
      all_goals simp only [Disconnecting] at *
      all_goals grind
  · exact on st.client.recvThreadRunning id

theorem receive (one : OneConnection st) {fd : Option Nat} (here : st.thread = .receiving fd)
    (chunk : List UInt8) : OneConnection (st.receive chunk) := by
  have alive : st.thread ≠ .absent ∧ st.thread ≠ .done := by simp [here]
  rw [State.receive]
  split
  · exact one.continues .processing st.client.recvThreadRunning _ alive id (by simp)
  · exact one.continues .looping st.client.recvThreadRunning _ alive id (by simp)

theorem exitReceiving (one : OneConnection st) (here : st.thread = .leaving) :
    OneConnection st.exitReceiving := by
  obtain ⟨callers, thread, alive, connected, created, ready, connecting, socket, disconnecting,
    joined, descriptor⟩ := one
  rw [State.exitReceiving]
  split <;> refine ⟨callers, ?_, ?_, ?_, ?_, ?_, ?_, ?_, ?_, ?_, ?_⟩
  all_goals simp only [Disconnecting] at *
  all_goals grind

theorem dispose (one : OneConnection st) :
    OneConnection (st.withClient ({ · with disposed := true })) := by
  obtain ⟨callers, thread, alive, connected, created, ready, connecting, socket, disconnecting,
    joined, descriptor⟩ := one
  exact ⟨callers, thread, alive, connected, created, ready, connecting, socket, disconnecting, joined,
    descriptor⟩

theorem step {next : State} {a : Action} (one : OneConnection st) (rests : ConnectsAtRest st a)
    (taken : P2pClient.step st a = some next) : OneConnection next := by
  cases a <;>
    simp only [P2pClient.step, Option.some.injEq, Option.ite_none_right_eq_some] at taken
  case connect caller ipLen fd handshake threadCreated =>
    obtain ⟨free, rfl⟩ := taken
    exact one.connect free rests
  case connectResumes caller fdToPoll established threadCreated =>
    obtain ⟨called, rfl⟩ := taken
    exact one.connectResumes called established threadCreated
  case disconnect caller =>
    obtain ⟨free, rfl⟩ := taken
    exact one.disconnect free
  case dispose =>
    subst taken
    exact one.dispose
  case threadJoined caller =>
    obtain ⟨⟨called, _⟩, rfl⟩ := taken
    exact one.threadJoined called
  case disconnectResumes caller =>
    obtain ⟨called, rfl⟩ := taken
    exact one.disconnectResumes called
  case performAuth config amount =>
    subst taken
    split
    · exact one.write _ _
    · exact one
  case send packet amount =>
    subst taken
    split
    · exact one.write _ _
    · exact one
  case ensureProxyReady caller =>
    obtain ⟨free, taken⟩ := taken
    have answered : ∀ answers, OneConnection { st with readyAnswers := answers } :=
      fun _ => one.same rfl rfl rfl one.callers fun _ _ => Iff.rfl
    split at taken
    · cases taken
      exact answered _
    · split at taken <;> cases taken
      · refine one.same rfl rfl rfl (one.callers.await free _) ?_
        rintro p other
        rw [State.await, List.mem_cons, or_iff_right]
        rintro rfl
        exact other rfl
      · exact answered _
  case readyWaitEnds caller =>
    obtain ⟨called, rfl⟩ := taken
    refine one.same rfl rfl rfl (one.callers.resume caller) ?_
    intro p other
    simp only [State.resume, List.mem_filter, and_iff_left_iff_imp, decide_eq_true_eq]
    intro member here
    exact other (by rw [one.callers p member _ called here])
  case recvLoop =>
    obtain ⟨here, rfl⟩ := taken
    have alive : st.thread ≠ .absent ∧ st.thread ≠ .done := by simp [here]
    refine one.continues _ st.client.recvThreadRunning st.client.recvBuffer alive id ?_
    intro fd reads
    split at reads <;> simp_all
  case recv chunk =>
    split at taken
    · rename_i here
      obtain ⟨_, ⟨⟩⟩ := Option.ite_none_right_eq_some.mp taken
      exact one.receive here _
    · rename_i here
      cases taken
      have alive : st.thread ≠ .absent ∧ st.thread ≠ .done := by simp [here]
      exact one.continues .leaving st.client.recvThreadRunning st.client.recvBuffer alive id
        (by simp)
    · cases taken
  case process =>
    obtain ⟨here, rfl⟩ := taken
    exact one.processTurn here
  case recvThreadExits =>
    obtain ⟨here, rfl⟩ := taken
    exact one.exitReceiving here

end OneConnection

abbrev run (st : State) (actions : List Action) : Option State :=
  TransitionSystem.run (guarded (fun st a => decide (ConnectsAtRest st a)) step) st actions

theorem guarded_step {st next : State} {a : Action}
    (taken : guarded (fun st a => decide (ConnectsAtRest st a)) step st a = some next) :
    ConnectsAtRest st a ∧ step st a = some next := by
  rw [guarded_eq_some, decide_eq_true_eq] at taken
  exact taken

theorem oneConnection_run {st next : State} {actions : List Action}
    (steps : run st actions = some next) (one : OneConnection st) : OneConnection next := by
  refine run_invariant OneConnection ?_ steps one
  intro s a t taken one
  obtain ⟨rests, taken⟩ := guarded_step taken
  exact one.step rests taken

structure Consistent (st : State) : Prop where
  /-- `IsReady` holds on a live connection only, and `GetProxyConfig` is the last
  configuration that was processed, by whichever connection's receive thread. -/
  ready : st.client.ready = true →
    st.client.connected = true ∧ lastConfig st.processed = some st.client.proxyConfig
  connected : st.client.connected = true →
    st.client.recvThreadCreated = true ∧ (st.client.socketFd.isSome = true ∨ Disconnecting st)
  descriptor : ∀ fd, st.thread = .receiving (some fd) →
    st.client.socketFd = some fd ∨ st.client.socketFd = none
  released : st.client.socketFd = none → (∀ p ∈ st.pending, p.2 = .awaitingReady) → AtRest st

theorem OneConnection.consistent {st : State} (one : OneConnection st) : Consistent st where
  ready := one.ready
  connected up := ⟨one.connected up, one.created (one.connected up)⟩
  descriptor := one.descriptor
  released closed idle := by
    have quiet : ¬ Disconnecting st := by
      rintro ⟨p, member, busy⟩
      rw [idle p member] at busy
      cases busy
    have uncreated : st.client.recvThreadCreated = false := by
      by_contra created
      rcases one.created (by simpa using created) with held | busy
      · simp [closed] at held
      · exact quiet busy
    have down : st.client.connected = false := by
      by_contra up
      simp [one.connected (by simpa using up)] at uncreated
    refine ⟨closed, down, ?_, uncreated, ?_, idle⟩
    · by_contra set
      simp [(one.ready (by simpa using set)).1] at down
    · by_contra alive
      simp [one.thread alive] at uncreated

/-- As long as each connection is given up before the next is opened, whatever else runs
in between, the object only calls itself ready on a live connection, with the
configuration it processed last, and has no descriptor, thread or readiness left of a
connection it has given up. Unread bytes and the configuration stay. -/
theorem consistent_run {actions : List Action} {st : State} (steps : run init actions = some st) :
    Consistent st :=
  (oneConnection_run steps oneConnection_init).consistent

theorem consistent_run_untilJoining : Consistent ((run init untilJoining).get (by decide)) :=
  consistent_run (Option.some_get _).symm

def Action.isRecvThread : Action → Bool
  | .recvLoop | .recv _ | .process | .recvThreadExits => true
  | _ => false

def RecvThread.stepsLeft : RecvThread → Nat
  | .receiving _ => 4
  | .processing => 3
  | .looping => 2
  | .leaving => 1
  | .done | .absent => 0

theorem recvThread_goes_on (st : State) (left : st.thread.stepsLeft ≠ 0) :
    ∃ a, a.isRecvThread = true ∧ (step st a).isSome = true := by
  cases phase : st.thread with
  | absent | done => simp [phase, RecvThread.stepsLeft] at left
  | looping => exact ⟨.recvLoop, rfl, by simp [step, phase]⟩
  | receiving fd => exact ⟨.recv none, rfl, by simp [step, phase]⟩
  | processing => exact ⟨.process, rfl, by simp [step, phase]⟩
  | leaving => exact ⟨.recvThreadExits, rfl, by simp [step, phase]⟩

theorem threadJoined_isSome {st : State} {caller : Nat} (waits : (caller, .joining) ∈ st.pending)
    (through : st.thread.stepsLeft = 0) : (step st (.threadJoined caller)).isSome = true := by
  have gone : st.thread = .done ∨ st.thread = .absent := by
    cases phase : st.thread <;> simp_all [RecvThread.stepsLeft]
  simp [step, waits, gone]

theorem stepsLeft_step {st next : State} {a : Action} (one : OneConnection st)
    (stopped : Disconnecting st) (rests : ConnectsAtRest st a) (taken : step st a = some next) :
    next.thread.stepsLeft + (if a.isRecvThread then 1 else 0) ≤ st.thread.stepsLeft := by
  obtain ⟨closed, halted⟩ := one.disconnecting stopped
  cases a <;> simp only [step, Option.some.injEq, Option.ite_none_right_eq_some] at taken
  case connect caller ipLen fd handshake threadCreated =>
    obtain ⟨_, rfl⟩ := taken
    have refused : passesChecks st ipLen = false := by
      by_contra passes
      exact (rests (by simpa using passes)).quiet stopped
    simp [State.connect, refused, Action.isRecvThread]
  case connectResumes caller fdToPoll established threadCreated =>
    obtain ⟨_, rfl⟩ := taken
    simp [State.finishConnect, State.resume, closed, Action.isRecvThread]
  case disconnect caller =>
    obtain ⟨_, rfl⟩ := taken
    rw [State.disconnect]
    split
    · simp [Action.isRecvThread]
    · dsimp only
      split <;> simp [Action.isRecvThread, State.await, State.closeSocket, State.withClient,
        State.finishDisconnect]
  case dispose =>
    subst taken
    simp [State.withClient, Action.isRecvThread]
  case threadJoined caller =>
    obtain ⟨_, rfl⟩ := taken
    simp [State.await, RecvThread.stepsLeft, Action.isRecvThread]
  case disconnectResumes caller =>
    obtain ⟨_, rfl⟩ := taken
    simp [State.resume, State.withClient, State.finishDisconnect, Action.isRecvThread]
  case performAuth config amount =>
    subst taken
    split
    · rw [State.write]
      split <;> simp [Action.isRecvThread]
    · simp [Action.isRecvThread]
  case send packet amount =>
    subst taken
    split
    · rw [State.write]
      split <;> simp [Action.isRecvThread]
    · simp [Action.isRecvThread]
  case ensureProxyReady caller =>
    obtain ⟨_, taken⟩ := taken
    split at taken
    · cases taken
      simp [Action.isRecvThread]
    · split at taken <;> cases taken <;> simp [State.await, Action.isRecvThread]
  case readyWaitEnds caller =>
    obtain ⟨_, rfl⟩ := taken
    simp [State.resume, Action.isRecvThread]
  case recvLoop =>
    obtain ⟨here, rfl⟩ := taken
    simp [here, halted, RecvThread.stepsLeft, Action.isRecvThread]
  case recv chunk =>
    split at taken
    · rename_i here
      obtain ⟨_, ⟨⟩⟩ := Option.ite_none_right_eq_some.mp taken
      rw [State.receive]
      split <;> simp [here, RecvThread.stepsLeft, Action.isRecvThread]
    · rename_i here
      cases taken
      simp [here, RecvThread.stepsLeft, Action.isRecvThread]
    · cases taken
  case process =>
    obtain ⟨here, rfl⟩ := taken
    simp [State.processTurn, halted, here, RecvThread.stepsLeft, Action.isRecvThread]
  case recvThreadExits =>
    obtain ⟨here, rfl⟩ := taken
    simp [State.exitReceiving, here, RecvThread.stepsLeft, Action.isRecvThread]

theorem startReceiving_pending (st : State) (threadCreated : Bool) :
    (st.startReceiving threadCreated).pending = st.pending := by
  unfold State.startReceiving
  split <;> rfl

theorem connect_pending (st : State) (caller : Nat) (ipLen fd : Option Nat)
    (handshake : Handshake) (threadCreated : Bool) :
    st.pending ⊆ (st.connect caller ipLen fd handshake threadCreated).pending := by
  unfold State.connect
  split
  · cases fd with
    | none => exact List.Subset.refl _
    | some f =>
        cases handshake with
        | failed => exact List.Subset.refl _
        | inProgress => exact List.subset_cons_self _ _
        | established =>
            dsimp only
            rw [startReceiving_pending]
            exact List.Subset.refl _
  · exact List.Subset.refl _

theorem finishConnect_pending (st : State) (fdToPoll : Nat) (established threadCreated : Bool) :
    (st.finishConnect fdToPoll established threadCreated).pending = st.pending := by
  unfold State.finishConnect
  split
  · rfl
  · split
    · exact startReceiving_pending st threadCreated
    · rfl

theorem disconnect_pending (st : State) (caller : Nat) :
    st.pending ⊆ (st.disconnect caller).pending := by
  unfold State.disconnect
  split
  · exact List.Subset.refl _
  · dsimp only
    split
    · exact List.subset_cons_self _ _
    · exact List.Subset.refl _

theorem write_pending (st : State) (packet : List UInt8) (taken : Option Nat) :
    (st.write packet taken).pending = st.pending := by
  unfold State.write
  split <;> rfl

theorem receive_pending (st : State) (chunk : List UInt8) :
    (st.receive chunk).pending = st.pending := by
  unfold State.receive
  split <;> rfl

theorem processTurn_pending (st : State) : st.processTurn.pending = st.pending := by
  unfold State.processTurn
  split
  · split
    · split <;> rfl
    · rfl
  · rfl

theorem mem_resume {st : State} (distinct : CallersDistinct st) {caller j : Nat}
    {call other : PendingCall} (waits : (caller, call) ∈ st.pending)
    (called : (j, other) ∈ st.pending) (apart : other ≠ call) :
    (caller, call) ∈ (st.resume j).pending := by
  refine List.mem_filter.mpr ⟨waits, ?_⟩
  rw [decide_eq_true_eq]
  rintro rfl
  exact apart (congrArg Prod.snd (distinct _ called _ waits rfl))

theorem joining_step {st next : State} {a : Action} {caller : Nat} (distinct : CallersDistinct st)
    (waits : (caller, .joining) ∈ st.pending) (other : a ≠ .threadJoined caller)
    (taken : step st a = some next) : (caller, .joining) ∈ next.pending := by
  cases a <;> simp only [step, Option.some.injEq, Option.ite_none_right_eq_some] at taken
  case connect j ipLen fd handshake threadCreated =>
    obtain ⟨_, rfl⟩ := taken
    exact connect_pending st j ipLen fd handshake threadCreated waits
  case connectResumes j fdToPoll established threadCreated =>
    obtain ⟨called, rfl⟩ := taken
    rw [finishConnect_pending]
    exact mem_resume distinct waits called (by simp)
  case disconnect j =>
    obtain ⟨_, rfl⟩ := taken
    exact disconnect_pending st j waits
  case dispose =>
    subst taken
    exact waits
  case threadJoined j =>
    obtain ⟨⟨called, _⟩, rfl⟩ := taken
    have apart : caller ≠ j := by
      rintro rfl
      exact other rfl
    exact List.mem_cons_of_mem _ (List.mem_filter.mpr ⟨waits, by simpa using apart⟩)
  case disconnectResumes j =>
    obtain ⟨called, rfl⟩ := taken
    exact mem_resume distinct waits called (by simp)
  case performAuth config amount =>
    subst taken
    split
    · rw [write_pending]
      exact waits
    · exact waits
  case send packet amount =>
    subst taken
    split
    · rw [write_pending]
      exact waits
    · exact waits
  case ensureProxyReady j =>
    obtain ⟨_, taken⟩ := taken
    split at taken
    · cases taken
      exact waits
    · split at taken <;> cases taken
      · exact List.mem_cons_of_mem _ waits
      · exact waits
  case readyWaitEnds j =>
    obtain ⟨called, rfl⟩ := taken
    exact mem_resume distinct waits called (by simp)
  case recvLoop =>
    obtain ⟨_, rfl⟩ := taken
    exact waits
  case recv chunk =>
    split at taken
    · obtain ⟨_, ⟨⟩⟩ := Option.ite_none_right_eq_some.mp taken
      rw [receive_pending]
      exact waits
    · cases taken
      exact waits
    · cases taken
  case process =>
    obtain ⟨_, rfl⟩ := taken
    rw [processTurn_pending]
    exact waits
  case recvThreadExits =>
    obtain ⟨_, rfl⟩ := taken
    exact waits

theorem waiting_run {st next : State} {caller : Nat} {actions : List Action}
    (one : OneConnection st) (waits : (caller, .joining) ∈ st.pending)
    (unjoined : .threadJoined caller ∉ actions) (steps : run st actions = some next) :
    (caller, .joining) ∈ next.pending ∧
      next.thread.stepsLeft + actions.countP Action.isRecvThread ≤ st.thread.stepsLeft := by
  induction actions generalizing st with
  | nil =>
      cases steps
      exact ⟨waits, by simp⟩
  | cons a actions ih =>
      obtain ⟨m, first, rest⟩ := run_cons_eq_some.mp steps
      obtain ⟨rests, taken⟩ := guarded_step first
      rw [List.mem_cons, not_or] at unjoined
      have still := joining_step one.callers waits (Ne.symm unjoined.1) taken
      have closer := stepsLeft_step one ⟨_, waits, rfl⟩ rests taken
      obtain ⟨last, bound⟩ := ih (one.step rests taken) still unjoined.2 rest
      refine ⟨last, ?_⟩
      rw [List.countP_cons]
      omega

/-- Where every `Connect` starts at rest, a `Disconnect` that waits for the receive thread
waits for at most four of its steps, whatever the other threads do meanwhile; until then the thread can take its next step,
and after that the wait is over. -/
theorem disconnect_returns {before later : List Action} {st next : State} {caller : Nat}
    (reached : run init before = some st) (waits : (caller, .joining) ∈ st.pending)
    (steps : run st later = some next) (unjoined : .threadJoined caller ∉ later) :
    later.countP Action.isRecvThread ≤ 4 ∧
      if next.thread.stepsLeft = 0 then (step next (.threadJoined caller)).isSome = true
      else ∃ a, a.isRecvThread = true ∧ (step next a).isSome = true := by
  have one := oneConnection_run reached oneConnection_init
  obtain ⟨still, bound⟩ := waiting_run one waits unjoined steps
  have most : st.thread.stepsLeft ≤ 4 := by
    cases st.thread <;> simp [RecvThread.stepsLeft]
  refine ⟨by omega, ?_⟩
  split
  · exact threadJoined_isSome still (by assumption)
  · exact recvThread_goes_on next (by assumption)

theorem disconnect_returns_untilJoining :
    [Action.process, .recvLoop].countP Action.isRecvThread ≤ 4 ∧
      if ((run init (untilJoining ++ [.process, .recvLoop])).get (by decide)).thread.stepsLeft = 0
      then (step ((run init (untilJoining ++ [.process, .recvLoop])).get (by decide))
        (.threadJoined 0)).isSome = true
      else ∃ a, a.isRecvThread = true ∧
        (step ((run init (untilJoining ++ [.process, .recvLoop])).get (by decide)) a).isSome = true :=
  @disconnect_returns untilJoining _ _ _ 0 (Option.some_get (by decide)).symm (by decide) rfl
    (by decide)

end RyuLdn.P2pClient
