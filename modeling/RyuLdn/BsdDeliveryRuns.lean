import RyuLdn.BsdDelivery

/-! What a step does to the proxies, and from it what the logs are in every run. -/
namespace RyuLdn.BsdDelivery

open BsdTypes ProtocolTypes ProxySocket ProxySocketManager BsdMitmService BsdBindSteps
open BsdBookkeeping hiding Action step
open BsdSocketOptions hiding Reply Action step Keeps
open BsdRouting hiding step Keeps
open BsdCommands FateLedger RingBuffer LockedProgram Program TransitionSystem
open ProxySocketStream (peeks)

structure Fed (came : Int → List ReceivedPacket) (m m' : Manager) : Prop where
  old : ∀ fd s s', m.sockets.lookup fd = some s → m'.sockets.lookup fd = some s' →
    Grown (came fd) s s'
  new : ∀ fd s', m.sockets.lookup fd = none → m'.sockets.lookup fd = some s' →
    Readable s' ∧ s'.rxRing.toList = refill [] (came fd)

theorem Moves.fed {came : Int → List ReceivedPacket} {m m' : Manager} (moves : Moves came m m') :
    Fed came m m' := by
  refine ⟨?_, moves.new⟩
  intro fd s s' known known'
  obtain ⟨t, found, grown⟩ := moves.old fd s known
  rw [known', Option.some.injEq] at found
  rwa [found]

theorem Fed.of_subset {m m' : Manager}
    (left : ∀ fd s, m'.sockets.lookup fd = some s → m.sockets.lookup fd = some s) :
    Fed nothing m m' := by
  constructor
  · intro fd s s' known known'
    have same := left fd s' known'
    rw [known, Option.some.injEq] at same
    subst same
    exact .refl s
  · intro fd s' none known'
    rw [left fd s' known'] at none
    cases none

theorem Fed.of_closed {m m' : Manager} {gone : Int → Prop} (closed : Closed m m' gone) :
    Fed nothing m m' := by
  refine .of_subset fun fd s known => ?_
  by_cases out : gone fd
  · rw [closed.dropped fd out] at known
    cases known
  · rwa [closed.kept fd out] at known

theorem close_fed (b : Bsd) (fd : Int) :
    (BsdMitmService.close fd).Ensures false b fun _ b' => Fed nothing b.manager b'.manager := by
  unfold BsdMitmService.close
  simp only [ensures_bind, ensures_read]
  split
  · split
    · rw [ensures_bind, ensures_discard, ensures_onManager]
      refine (closeProxySocket_closed b.manager fd).mono ?_
      intro _ m closed
      rw [ensures_bind, ensures_update, ensures_pure]
      exact .of_closed closed
    · rw [ensures_bind, ensures_update, ensures_pure]
      exact (Moves.refl _).fed
  · exact ensures_pure.mpr (Moves.refl _).fed

theorem dropEntries_fed (b : Bsd) (selected : SocketInfo → Bool) :
    (dropEntries selected).Ensures false b fun _ b' => Fed nothing b.manager b'.manager := by
  unfold dropEntries
  simp only [ensures_bind, ensures_read, ensures_update, ensures_onManager]
  exact (closeFds_closed b.manager _).mono fun _ _ closed => .of_closed closed

theorem reset_fed (m : Manager) :
    ProxySocketManager.reset.Ensures false m fun _ m' => Fed nothing m m' := by
  refine (reset_narrows m).mono ?_
  intro _ m' empty
  refine .of_subset fun fd s known => ?_
  have none := empty fd
  rw [options_known known] at none
  cases none

theorem command_fed (b : Bsd) (a : BsdBookkeeping.Action) :
    a.program.Ensures false b fun _ b' =>
      Fed (arrivals b (.command a)) b.manager b'.manager := by
  cases a with
  | socket sessionId type protocol real =>
      rw [BsdBookkeeping.Action.program, ensures_discard]
      unfold BsdMitmService.socket
      split
      · rw [ensures_bind, ensures_update, ensures_pure]
        exact (Moves.refl _).fed
      · exact ensures_pure.mpr (Moves.refl _).fed
  | bind fd addr now =>
      exact ensures_discard.mpr ((bind_command_moves b fd addr now).mono fun _ _ moves => moves.fed)
  | connect fd addr reply =>
      exact ensures_discard.mpr
        ((connect_command_moves b fd addr reply).mono fun _ _ moves => moves.fed)
  | sendTo fd addr bytes =>
      exact ensures_discard.mpr
        ((sendTo_command_moves b fd addr bytes).mono fun _ _ moves => moves.fed)
  | close fd => exact ensures_discard.mpr (close_fed b fd)
  | destroySession sessionId => exact dropEntries_fed b (·.sessionId = sessionId)
  | resetProcessMitmState => exact dropEntries_fed b fun _ => true
  | managerReset => exact ensures_onManager.mpr (reset_fed b.manager)
  | configure localIp sendCallback onConnect onConnectReply onDisconnect =>
      rw [BsdBookkeeping.Action.program, ensures_onManager, ensures_update]
      refine Moves.fed ?_
      exact .of_sockets rfl

structure ReadsOnce (len : Nat) (flags : UInt32) (s : Socket) (r : Socket.Received × Socket) :
    Prop where
  readable : Readable r.2
  outcome :
    (∃ packet source, peeks flags = false ∧ s.rxRing.toList = packet :: r.2.rxRing.toList ∧
        r.1 = .data (packet.data.take len) source) ∨
      r.2.rxRing.toList = s.rxRing.toList ∧
        (peeks flags = true ∨ ∀ bytes source, r.1 ≠ .data bytes source)

theorem consumeFront_readsOnce {s : Socket} (readable : Readable s) {packet : ReceivedPacket}
    (front : s.rxRing.front = some packet) (len : Nat) (flags : UInt32) (wantSource : Bool) :
    ReadsOnce len flags s (s.consumeFront packet len (peeks flags) wantSource) := by
  refine ⟨readable, ?_⟩
  have ring := ProxySocketQueue.History.toList_consumeFront s packet len (peeks flags) wantSource
  rw [Ring.front_eq_head?] at front
  cases peek : peeks flags with
  | true =>
      rw [peek] at ring
      exact Or.inr ⟨ring, Or.inl rfl⟩
  | false =>
      rw [peek] at ring
      refine Or.inl ⟨packet, if wantSource then some packet.source else none, rfl, ?_, rfl⟩
      rw [ring]
      exact (List.cons_head?_tail front).symm

theorem recvFrom_readsOnce {s : Socket} (readable : Readable s) (len : Nat) (flags : UInt32)
    (wantSource : Bool) : ReadsOnce len flags s (s.recvFrom true len flags wantSource) := by
  cases front : s.rxRing.front with
  | some packet =>
      have open_ : ProxySocketQueue.History.admits s true len = true := by
        simp [ProxySocketQueue.History.admits, readable.1, readable.2]
      rw [ProxySocketQueue.History.recvFrom_of_admits open_ front]
      exact consumeFront_readsOnce readable front len flags wantSource
  | none =>
      unfold Socket.recvFrom
      simp only [readable.1, readable.2, front, Bool.not_true, Bool.false_and, Bool.false_eq_true,
        if_false]
      split_ifs <;> exact ⟨readable, Or.inr ⟨rfl, Or.inr (by simp)⟩⟩

theorem recv_readsOnce {s : Socket} (readable : Readable s) (len : Nat) (flags : UInt32) :
    ReadsOnce len flags s (s.recv true len flags) := by
  unfold Socket.recv
  split
  · exact recvFrom_readsOnce readable len flags false
  · exact ⟨readable, Or.inr ⟨rfl, Or.inr (by simp)⟩⟩

theorem resumeRecvFrom_readsOnce {s : Socket} (readable : Readable s) (len : Nat) (flags : UInt32)
    (wantSource : Bool) : ReadsOnce len flags s (s.resumeRecvFrom len flags wantSource) := by
  unfold Socket.resumeRecvFrom
  cases front : s.rxRing.front with
  | some packet => exact consumeFront_readsOnce readable front len flags wantSource
  | none => exact ⟨readable, Or.inr ⟨rfl, Or.inr (by simp)⟩⟩

inductive Effect (b : Bsd) (a : Action) (reply : BsdCommands.Reply) (b' : Bsd) : Prop where
  | fed (moves : Fed (arrivals b a) b.manager b'.manager) (unread : ∀ fd, taken a reply fd = none)
  | read {fd : Int} {s s' : Socket} {packet : ReceivedPacket} {len : Nat}
      (known : b.manager.sockets.lookup fd = some s)
      (manager : b'.manager = b.manager.setSocket fd s') (readable : Readable s')
      (ring : s.rxRing.toList = packet :: s'.rxRing.toList)
      (out : ∀ j, taken a reply j = if j = fd then some (len, packet.data.take len) else none)
      (quiet : arrivals b a = nothing)

theorem taken_of_not_receiving {a : Action} (other : receiving a = none) (reply : BsdCommands.Reply)
    (fd : Int) : taken a reply fd = none := by
  unfold taken
  rw [other]

theorem receive_effect {b : Bsd} {a : Action} {fd : Int} {s : Socket} {len addrSize : Nat}
    {flags : UInt32} {call : Socket → Socket.Received × Socket}
    (asks : receiving a = some (fd, len, flags)) (quiet : arrivals b a = nothing)
    (known : b.manager.sockets.lookup fd = some s) (once : ReadsOnce len flags s (call s)) :
    (receive fd addrSize call s).Ensures false b.manager fun reply m =>
      Effect b a reply { b with manager := m } := by
  unfold receive
  simp only [ensures_bind, ensures_update, ensures_pure]
  rcases once.outcome with ⟨packet, source, consumes, ring, data⟩ | ⟨same, none⟩
  · have out : ∀ j, taken a (.ofReceived addrSize (call s).1) j =
        if j = fd then some (len, packet.data.take len) else none := by
      intro j
      simp only [taken, asks, data, Reply.ofReceived, consumes, and_true, eq_comm]
    exact .read known rfl once.readable ring out quiet
  · refine .fed (quiet ▸ (Moves.setSocket_kept known ⟨fun _ => once.readable, same⟩).fed) ?_
    intro j
    simp only [taken, asks]
    rcases none with peek | none
    · cases Reply.ofReceived addrSize (call s).1 <;> simp [peek]
    · cases result : (call s).1 with
      | data bytes source => exact absurd result (none bytes source)
      | failed errno => rfl
      | blocked => rfl

theorem sendConnected_moves (s : Socket) (bytes : List UInt8) (m : Manager) :
    (sendConnected s bytes).Ensures false m fun _ m' => Moves nothing m m' := by
  unfold sendConnected
  split
  · exact ensures_pure.mpr (.refl m)
  · rw [ensures_bind]
    refine (sendTo_moves m s bytes s.remoteAddr).mono ?_
    intro result m' moved
    exact ensures_pure.mpr moved

theorem fcntl_moves (b : Bsd) (fd cmd : Int) (arg : UInt32) :
    (fcntl fd cmd arg).Ensures false b fun _ b' => Moves nothing b.manager b'.manager := by
  unfold fcntl getProxySocket
  simp only [ensures_bind, ensures_onManager, ensures_withLock, ensures_read]
  cases known : b.manager.sockets.lookup fd with
  | none => exact ensures_pure.mpr (.refl _)
  | some s =>
      dsimp only
      split
      · exact ensures_pure.mpr (.refl _)
      · split
        · simp only [ensures_bind, ensures_onManager, ensures_update, ensures_pure]
          exact .setSocket_kept known ⟨id, rfl⟩
        · exact ensures_pure.mpr (.refl _)

theorem getSockOpt_moves (b : Bsd) (fd level optname : Int) (size : Option Nat) :
    (getSockOpt fd level optname size).Ensures false b
      fun _ b' => Moves nothing b.manager b'.manager := by
  unfold getSockOpt getProxySocket
  simp only [ensures_bind, ensures_onManager, ensures_withLock, ensures_read]
  split <;> exact ensures_pure.mpr (.refl _)

theorem grown_writeOption {s written : Socket} {level optname : Int} {optval : List UInt8}
    (done : writeOption s level optname optval = .ok written) : Grown [] s written := by
  unfold writeOption at done
  split at done
  · split at done
    · rw [← Except.ok.inj done]
      exact ⟨id, rfl⟩
    · cases done
  · rw [← Except.ok.inj done]
    exact .refl s

theorem saveOption_manager (b : Bsd) (fd level optname : Int) (optval : List UInt8) :
    (saveOption b fd level optname optval).manager = b.manager := by
  unfold saveOption
  split
  · split <;> rfl
  · rfl

theorem setSockOpt_moves (b : Bsd) (fd level optname : Int) (optval : List UInt8) :
    (setSockOpt fd level optname optval).Ensures false b
      fun _ b' => Moves nothing b.manager b'.manager := by
  unfold setSockOpt getProxySocket
  simp only [ensures_bind, ensures_onManager, ensures_withLock, ensures_read]
  cases known : b.manager.sockets.lookup fd with
  | none =>
      simp only [ensures_bind, ensures_update, ensures_pure, saveOption_manager]
      exact .refl _
  | some s =>
      dsimp only
      cases done : writeOption s level optname optval with
      | error errno => exact ensures_pure.mpr (.refl _)
      | ok written =>
          simp only [ensures_bind, ensures_onManager, ensures_update, ensures_pure]
          exact .setSocket_kept known (grown_writeOption done)

theorem call_effect {b : Bsd} {fd : Int} (c : Command)
    (readable : ∀ j s, b.manager.sockets.lookup j = some s → Readable s) :
    (c.program fd).Ensures false b fun reply b' => Effect b (.call fd c) reply b' := by
  have steady : ∀ {reply : BsdCommands.Reply} {b' : Bsd}, receives c = none →
      Moves nothing b.manager b'.manager → Effect b (.call fd c) reply b' := by
    intro reply b' other moved
    refine .fed moved.fed (taken_of_not_receiving ?_ reply)
    rw [receiving, other, Option.map_none]
  have idle : Effect b (.call fd c) .forwarded b := by
    refine .fed (Moves.refl _).fed fun j => ?_
    unfold taken
    split <;> simp_all
  cases c with
  | send bytes =>
      exact onMarked_ensures idle fun s _ =>
        (sendConnected_moves s bytes b.manager).mono fun _ _ moved => steady rfl moved
  | write bytes =>
      exact onMarked_ensures idle fun s _ =>
        (sendConnected_moves s bytes b.manager).mono fun _ _ moved => steady rfl moved
  | sendTo addr bytes =>
      simp only [Command.program, ensures_bind]
      exact (sendTo_command_moves b fd addr bytes).mono fun _ _ moved =>
        ensures_pure.mpr (steady rfl moved)
  | recv len flags =>
      exact onMarked_ensures idle fun s known =>
        receive_effect rfl rfl known (recv_readsOnce (readable fd s known) len flags)
  | read len =>
      exact onMarked_ensures idle fun s known =>
        receive_effect rfl rfl known (recv_readsOnce (readable fd s known) len 0)
  | recvFrom len flags addrSize =>
      exact onMarked_ensures idle fun s known =>
        receive_effect rfl rfl known (recvFrom_readsOnce (readable fd s known) len flags true)
  | getPeerName addrSize =>
      exact onProxy_ensures idle fun _ _ => ensures_pure.mpr (steady rfl (.refl _))
  | getSockName addrSize =>
      exact onProxy_ensures idle fun _ _ => ensures_pure.mpr (steady rfl (.refl _))
  | ioctl request size =>
      exact onProxy_ensures idle fun _ _ => ensures_pure.mpr (steady rfl (.refl _))
  | fcntl cmd arg =>
      simp only [Command.program, ensures_bind]
      exact (fcntl_moves b fd cmd arg).mono fun _ _ moved => ensures_pure.mpr (steady rfl moved)
  | getSockOpt level optname size =>
      simp only [Command.program, ensures_bind]
      exact (getSockOpt_moves b fd level optname size).mono fun _ _ moved =>
        ensures_pure.mpr (steady rfl moved)
  | setSockOpt level optname optval =>
      simp only [Command.program, ensures_bind]
      exact (setSockOpt_moves b fd level optname optval).mono fun _ _ moved =>
        ensures_pure.mpr (steady rfl moved)
  | forwardedOnly => exact ensures_pure.mpr idle

theorem answered_effect {b : Bsd} (a : Action)
    (readable : ∀ j s, b.manager.sockets.lookup j = some s → Readable s) :
    (answered a).Ensures false b fun reply b' => Effect b a reply b' := by
  cases a with
  | command c =>
      simp only [answered, BsdRouting.Action.program, ensures_bind, ensures_pure]
      exact (command_fed b c).mono fun _ _ moved => .fed moved (taken_of_not_receiving rfl _)
  | call fd c => exact call_effect c readable
  | resume fd len flags addrSize wantSource =>
      refine onProxy_ensures (.fed (Moves.refl _).fed fun _ => rfl) fun s known => ?_
      exact receive_effect rfl rfl known
        (resumeRecvFrom_readsOnce (readable fd s known) len flags wantSource)
  | incomingData info protocol data now =>
      simp only [answered, BsdRouting.Action.program, ensures_bind, ensures_discard,
        ensures_onManager, ensures_pure]
      exact (routeIncomingData_moves b.manager info protocol data now).mono
        fun _ _ moved => .fed moved.fed (taken_of_not_receiving rfl _)
  | connectRequest request =>
      simp only [answered, BsdRouting.Action.program, ensures_bind, ensures_discard,
        ensures_onManager, ensures_pure]
      exact (routeConnectRequest_moves b.manager request).mono
        fun _ _ moved => .fed moved.fed (taken_of_not_receiving rfl _)
  | connectResponse response =>
      simp only [answered, BsdRouting.Action.program, ensures_bind, ensures_discard,
        ensures_onManager, ensures_pure]
      exact (routeConnectResponse_moves b.manager response).mono
        fun _ _ moved => .fed moved.fed (taken_of_not_receiving rfl _)

theorem live_addBounded_eq {l : Ledger ReceivedPacket Fate}
    (short : (live l).length ≤ maxQueueSize) (x : ReceivedPacket) :
    live (addBounded maxQueueSize .dropped l x) = mostRecent maxQueueSize (live l ++ [x]) := by
  rw [live_addBounded, mostRecent, List.length_append, List.length_singleton]
  split
  · rename_i full
    have one : (live l).length + 1 - maxQueueSize = 1 := by omega
    have some : 1 ≤ (live l).length := le_trans (by decide) full
    rw [one, List.drop_append_of_le_length some, List.drop_one]
  · rename_i room
    have none : (live l).length + 1 - maxQueueSize = 0 := by omega
    rw [none, List.drop_zero]

structure Kept (log : Log) (waiting : List ReceivedPacket) : Prop where
  short : waiting.length ≤ maxQueueSize
  live : waiting = live log.ledger
  ordered : Ordered log.ledger
  got : log.got = outcomes bytesRead log.ledger

namespace Kept

theorem empty : Kept .empty [] := ⟨Nat.zero_le _, rfl, ordered_nil, rfl⟩

theorem arrive {log : Log} {waiting : List ReceivedPacket} (kept : Kept log waiting)
    (packets : List ReceivedPacket) : Kept (log.arrive packets) (refill waiting packets) := by
  induction packets generalizing log waiting with
  | nil => exact kept
  | cons packet packets ih =>
      have short : (FateLedger.live log.ledger).length ≤ maxQueueSize := kept.live ▸ kept.short
      have first : Kept ⟨addBounded maxQueueSize .dropped log.ledger packet, log.got⟩
          (mostRecent maxQueueSize (waiting ++ [packet])) := by
        refine ⟨?_, ?_, kept.ordered.addBounded _ _ _, ?_⟩
        · rw [mostRecent, List.length_drop]
          omega
        · rw [live_addBounded_eq short, kept.live]
        · rw [outcomes_addBounded bytesRead kept.ordered (fun _ => rfl), kept.got]
      exact ih first

theorem take {log : Log} {packet : ReceivedPacket} {waiting : List ReceivedPacket}
    (kept : Kept log (packet :: waiting)) (len : Nat) :
    Kept (log.take len (packet.data.take len)) waiting := by
  refine ⟨?_, ?_, kept.ordered.settleOldest _, ?_⟩
  · exact le_trans (Nat.le_succ _) kept.short
  · rw [Log.take, live_settleOldest, ← kept.live, List.tail_cons]
  · rw [Log.take, kept.got, outcomes_settleOldest bytesRead kept.ordered kept.live.symm]
    rfl

end Kept

def Sound (t : Tracked) : Prop :=
  ∀ fd s, t.bsd.manager.sockets.lookup fd = some s → Readable s ∧ Kept (t.logs fd) s.rxRing.toList

theorem sound_init : Sound .init := by
  intro fd s known
  simp [Tracked.init, Bsd.init, Manager.init] at known

theorem sound_step {t t' : Tracked} {a : Action} (moved : step t a = some t') (sound : Sound t) :
    Sound t' := by
  obtain ⟨⟨reply, b'⟩, done, rfl⟩ := Option.map_eq_some_iff.mp moved
  intro fd s' known'
  show Readable s' ∧ Kept (note t a reply fd) s'.rxRing.toList
  cases answered_effect a (fun j s known => (sound j s known).1) reply b' done with
  | fed moves unread =>
      simp only [note, unread fd]
      cases known : t.bsd.manager.sockets.lookup fd with
      | none =>
          obtain ⟨readable, ring⟩ := moves.new fd s' known known'
          have absent : fd ∉ t.bsd.manager.sockets := AList.lookup_eq_none.mp known
          rw [if_neg absent, ring]
          exact ⟨readable, Kept.empty.arrive _⟩
      | some s =>
          have grown := moves.old fd s s' known known'
          obtain ⟨readable, kept⟩ := sound fd s known
          rw [if_pos (mem_sockets known), grown.ring]
          exact ⟨grown.readable readable, kept.arrive _⟩
  | @read j s last packet len known manager readable ring out quiet =>
      simp only [note, out fd, quiet]
      rw [manager] at known'
      by_cases own : fd = j
      · subst own
        rw [Manager.lookup_setSocket, Option.some.injEq] at known'
        subst known'
        rw [if_pos rfl, if_pos (mem_sockets known)]
        have kept := (sound fd s known).2
        rw [ring] at kept
        exact ⟨readable, kept.take len⟩
      · rw [Manager.lookup_setSocket_ne _ own] at known'
        rw [if_neg own, if_pos (mem_sockets known')]
        exact sound fd s' known'

/-- Whatever commands, packets and receive calls come in any order: what the game has got
from a descriptor are the datagrams handed to its proxy, each once and in their order, cut
to the buffers it gave; what is missing waits in the ring or was pushed out of it by newer
ones. A descriptor that is used again starts with nothing. -/
theorem reads_accounted {t : Tracked} {actions : List Action}
    (steps : run step .init actions = some t) : Accounted t := by
  have sound : Sound t := run_invariant Sound sound_step steps sound_init
  intro fd s known
  obtain ⟨-, kept⟩ := sound fd s known
  exact ⟨kept.live, kept.got⟩

/-- Two datagrams come for a bound socket; one is looked at and then read into a buffer that
is too small, the other read whole, and a third waits when the game has stopped reading. -/
def twoRead : List Action :=
  [.command (.socket 1 2 0 ⟨true, 0, 3⟩), .command (.bind 3 (some (.ofHost 0x0A720001 50000)) 0),
    .incomingData ⟨0x0A720002, 6000, 0x0A720001, 50000, 17⟩ .udp [1, 2, 3] 0,
    .incomingData ⟨0x0A720002, 6000, 0x0A720001, 50000, 17⟩ .udp [4, 5] 0,
    .call 3 (.recvFrom 8 2 16), .call 3 (.recvFrom 2 0 16), .resume 3 8 0 16 true,
    .incomingData ⟨0x0A720002, 6000, 0x0A720001, 50000, 17⟩ .udp [6] 0]

theorem twoRead_runs : (run step .init twoRead).isSome = true := by decide +kernel

theorem reads_accounted_twoRead : Accounted ((run step .init twoRead).get twoRead_runs) :=
  reads_accounted (Option.some_get _).symm

/-- A buffer that is too small loses the end of a datagram; the next call has the next one. -/
example : (run step .init [.command (.socket 1 2 0 ⟨true, 0, 3⟩),
      .command (.bind 3 (some (.ofHost 0x0A720001 50000)) 0),
      .incomingData ⟨0x0A720002, 6000, 0x0A720001, 50000, 17⟩ .udp [1, 2, 3] 0,
      .incomingData ⟨0x0A720002, 6000, 0x0A720001, 50000, 17⟩ .udp [4, 5] 0,
      .call 3 (.recvFrom 2 0 16), .call 3 (.recvFrom 8 0 16)]).map (fun t => (t.logs 3).got) =
    some [[1, 2], [4, 5]] := by decide +kernel

end RyuLdn.BsdDelivery
