import RyuLdn.HandleLedger
import RyuLdn.P2pServerRuns

/-! The descriptors `accept()` returns in `AcceptLoop`, over whole runs of the server.
A session closes its descriptor in `Disconnect`, and only there; a session that
never registered is in no table, so nobody but its own receive thread disconnects
it. `Stop` is followed past its locked part, up to its return. -/
namespace RyuLdn.P2pDescriptors

open HandleLedger P2pServer P2pServerRuns TransitionSystem

inductive StopPhase where
  | notCalled
  | waiting
  | returned
  deriving DecidableEq

structure Watch where
  state : State
  accepted : List Nat
  accepting : Bool
  stop : StopPhase

inductive Event where
  | action (a : Action)
  | acceptLoopEnds
  | stopReturns
  deriving DecidableEq

def start (masterCallback : Bool) : Watch := ⟨init masterCallback, [], true, .notCalled⟩

def acceptedBy : Action → List Nat
  | .accept fd _ _ => [fd]
  | _ => []

def step (w : Watch) : Event → Option Watch
  | .action a =>
      if acceptedBy a ≠ [] ∧ w.accepting = false then none
      else (P2pServerRuns.step w.state a).map fun next =>
        { w with
          state := next
          accepted := w.accepted ++ acceptedBy a
          stop := if a = .stop ∧ w.state.server.running = true then .waiting else w.stop }
  | .acceptLoopEnds => if w.accepting then some { w with accepting := false } else none
  | .stopReturns =>
      if w.stop = .waiting ∧ w.accepting = false ∧ w.state.server.zombieSessionCount = 0 then
        some { w with stop := .returned }
      else none

def IsRunning : ThreadPhase → Prop
  | .receiving => True
  | .registering _ _ => True
  | _ => False

structure Owns (w : Watch) (s : SessionId) (fd : Nat) : Prop where
  made : s < w.state.server.allocated
  holds : (w.state.server.session s).socketFd = some fd
  running : IsRunning (w.state.thread s)

/-- Every descriptor is closed as often as it was returned, or once less while exactly
one session owns it; after `Stop` there is no such session. -/
structure NoLeak (w : Watch) : Prop where
  accounted : ∀ fd, w.accepted.count fd = w.state.server.closedFds.count fd ∨
    w.accepted.count fd = w.state.server.closedFds.count fd + 1 ∧
      ∃ s, Owns w s fd ∧ ∀ t, (w.state.server.session t).socketFd = some fd → t = s
  stopped : w.stop = .returned →
    ∀ fd, w.accepted.count fd = w.state.server.closedFds.count fd

/-- `accept()` returns a descriptor that is not open. -/
def fresh (w : Watch) : Event → Bool
  | .action (.accept fd _ _) => w.accepted.count fd == w.state.server.closedFds.count fd
  | _ => true

/-- What a step has to meet: a connection within the limit gets a stack slot and a
thread and comes before `Stop`, and `Stop` finds every session whose connection is
still open among the registered ones. -/
def orderly (w : Watch) : Event → Bool
  | .action (.accept _ _ threadCreated) =>
      w.stop == .notCalled &&
        (decide (w.state.server.sessionCount ≥ maxPlayers) ||
          (allocateSessionStackSlot w.state.server.stackUsed).isSome && threadCreated)
  | .action .stop =>
      !w.state.server.running || (List.range w.state.server.allocated).all fun s =>
        (w.state.server.session s).socketFd.isNone || w.state.server.sessions.elem (some s)
  | _ => true

def ledger (accepted : List Nat) (server : Server) : Ledger SessionId Nat :=
  ⟨accepted, server.closedFds, fun s => (server.session s).socketFd⟩

structure Tidy (accepted : List Nat) (server : Server) : Prop where
  balanced : Balanced (ledger accepted server)
  connected : ∀ s fd, (server.session s).socketFd = some fd →
    (server.session s).connected = true ∧ s < server.allocated
  slots : server.sessions.length = maxPlayers

structure Closes (accepted : List Nat) (before after : Server) : Prop where
  tidy : Tidy accepted before → Tidy accepted after
  shrinks : ∀ s fd, (after.session s).socketFd = some fd → (before.session s).socketFd = some fd

section Closes

variable {accepted : List Nat} {server next : Server} {s : SessionId}

theorem Closes.refl (accepted : List Nat) (server : Server) : Closes accepted server server :=
  ⟨id, fun _ _ => id⟩

theorem Closes.trans {middle : Server} (first : Closes accepted server middle)
    (second : Closes accepted middle next) : Closes accepted server next :=
  ⟨fun tidy => second.tidy (first.tidy tidy),
    fun s fd still => first.shrinks s fd (second.shrinks s fd still)⟩

theorem Closes.of_same
    (sockets : ∀ s, (next.session s).socketFd = (server.session s).socketFd ∧
      (next.session s).connected = (server.session s).connected)
    (closedFds : next.closedFds = server.closedFds) (allocated : next.allocated = server.allocated)
    (slots : next.sessions.length = server.sessions.length) : Closes accepted server next := by
  have same : ledger accepted next = ledger accepted server := by
    simp only [ledger, closedFds, sockets]
  refine ⟨?_, ?_⟩
  · intro tidy
    refine ⟨same ▸ tidy.balanced, ?_, slots.trans tidy.slots⟩
    intro s fd still
    rw [(sockets s).1] at still
    rw [(sockets s).2, allocated]
    exact tidy.connected s fd still
  · intro s fd still
    rwa [(sockets s).1] at still

theorem socketFd_disconnect {fromMaster : Bool}
    (closed : server.disconnect s fromMaster = some next) : (next.session s).socketFd = none := by
  rw [Server.disconnect] at closed
  split at closed
  · cases closed
    simp only [Server.modify, Function.update_self]
    rfl
  · cases closed

theorem closes_disconnect {fromMaster : Bool} (closed : server.disconnect s fromMaster = some next) :
    Closes accepted server next := by
  rw [Server.disconnect] at closed
  split at closed
  · cases closed
    have holder : (fun t => ((Function.update server.session s
        ((server.session s).close fromMaster)) t).socketFd) =
          Function.update (fun t => (server.session t).socketFd) s none := by
      funext t
      by_cases same : t = s
      · rw [same, Function.update_self, Function.update_self]
        rfl
      · rw [Function.update_of_ne same, Function.update_of_ne same]
    have still : ∀ t fd, ((Function.update server.session s
        ((server.session s).close fromMaster)) t).socketFd = some fd →
          t ≠ s ∧ (server.session t).socketFd = some fd := by
      intro t fd now
      by_cases same : t = s
      · rw [same, Function.update_self] at now
        cases now
      · rw [Function.update_of_ne same] at now
        exact ⟨same, now⟩
    refine ⟨?_, fun t fd now => (still t fd now).2⟩
    intro tidy
    refine ⟨?_, ?_, tidy.slots⟩
    · have back := tidy.balanced.giveBack s
      rw [ledger]
      simp only [Server.modify]
      rw [holder]
      exact back
    · intro t fd now
      obtain ⟨apart, before⟩ := still t fd now
      simp only [Server.modify]
      rw [Function.update_of_ne apart]
      exact tidy.connected t fd before
  · cases closed

theorem closes_disconnect_getD (accepted : List Nat) (server : Server) (s : SessionId)
    (fromMaster : Bool) : Closes accepted server ((server.disconnect s fromMaster).getD server) := by
  cases closed : server.disconnect s fromMaster with
  | none => exact Closes.refl accepted server
  | some next => exact closes_disconnect closed

theorem closes_modify (accepted : List Nat) (server : Server) (s : SessionId)
    {change : Session → Session}
    (socket : ∀ session, (change session).socketFd = session.socketFd ∧
      (change session).connected = session.connected) :
    Closes accepted server (server.modify s change) := by
  refine Closes.of_same ?_ rfl rfl rfl
  intro t
  have session : (server.modify s change).session =
      Function.update server.session s (change (server.session s)) := rfl
  rw [session]
  by_cases same : t = s
  · rw [same, Function.update_self]
    exact socket _
  · rw [Function.update_of_ne same]
    exact ⟨rfl, rfl⟩

theorem closes_releaseStack (accepted : List Nat) (server : Server) (s : SessionId) (slot : Nat) :
    Closes accepted server
      { server.modify s (fun session => { session with stackSlot := none }) with
        stackUsed := Function.update server.stackUsed slot false } := by
  have modified : Closes accepted server
      (server.modify s (fun session => { session with stackSlot := none })) :=
    closes_modify accepted server s (fun _ => ⟨rfl, rfl⟩)
  exact modified.trans (Closes.of_same (fun _ => ⟨rfl, rfl⟩) rfl rfl rfl)

theorem closes_free (accepted : List Nat) (server : Server) (s : SessionId) :
    Closes accepted server (server.free s) := by
  have recorded : Closes accepted server
      { server with frees := server.frees ++ [(s, (server.session s).threadDone)] } :=
    Closes.of_same (fun _ => ⟨rfl, rfl⟩) rfl rfl rfl
  have closed := recorded.trans (closes_disconnect_getD accepted _ s true)
  rw [Server.free]
  split
  · exact closed
  · exact closed.trans (closes_releaseStack accepted _ s _)

theorem closes_resetZombie (accepted : List Nat) (server : Server) (i : Nat)
    (z : Option SessionId) : Closes accepted server (server.resetZombie i z) := by
  have stored : Closes accepted server
      { server with zombieSessions := server.zombieSessions.set i z } :=
    Closes.of_same (fun _ => ⟨rfl, rfl⟩) rfl rfl rfl
  rw [Server.resetZombie]
  split
  · exact stored.trans (closes_free accepted _ _)
  · exact stored

theorem closes_pushZombie (accepted : List Nat) (server : Server) (s : SessionId) :
    Closes accepted server (server.pushZombie s) :=
  (closes_resetZombie accepted server server.zombieSessionCount (some s)).trans
    (Closes.of_same (fun _ => ⟨rfl, rfl⟩) rfl rfl rfl)

theorem closes_releaseSession (accepted : List Nat) (server : Server) (s : SessionId) :
    Closes accepted server (server.releaseSession s) := by
  rw [Server.releaseSession]
  split
  · refine Closes.of_same ?_ ?_ ?_ ?_
    · intro t
      dsimp only
      rw [Server.notifyMasterDisconnect]
      split_ifs <;> exact ⟨rfl, rfl⟩
    · dsimp only
      rw [Server.notifyMasterDisconnect]
      split_ifs <;> rfl
    · dsimp only
      rw [Server.notifyMasterDisconnect]
      split_ifs <;> rfl
    · dsimp only
      rw [Server.notifyMasterDisconnect]
      split_ifs <;> exact List.length_set
  · exact Closes.refl accepted server

theorem closes_onSessionDisconnected (accepted : List Nat) (server : Server) (s : SessionId) :
    Closes accepted server (server.onSessionDisconnected s) := by
  rw [Server.onSessionDisconnected]
  split
  · exact (closes_releaseSession accepted server s).trans (closes_pushZombie accepted _ s)
  · exact closes_releaseSession accepted server s

theorem closes_reapZombieSessions (accepted : List Nat) (server : Server) :
    Closes accepted server server.reapZombieSessions.1 := by
  have turns : ∀ (indices : List Nat) (state : Server × Nat × List SessionId),
      Closes accepted state.1 (indices.foldl reapZombie state).1 := by
    intro indices
    induction indices with
    | nil => exact fun state => Closes.refl accepted state.1
    | cons i indices ih =>
        intro state
        rw [List.foldl_cons]
        refine Closes.trans ?_ (ih _)
        rw [reapZombie]
        split
        · split
          · exact Closes.refl accepted state.1
          · exact closes_resetZombie accepted state.1 _ _
        · exact closes_resetZombie accepted state.1 _ _
  have tail : ∀ (indices : List Nat) (here : Server), Closes accepted here
      (indices.foldl (fun server i => server.resetZombie i none) here) := by
    intro indices
    induction indices with
    | nil => exact fun here => Closes.refl accepted here
    | cons i indices ih =>
        intro here
        rw [List.foldl_cons]
        exact (closes_resetZombie accepted here i none).trans (ih _)
  rw [Server.reapZombieSessions]
  refine (turns (List.range server.zombieSessionCount) (server, 0, [])).trans ?_
  refine Closes.trans ?_ (tail _ _)
  exact Closes.of_same (fun _ => ⟨rfl, rfl⟩) rfl rfl rfl

theorem closes_insertSession (accepted : List Nat) (server : Server) (s : SessionId) :
    Closes accepted server (server.insertSession s) := by
  rw [Server.insertSession]
  split
  · exact Closes.of_same (fun _ => ⟨rfl, rfl⟩) rfl rfl List.length_set
  · exact Closes.refl accepted server

theorem closes_send (accepted : List Nat) (server : Server) (s : SessionId)
    (packet : List UInt8) : Closes accepted server (server.send s packet) := by
  rw [Server.send]
  split
  · exact Closes.of_same (fun _ => ⟨rfl, rfl⟩) rfl rfl rfl
  · exact Closes.refl accepted server

theorem closes_enroll (accepted : List Nat) (server : Server) (s : SessionId)
    (virtualIp : UInt32) : Closes accepted server (server.enroll s virtualIp) := by
  have identified : Closes accepted server (server.modify s (fun session =>
      { session with virtualIp := virtualIp, authenticated := true })) :=
    closes_modify accepted server s (fun _ => ⟨rfl, rfl⟩)
  rw [Server.enroll]
  refine Closes.trans ?_ (closes_send accepted _ s _)
  refine Closes.trans ?_ (closes_insertSession accepted _ s)
  split
  · exact identified.trans (Closes.of_same (fun _ => ⟨rfl, rfl⟩) rfl rfl rfl)
  · exact identified

theorem closes_registerAttempt {config : ProtocolTypes.ExternalProxyConfig} {remoteIp : UInt32}
    (success : server.registerAttempt s config remoteIp = some next) :
    Closes accepted server next := by
  rw [Server.registerAttempt] at success
  split at success
  · cases success
  · cases success
    refine Closes.trans ?_ (closes_enroll accepted _ s _)
    exact Closes.of_same (fun _ => ⟨rfl, rfl⟩) rfl rfl rfl

theorem closes_retire (accepted : List Nat) (server : Server) (s : SessionId) :
    Closes accepted server (server.retire s) := by
  rw [Server.retire]
  split
  · exact closes_pushZombie accepted server s
  · exact closes_free accepted server s

theorem closes_stopSession (accepted : List Nat) (server : Server) (i : Nat) :
    Closes accepted server (stopSession server i) := by
  rw [stopSession]
  split
  · rename_i s _
    refine Closes.trans (closes_disconnect_getD accepted server s true) ?_
    refine Closes.trans ?_ (closes_retire accepted _ _)
    exact Closes.of_same (fun _ => ⟨rfl, rfl⟩) rfl rfl List.length_set
  · exact Closes.refl accepted server

end Closes

section Stop

variable {accepted : List Nat} {server : Server}

theorem sessions_free (server : Server) (s : SessionId) :
    (server.free s).sessions = server.sessions := by
  have closed : ∀ here : Server, ((here.disconnect s true).getD here).sessions = here.sessions := by
    intro here
    rw [Server.disconnect]
    split <;> rfl
  rw [Server.free]
  split
  · exact closed _
  · exact closed _

theorem sessions_retire (server : Server) (s : SessionId) :
    (server.retire s).sessions = server.sessions := by
  rw [Server.retire]
  split
  · rw [Server.pushZombie, Server.resetZombie]
    split
    · exact sessions_free _ _
    · rfl
  · exact sessions_free server s

theorem sessions_stopSession (server : Server) (i : Nat) :
    (stopSession server i).sessions = server.sessions.set i none := by
  rw [stopSession]
  split
  · rename_i s occupied
    rw [sessions_retire]
    dsimp only
    rw [Server.disconnect]
    split <;> rfl
  · rename_i vacant
    cases slot : server.sessions[i]? with
    | none => rw [List.set_eq_of_length_le (List.getElem?_eq_none_iff.mp slot)]
    | some owner =>
        cases owner with
        | none =>
            obtain ⟨inside, here⟩ := List.getElem?_eq_some_iff.mp slot
            rw [← here, List.set_getElem_self]
        | some s => exact absurd slot (vacant s)

theorem stopSession_closed (tidy : Tidy accepted server) {i : Nat} {s : SessionId}
    (slot : server.sessions[i]? = some (some s)) :
    ((stopSession server i).session s).socketFd = none := by
  have rest : Closes accepted ((server.disconnect s true).getD server) (stopSession server i) := by
    rw [stopSession, slot]
    refine Closes.trans ?_ (closes_retire accepted _ _)
    exact Closes.of_same (fun _ => ⟨rfl, rfl⟩) rfl rfl List.length_set
  have closed : (((server.disconnect s true).getD server).session s).socketFd = none := by
    cases result : server.disconnect s true with
    | some next => exact socketFd_disconnect result
    | none =>
        cases socket : (server.session s).socketFd with
        | none => exact socket
        | some fd =>
            rw [Server.disconnect, if_pos (tidy.connected s fd socket).1] at result
            cases result
  cases socket : ((stopSession server i).session s).socketFd with
  | none => rfl
  | some fd =>
      have before := rest.shrinks s fd socket
      rw [closed] at before
      cases before

theorem closes_stopSessions (accepted : List Nat) (indices : List Nat) (server : Server) :
    Closes accepted server (indices.foldl stopSession server) := by
  induction indices generalizing server with
  | nil => exact Closes.refl accepted server
  | cons i indices ih => exact (closes_stopSession accepted server i).trans (ih _)

theorem Closes.closed {next : Server} (closes : Closes accepted server next) {s : SessionId}
    (closed : (server.session s).socketFd = none) : (next.session s).socketFd = none := by
  cases socket : (next.session s).socketFd with
  | none => rfl
  | some fd =>
      have before := closes.shrinks s fd socket
      rw [closed] at before
      cases before

theorem stopSessions_closed (tidy : Tidy accepted server) {indices : List Nat} {i : Nat}
    (turn : i ∈ indices) {s : SessionId} (slot : server.sessions[i]? = some (some s)) :
    ((indices.foldl stopSession server).session s).socketFd = none := by
  induction indices generalizing server with
  | nil => cases turn
  | cons j indices ih =>
      rw [List.foldl_cons]
      by_cases here : j = i
      · rw [here]
        exact (closes_stopSessions accepted indices _).closed (stopSession_closed tidy slot)
      · have later : i ∈ indices := (List.mem_cons.mp turn).resolve_left (Ne.symm here)
        refine ih ((closes_stopSession accepted server j).tidy tidy) later ?_
        rw [sessions_stopSession, List.getElem?_set_ne here]
        exact slot

theorem closes_stop (accepted : List Nat) (server : Server) :
    Closes accepted server server.stop := by
  rw [Server.stop]
  split
  · have halted : Closes accepted server { server with running := false } :=
      Closes.of_same (fun _ => ⟨rfl, rfl⟩) rfl rfl rfl
    have stopped := closes_stopSessions accepted (List.range maxPlayers)
      { server with running := false }
    generalize (List.range maxPlayers).foldl stopSession { server with running := false } = next
      at stopped
    exact (halted.trans stopped).trans (Closes.of_same (fun _ => ⟨rfl, rfl⟩) rfl rfl rfl)
  · exact Closes.refl accepted server

theorem stop_closed (tidy : Tidy accepted server) (running : server.running = true)
    {s : SessionId} (registered : some s ∈ server.sessions) :
    (server.stop.session s).socketFd = none := by
  have stopping : Tidy accepted { server with running := false } :=
    ⟨tidy.balanced, tidy.connected, tidy.slots⟩
  obtain ⟨i, inside, slot⟩ := List.mem_iff_getElem.mp registered
  have turn : i ∈ List.range maxPlayers := by
    rw [List.mem_range, ← tidy.slots]
    exact inside
  have closed := stopSessions_closed stopping turn
    ((List.getElem?_eq_getElem inside).trans (congrArg some slot))
  rw [Server.stop, if_pos running]
  generalize (List.range maxPlayers).foldl stopSession { server with running := false } = next
    at closed
  exact closed

end Stop

theorem accept_of_slot {server : Server} {slot : Nat} (room : ¬ server.sessionCount ≥ maxPlayers)
    (found : allocateSessionStackSlot server.stackUsed = some slot) (fd : Nat) (remoteIp : UInt32)
    (threadCreated : Bool) :
    server.accept fd remoteIp threadCreated =
      ({ server with
        session := Function.update server.session server.allocated
          ⟨remoteIp, 0, some fd, true, false, false, some slot, false⟩
        allocated := server.allocated + 1
        stackUsed := Function.update server.stackUsed slot true },
        if threadCreated then some server.allocated else none) := by
  rw [Server.accept, if_neg room]
  dsimp only
  rw [found]
  dsimp only [Server.modify]
  rw [Function.update_self, Function.update_idem]

theorem tidy_accept {accepted : List Nat} {server : Server} (tidy : Tidy accepted server)
    {fd : Nat} (back : accepted.count fd = server.closedFds.count fd)
    (served : server.sessionCount ≥ maxPlayers ∨
      (allocateSessionStackSlot server.stackUsed).isSome = true)
    (remoteIp : UInt32) (threadCreated : Bool) :
    Tidy (accepted ++ [fd]) (server.accept fd remoteIp threadCreated).1 := by
  by_cases full : server.sessionCount ≥ maxPlayers
  · rw [Server.accept, if_pos full]
    exact ⟨tidy.balanced.bounce fd, tidy.connected, tidy.slots⟩
  · obtain ⟨slot, found⟩ := Option.isSome_iff_exists.mp (served.resolve_left full)
    have unmade : (server.session server.allocated).socketFd = none := by
      cases socket : (server.session server.allocated).socketFd with
      | none => rfl
      | some other => exact absurd (tidy.connected _ other socket).2 (Nat.lt_irrefl _)
    have holder : (fun t => ((Function.update server.session server.allocated
        (⟨remoteIp, 0, some fd, true, false, false, some slot, false⟩ : Session)) t).socketFd) =
          Function.update (fun t => (server.session t).socketFd) server.allocated (some fd) := by
      funext t
      by_cases same : t = server.allocated
      · rw [same, Function.update_self, Function.update_self]
      · rw [Function.update_of_ne same, Function.update_of_ne same]
    rw [accept_of_slot full found]
    refine ⟨?_, ?_, tidy.slots⟩
    · have given := tidy.balanced.giveOut unmade back
      rw [ledger]
      dsimp only
      rw [holder]
      exact given
    · intro t other now
      dsimp only at now ⊢
      by_cases same : t = server.allocated
      · rw [same, Function.update_self]
        exact ⟨rfl, Nat.lt_succ_self _⟩
      · rw [Function.update_of_ne same] at now ⊢
        exact ⟨(tidy.connected t other now).1, Nat.lt_succ_of_lt (tidy.connected t other now).2⟩

theorem accept_running {server : Server} {thread : SessionId → ThreadPhase} {fd : Nat}
    {remoteIp : UInt32} {threadCreated : Bool}
    (running : ∀ s other, (server.session s).socketFd = some other → IsRunning (thread s))
    (served : server.sessionCount ≥ maxPlayers ∨
      (allocateSessionStackSlot server.stackUsed).isSome = true ∧ threadCreated = true)
    {s : SessionId} {other : Nat}
    (now : ((server.accept fd remoteIp threadCreated).1.session s).socketFd = some other) :
    IsRunning ((match (server.accept fd remoteIp threadCreated).2 with
      | some made => Function.update thread made .receiving
      | none => thread) s) := by
  by_cases full : server.sessionCount ≥ maxPlayers
  · rw [Server.accept, if_pos full] at now ⊢
    exact running s other now
  · obtain ⟨slotFree, started⟩ := served.resolve_left full
    obtain ⟨slot, found⟩ := Option.isSome_iff_exists.mp slotFree
    rw [accept_of_slot full found] at now ⊢
    dsimp only at now ⊢
    rw [if_pos started]
    dsimp only
    by_cases same : s = server.allocated
    · rw [same, Function.update_self]
      trivial
    · rw [Function.update_of_ne same] at now ⊢
      exact running s other now

structure Invariant (w : Watch) : Prop where
  tidy : Tidy w.accepted w.state.server
  running : ∀ s fd, (w.state.server.session s).socketFd = some fd → IsRunning (w.state.thread s)
  stopped : w.stop ≠ .notCalled → ∀ s, (w.state.server.session s).socketFd = none

theorem Invariant.noLeak {w : Watch} (h : Invariant w) : NoLeak w where
  accounted := by
    intro fd
    rcases h.tidy.balanced.accounted fd with closed | ⟨out, s, holds, only⟩
    · exact .inl closed
    · exact .inr ⟨out, s, ⟨(h.tidy.connected s fd holds).2, holds, h.running s fd holds⟩, only⟩
  stopped := by
    intro returned fd
    refine h.tidy.balanced.idle fd ?_
    intro s holds
    have closed := h.stopped (by rw [returned]; decide) s
    rw [ledger] at holds
    dsimp only at holds
    rw [closed] at holds
    cases holds

section Step

variable {accepted : List Nat} {st next : State} {a : Action}

theorem closes_leave (accepted : List Nat) (st : State) (s : SessionId) (phase : ThreadPhase) :
    Closes accepted st.server (st.leave s phase).server := by
  rw [State.leave]
  split
  · rename_i closed
    exact closes_disconnect closed
  · exact Closes.refl accepted st.server

theorem closes_proceed (accepted : List Nat) (st : State) (call : PendingCall)
    (rest : List PendingCall) : Closes accepted st.server (st.proceed call rest).server := by
  cases call with
  | disconnect s =>
      simp only [State.proceed]
      split
      · rename_i closed
        exact closes_disconnect closed
      · exact Closes.refl accepted st.server
  | onSessionDisconnected s => exact closes_onSessionDisconnected accepted st.server s
  | delete s => exact closes_free accepted st.server s

theorem closes_step (taken : P2pServerRuns.step st a = some next) (other : acceptedBy a = []) :
    Closes accepted st.server next.server := by
  cases a <;> simp only [P2pServerRuns.step, Option.some.injEq] at taken
  case accept fd remoteIp threadCreated => cases other
  case addWaitingToken token =>
    subst taken
    exact Closes.of_same (fun _ => ⟨rfl, rfl⟩) rfl rfl rfl
  case externalProxy s config =>
    split at taken <;> cases taken
    exact Closes.refl accepted st.server
  case attempt s =>
    split at taken
    · split at taken <;> cases taken
      · rename_i success
        exact closes_registerAttempt success
      · exact Closes.refl accepted st.server
    · cases taken
  case authFailed s =>
    split at taken <;> cases taken
    exact closes_leave accepted st s .receiving
  case receiveEnds s =>
    split at taken <;> cases taken
    exact closes_leave accepted st s .finished
  case notifyServer s =>
    split at taken <;> cases taken
    exact closes_onSessionDisconnected accepted st.server s
  case threadExit s =>
    split at taken <;> cases taken
    have modified : Closes accepted st.server (st.server.threadExit s) :=
      closes_modify accepted st.server s (fun _ => ⟨rfl, rfl⟩)
    exact modified
  case externalProxyStateChange virtualIp connected =>
    subst taken
    simp only [Server.handleExternalProxyStateChange]
    split
    · exact Closes.refl accepted st.server
    · exact Closes.of_same (fun _ => ⟨rfl, rfl⟩) rfl rfl rfl
  case proceed i =>
    split at taken <;> cases taken
    exact closes_proceed accepted st _ _
  case reap =>
    subst taken
    exact closes_reapZombieSessions accepted st.server
  case stop =>
    subst taken
    exact closes_stop accepted st.server

def Attended (server : Server) (thread : SessionId → ThreadPhase) : Prop :=
  ∀ s fd, (server.session s).socketFd = some fd → IsRunning (thread s)

theorem Attended.setThread {server after : Server} {thread : SessionId → ThreadPhase}
    (attended : Attended server thread) (closes : Closes accepted server after) {s : SessionId}
    {phase : ThreadPhase} (here : IsRunning phase ∨ (after.session s).socketFd = none) :
    Attended after (Function.update thread s phase) := by
  intro t fd now
  by_cases same : t = s
  · rw [same, Function.update_self]
    rw [same] at now
    rcases here with running | closed
    · exact running
    · rw [closed] at now
      cases now
  · rw [Function.update_of_ne same]
    exact attended t fd (closes.shrinks t fd now)

theorem Attended.leave {st : State} (attended : Attended st.server st.thread)
    (tidy : Tidy accepted st.server) (s : SessionId) (phase : ThreadPhase) :
    Attended (st.leave s phase).server (st.leave s phase).thread := by
  rw [State.leave]
  split
  · rename_i server closed
    have closes : Closes accepted st.server server := closes_disconnect closed
    exact attended.setThread closes (.inr (socketFd_disconnect closed))
  · rename_i already
    refine attended.setThread (Closes.refl accepted st.server) (.inr ?_)
    cases socket : (st.server.session s).socketFd with
    | none => rfl
    | some fd =>
        rw [Server.disconnect, if_pos (tidy.connected s fd socket).1] at already
        cases already

theorem Attended.proceed {st : State} (attended : Attended st.server st.thread)
    (call : PendingCall) (rest : List PendingCall) :
    Attended (st.proceed call rest).server (st.proceed call rest).thread := by
  have thread : (st.proceed call rest).thread = st.thread := by
    cases call with
    | disconnect s =>
        simp only [State.proceed]
        split <;> rfl
    | onSessionDisconnected s => rfl
    | delete s => rfl
  intro s fd now
  rw [thread]
  exact attended s fd ((closes_proceed [] st call rest).shrinks s fd now)

theorem attended_step (attended : Attended st.server st.thread) (tidy : Tidy accepted st.server)
    (taken : P2pServerRuns.step st a = some next) (other : acceptedBy a = []) :
    Attended next.server next.thread := by
  have closes : Closes accepted st.server next.server := closes_step taken other
  have same : next.thread = st.thread → Attended next.server next.thread := by
    intro unchanged s fd now
    rw [unchanged]
    exact attended s fd (closes.shrinks s fd now)
  -- a thread past its loop has closed its session
  have finished : ∀ s, ¬ IsRunning (st.thread s) → (next.server.session s).socketFd = none := by
    intro s ended
    refine closes.closed ?_
    cases socket : (st.server.session s).socketFd with
    | none => rfl
    | some fd => exact absurd (attended s fd socket) ended
  cases a <;> simp only [P2pServerRuns.step, Option.some.injEq] at taken
  case accept fd remoteIp threadCreated => cases other
  case addWaitingToken token =>
    subst taken
    exact same rfl
  case externalProxy s config =>
    split at taken <;> cases taken
    exact attended.setThread closes (.inl trivial)
  case attempt s =>
    split at taken
    · split at taken <;> cases taken
      · exact attended.setThread closes (.inl trivial)
      · exact attended.setThread closes (.inl trivial)
    · cases taken
  case authFailed s =>
    split at taken <;> cases taken
    exact attended.leave tidy s .receiving
  case receiveEnds s =>
    split at taken <;> cases taken
    exact attended.leave tidy s .finished
  case notifyServer s =>
    split at taken <;> cases taken
    rename_i notifying
    exact attended.setThread closes (.inr (finished s (by rw [notifying]; exact id)))
  case threadExit s =>
    split at taken <;> cases taken
    rename_i done
    exact attended.setThread closes (.inr (finished s (by rw [done]; exact id)))
  case externalProxyStateChange virtualIp connected =>
    subst taken
    exact same rfl
  case proceed i =>
    split at taken <;> cases taken
    exact attended.proceed _ _
  case reap =>
    subst taken
    exact same rfl
  case stop =>
    subst taken
    exact same rfl

end Step

theorem orderly_stop {w : Watch} (ok : orderly w (.action .stop) = true)
    (running : w.state.server.running = true) {s : SessionId} {fd : Nat}
    (made : s < w.state.server.allocated)
    (socket : (w.state.server.session s).socketFd = some fd) :
    some s ∈ w.state.server.sessions := by
  simp only [orderly, running, Bool.not_true, Bool.false_or, List.all_eq_true, List.mem_range,
    Bool.or_eq_true, List.elem_eq_mem, decide_eq_true_eq] at ok
  rcases ok s made with closed | registered
  · rw [socket] at closed
    cases closed
  · exact registered

theorem step_invariant {w next : Watch} {e : Event} (new : fresh w e = true)
    (ok : orderly w e = true) (taken : step w e = some next) (h : Invariant w) :
    Invariant next := by
  cases e with
  | acceptLoopEnds =>
      simp only [step] at taken
      split at taken <;> cases taken
      exact ⟨h.tidy, h.running, h.stopped⟩
  | stopReturns =>
      simp only [step] at taken
      split at taken
      · rename_i waiting
        cases taken
        exact ⟨h.tidy, h.running, fun _ => h.stopped (by rw [waiting.1]; decide)⟩
      · cases taken
  | action a =>
      simp only [step] at taken
      split at taken
      · cases taken
      obtain ⟨after, moved, rfl⟩ := Option.map_eq_some_iff.mp taken
      by_cases accepts : ∃ fd remoteIp threadCreated, a = .accept fd remoteIp threadCreated
      · obtain ⟨fd, remoteIp, threadCreated, rfl⟩ := accepts
        simp only [fresh, beq_iff_eq] at new
        simp only [orderly, Bool.and_eq_true, Bool.or_eq_true, beq_iff_eq, decide_eq_true_eq] at ok
        obtain ⟨notCalled, served⟩ := ok
        cases moved
        refine ⟨?_, ?_, ?_⟩
        · exact tidy_accept h.tidy new (served.imp_right And.left) remoteIp threadCreated
        · intro s other now
          exact accept_running h.running served now
        · intro called
          exact absurd notCalled (by simpa using called)
      · have other : acceptedBy a = [] := by
          cases a <;> first | rfl | exact absurd ⟨_, _, _, rfl⟩ accepts
        have closes : Closes w.accepted w.state.server after.server := closes_step moved other
        refine ⟨?_, ?_, ?_⟩
        · dsimp only
          rw [other, List.append_nil]
          exact closes.tidy h.tidy
        · exact attended_step h.running h.tidy moved other
        · intro called s
          by_cases stops : a = .stop ∧ w.state.server.running = true
          · obtain ⟨rfl, running⟩ := stops
            cases socket : (w.state.server.session s).socketFd with
            | none => exact closes.closed socket
            | some fd =>
                have registered := orderly_stop ok running (h.tidy.connected s fd socket).2 socket
                cases moved
                exact stop_closed h.tidy running registered
          · dsimp only at called ⊢
            rw [if_neg stops] at called
            exact closes.closed (h.stopped called s)

theorem start_invariant (masterCallback : Bool) : Invariant (start masterCallback) where
  tidy := by
    refine ⟨balanced_empty, ?_, ?_⟩
    · intro s fd now
      cases now
    · exact List.length_replicate
  running := by
    intro s fd now
    cases now
  stopped := by
    intro _ s
    rfl

/-- In every run whose steps are orderly, no state reached has leaked a descriptor. -/
theorem no_descriptor_leaked {masterCallback : Bool} {events : List Event} {w : Watch}
    (steps : run (guarded (fun w e => fresh w e && orderly w e) step) (start masterCallback) events =
      some w) : NoLeak w := by
  refine Invariant.noLeak (run_invariant Invariant ?_ steps (start_invariant masterCallback))
  intro w e next taken
  obtain ⟨ok, taken⟩ := guarded_eq_some.mp taken
  obtain ⟨new, orderly⟩ := Bool.and_eq_true_iff.mp ok
  exact step_invariant new orderly taken

/-- A joiner registers, the server stops, and `Stop` returns once the joiner is reaped. -/
theorem no_descriptor_leaked_joiner :
    let token : ProtocolTypes.Octets 16 := ⟨List.replicate 16 7, rfl⟩
    let actions : List Action := [.accept 5 0 true, .addWaitingToken ⟨0x0A720002, token, default, 2⟩,
      .externalProxy 0 ⟨default, 2, 0, token⟩, .attempt 0, .stop, .receiveEnds 0, .threadExit 0,
      .reap, .proceed 0]
    ∃ w, run (guarded (fun w e => fresh w e && orderly w e) step) (start true)
        (actions.map .action ++ [.acceptLoopEnds, .stopReturns]) = some w ∧
      w.stop = .returned ∧ NoLeak w := by
  intro token actions
  have ended : (run (guarded (fun w e => fresh w e && orderly w e) step) (start true)
      (actions.map .action ++ [.acceptLoopEnds, .stopReturns])).map (fun w => w.stop) =
        some .returned := by
    decide +kernel
  obtain ⟨w, steps, returned⟩ := Option.map_eq_some_iff.mp ended
  exact ⟨w, steps, returned, no_descriptor_leaked steps⟩

theorem not_noLeak_of_idle {w : Watch} {s : SessionId} {fd : Nat}
    (holds : (w.state.server.session s).socketFd = some fd) (idle : ¬ IsRunning (w.state.thread s))
    (out : w.accepted.count fd ≠ w.state.server.closedFds.count fd) : ¬ NoLeak w := by
  intro noLeak
  rcases noLeak.accounted fd with closed | ⟨_, owner, owns, only⟩
  · exact out closed
  · rw [only s holds] at idle
    exact idle owns.running

/-- Three ordinary runs leak: the thread of a connection is not created; a ninth
connection finds the stack pool empty, since nobody has registered and the limit
counts registered sessions; and `Stop` returns while a connection that never
registered is open. -/
theorem descriptors_leaked :
    (∃ w, run step (start true) [.action (.accept 5 0 false)] = some w ∧ ¬ NoLeak w) ∧
      (∃ w, run step (start true)
        ((List.range 9).map fun i => .action (.accept (5 + i) 0 true)) = some w ∧ ¬ NoLeak w) ∧
      ∃ w, run step (start true)
        [.action (.accept 5 0 true), .action .stop, .acceptLoopEnds, .stopReturns] = some w ∧
          ¬ NoLeak w := by
  have noThread : (run step (start true) [.action (.accept 5 0 false)]).map (fun w =>
      ((w.state.server.session 0).socketFd, w.state.thread 0, w.accepted,
        w.state.server.closedFds)) = some (some 5, .notStarted, [5], []) := by
    decide +kernel
  have noStack : (run step (start true)
      ((List.range 9).map fun i => .action (.accept (5 + i) 0 true))).map (fun w =>
      ((w.state.server.session 8).socketFd, w.state.thread 8, w.accepted,
        w.state.server.closedFds)) =
        some (some 13, .notStarted, [5, 6, 7, 8, 9, 10, 11, 12, 13], []) := by
    decide +kernel
  have unregistered : (run step (start true)
      [.action (.accept 5 0 true), .action .stop, .acceptLoopEnds, .stopReturns]).map (fun w =>
      (w.stop, w.accepted, w.state.server.closedFds)) = some (.returned, [5], []) := by
    decide +kernel
  obtain ⟨first, firstRun, firstView⟩ := Option.map_eq_some_iff.mp noThread
  obtain ⟨second, secondRun, secondView⟩ := Option.map_eq_some_iff.mp noStack
  obtain ⟨third, thirdRun, thirdView⟩ := Option.map_eq_some_iff.mp unregistered
  simp only [Prod.mk.injEq] at firstView secondView thirdView
  refine ⟨⟨first, firstRun, ?_⟩, ⟨second, secondRun, ?_⟩, ⟨third, thirdRun, ?_⟩⟩
  · obtain ⟨holds, idle, given, closed⟩ := firstView
    refine not_noLeak_of_idle holds ?_ ?_
    · rw [idle]
      exact id
    · rw [given, closed]
      decide
  · obtain ⟨holds, idle, given, closed⟩ := secondView
    refine not_noLeak_of_idle holds ?_ ?_
    · rw [idle]
      exact id
    · rw [given, closed]
      decide
  · obtain ⟨returned, given, closed⟩ := thirdView
    intro noLeak
    have settled := noLeak.stopped returned 5
    rw [given, closed] at settled
    exact absurd settled (by decide)

end RyuLdn.P2pDescriptors
