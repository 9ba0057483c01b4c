import RyuLdn.P2pAuthentication
import RyuLdn.P2pSessionPool

/-! Ownership of session objects over whole runs of the server: what `Owned` says
holds in every state a run reaches as long as no step meets one of the three
situations that `safe` excludes. Each critical section is first reduced to the
primitive moves of `P2pSessionPool`. -/
namespace RyuLdn.P2pSessionOwnership

open OwnerSlots P2pServer P2pServerRuns P2pSessionPool P2pAuthentication ProtocolTypes
  TransitionSystem

/-- Every session is held at most once, a live authenticated one exactly once among
`m_sessions`, the counter counts, and nothing is freed twice or under a running thread. -/
structure Owned (server : Server) : Prop where
  heldOnce : (server.sessions ++ server.zombieSessions).reduceOption.Nodup
  liveHeld : ∀ s, s < server.allocated → (server.session s).authenticated = true →
    (server.session s).connected = true → server.sessions.reduceOption.count s = 1
  counted : server.sessionCount = server.sessions.reduceOption.length
  freedOnce : (server.frees.map Prod.fst).Nodup
  freedDone : ∀ f ∈ server.frees, f.2 = true

/-- What a step must not meet: a reap with a session in the zombie array, whose slots the
reaper frees once too often; a second successful registration of one session; and
`OnSessionDisconnected` for a session that `Stop` has already queued. -/
def safe (st : State) : Action → Bool
  | .reap => st.server.zombieSessionCount == 0
  | .attempt s =>
      match st.thread s with
      | .registering config _ =>
          (firstWaiting st.server config).isNone || !(st.server.session s).authenticated
      | _ => true
  | .notifyServer s => !st.server.zombieSessions.reduceOption.elem s
  | .proceed i =>
      match st.pending[i]? with
      | some (.onSessionDisconnected s) => !st.server.zombieSessions.reduceOption.elem s
      | _ => true
  | _ => true

def Counted (server : Server) : Prop :=
  server.sessionCount = server.sessions.reduceOption.length

theorem pool_disconnect {server next : Server} {s : SessionId} {fromMaster : Bool}
    (closed : server.disconnect s fromMaster = some next) :
    (server.session s).connected = true ∧
      next.sessionCount = server.sessionCount ∧
      pool next = { pool server with
        session := Function.update server.session s ((server.session s).close fromMaster) } := by
  rw [Server.disconnect] at closed
  split at closed
  · rename_i connected
    cases closed
    exact ⟨connected, rfl, rfl⟩
  · cases closed

theorem sound_disconnect {server next : Server} {s : SessionId} {fromMaster : Bool}
    (h : (pool server).Sound) (closed : server.disconnect s fromMaster = some next) :
    (pool next).Sound := by
  rw [(pool_disconnect closed).2.2]
  exact h.update rfl rfl (by simp [Session.close])

theorem counted_disconnect {server next : Server} {s : SessionId} {fromMaster : Bool}
    (counted : Counted server) (closed : server.disconnect s fromMaster = some next) :
    Counted next := by
  obtain ⟨_, count, moved⟩ := pool_disconnect closed
  have slots : next.sessions = server.sessions := congrArg Pool.sessions moved
  rw [Counted, count, slots]
  exact counted

theorem session_disconnect {server next : Server} {s : SessionId} {fromMaster : Bool}
    (closed : server.disconnect s fromMaster = some next) :
    next.session = Function.update server.session s ((server.session s).close fromMaster) ∧
      next.allocated = server.allocated :=
  ⟨congrArg Pool.session (pool_disconnect closed).2.2,
    congrArg Pool.allocated (pool_disconnect closed).2.2⟩

theorem pool_disconnect_getD (server : Server) (s : SessionId) (fromMaster : Bool) :
    ∃ next : Session, next.authenticated = (server.session s).authenticated ∧
      next.stackSlot = (server.session s).stackSlot ∧ next.connected = false ∧
      pool ((server.disconnect s fromMaster).getD server) =
        { pool server with session := Function.update server.session s next } := by
  cases closed : server.disconnect s fromMaster with
  | some next =>
      exact ⟨(server.session s).close fromMaster, rfl, rfl, rfl, (pool_disconnect closed).2.2⟩
  | none =>
      refine ⟨server.session s, rfl, rfl, ?_, ?_⟩
      · rw [Server.disconnect] at closed
        split at closed
        · cases closed
        · rename_i off
          simpa using off
      · rw [Function.update_eq_self]
        rfl

theorem pool_pushZombie {server : Server} (h : (pool server).Sound)
    (room : server.zombieSessionCount < maxZombieSessions) (s : SessionId) :
    (server.pushZombie s).sessionCount = server.sessionCount ∧
      pool (server.pushZombie s) = { pool server with
        zombies := server.zombieSessions.set server.zombieSessionCount (some s)
        zombieCount := server.zombieSessionCount + 1 } := by
  have free := h.zombie_room server.zombieSessionCount (Nat.le_refl _) room
  change server.zombieSessions[server.zombieSessionCount]? = some none at free
  rw [Server.pushZombie, Server.resetZombie, free]
  exact ⟨rfl, rfl⟩

theorem sound_releaseSession {server : Server} {s : SessionId} (h : (pool server).Sound)
    (counted : Counted server) (closed : (server.session s).connected = false) :
    (pool (server.releaseSession s)).Sound ∧ Counted (server.releaseSession s) ∧
      s ∉ (server.releaseSession s).sessions.reduceOption ∧
      (server.releaseSession s).session = server.session ∧
      (server.releaseSession s).zombieSessions = server.zombieSessions ∧
      (server.releaseSession s).zombieSessionCount = server.zombieSessionCount ∧
      (server.releaseSession s).allocated = server.allocated := by
  cases found : slotOf server.sessions s with
  | none =>
      rw [Server.releaseSession, found]
      exact ⟨h, counted, slotOf_eq_none found, rfl, rfl, rfl, rfl⟩
  | some slot =>
      have occupied := slotOf_eq_some found
      obtain ⟨sound, absent, _⟩ := h.vacate occupied closed
      have fewer := (vacate_perm occupied).length_eq
      have counter : server.sessionCount - 1 =
          ((server.sessions.set slot none).reduceOption.length : Int) := by
        rw [counted, fewer, List.length_cons]
        omega
      have result : ∃ told, server.releaseSession s = { server with
          sessions := server.sessions.set slot none
          sessionCount := server.sessionCount - 1
          masterSent := told } := by
        rw [Server.releaseSession, found]
        dsimp only
        rw [Server.notifyMasterDisconnect]
        split
        · split
          · exact ⟨_, rfl⟩
          · exact ⟨_, rfl⟩
        · exact ⟨_, rfl⟩
      obtain ⟨told, result⟩ := result
      rw [result]
      exact ⟨sound, counter, absent, rfl, rfl, rfl, rfl⟩

theorem sound_onSessionDisconnected {server : Server} {s : SessionId} (h : (pool server).Sound)
    (counted : Counted server) (made : s < server.allocated)
    (started : (server.session s).stackSlot.isSome)
    (closed : (server.session s).connected = false)
    (notZombie : s ∉ server.zombieSessions.reduceOption) :
    (pool (server.onSessionDisconnected s)).Sound ∧ Counted (server.onSessionDisconnected s) ∧
      (server.onSessionDisconnected s).session = server.session ∧
      (server.onSessionDisconnected s).allocated = server.allocated := by
  obtain ⟨sound, counter, absent, session, zombies, zombieCount, allocated⟩ :=
    sound_releaseSession h counted closed
  rw [Server.onSessionDisconnected]
  split
  · rename_i room
    obtain ⟨sameCount, moved⟩ := pool_pushZombie sound room s
    refine ⟨?_, ?_, ?_, ?_⟩
    · rw [moved]
      refine sound.enqueue ?_ ?_ ?_ absent ?_
      · change s < (server.releaseSession s).allocated
        rwa [allocated]
      · change ((server.releaseSession s).session s).stackSlot.isSome
        rwa [session]
      · change ((server.releaseSession s).session s).connected = false
        rwa [session]
      · change s ∉ (server.releaseSession s).zombieSessions.reduceOption
        rwa [zombies]
    · have slots : (Server.pushZombie (server.releaseSession s) s).sessions =
          (server.releaseSession s).sessions := congrArg Pool.sessions moved
      rw [Counted, sameCount, slots]
      exact counter
    · exact (congrArg Pool.session moved).trans session
    · exact (congrArg Pool.allocated moved).trans allocated
  · exact ⟨sound, counter, session, allocated⟩

theorem reapZombieSessions_of_empty {server : Server} (h : (pool server).Sound)
    (empty : server.zombieSessionCount = 0) : server.reapZombieSessions = (server, []) := by
  have tail : ∀ indices : List Nat, (∀ i ∈ indices, i < maxZombieSessions) →
      indices.foldl (fun server i => server.resetZombie i none) server = server := by
    intro indices
    induction indices with
    | nil => intro _; rfl
    | cons i indices ih =>
        intro bound
        have free := h.zombie_room i (by simp [pool, empty]) (bound i (by simp))
        change server.zombieSessions[i]? = some none at free
        have same : server.resetZombie i none = server := by
          obtain ⟨less, value⟩ := List.getElem?_eq_some_iff.mp free
          rw [Server.resetZombie, free]
          dsimp only
          nth_rewrite 1 [← value]
          rw [List.set_getElem_self]
        rw [List.foldl_cons, same]
        exact ih (fun j member => bound j (List.mem_cons_of_mem _ member))
  rw [Server.reapZombieSessions, empty]
  simp only [List.range_zero, List.foldl_nil, Nat.sub_zero]
  have same : ({ server with zombieSessionCount := 0 } : Server) = server := by rw [← empty]
  rw [same, tail]
  intro i member
  have := List.mem_range'_1.mp member
  omega

/-- What the threads rely on: nothing is reconnected or loses its stack, and a session
that is not authenticated yet is not closed either. -/
structure Keeps (before after : SessionId → Session) : Prop where
  authenticated : ∀ s, (before s).authenticated = true → (after s).authenticated = true
  unauthenticated : ∀ s, (after s).authenticated = false →
    (after s).connected = (before s).connected
  stackSlot : ∀ s, (after s).stackSlot = (before s).stackSlot
  closed : ∀ s, (before s).connected = false → (after s).connected = false

theorem Keeps.refl (session : SessionId → Session) : Keeps session session :=
  ⟨fun _ => id, fun _ _ => rfl, fun _ => rfl, fun _ => id⟩

theorem Keeps.unauthenticated_before {before after : SessionId → Session}
    (keeps : Keeps before after) {s : SessionId} (off : (after s).authenticated = false) :
    (before s).authenticated = false := by
  by_contra on
  have := keeps.authenticated s (by simpa using on)
  rw [off] at this
  cases this

theorem Keeps.trans {first second third : SessionId → Session} (one : Keeps first second)
    (two : Keeps second third) : Keeps first third where
  authenticated := fun s auth => two.authenticated s (one.authenticated s auth)
  unauthenticated := fun s off =>
    (two.unauthenticated s off).trans (one.unauthenticated s (two.unauthenticated_before off))
  stackSlot := fun s => (two.stackSlot s).trans (one.stackSlot s)
  closed := fun s off => two.closed s (one.closed s off)

theorem Keeps.update {session : SessionId → Session} {s : SessionId} {next : Session}
    (authenticated : (session s).authenticated = true → next.authenticated = true)
    (unauthenticated : next.authenticated = false → next.connected = (session s).connected)
    (stackSlot : next.stackSlot = (session s).stackSlot)
    (closed : (session s).connected = false → next.connected = false) :
    Keeps session (Function.update session s next) := by
  refine ⟨?_, ?_, ?_, ?_⟩ <;> intro t <;> rcases eq_or_ne t s with rfl | other
  · rwa [Function.update_self]
  · rw [Function.update_of_ne other]
    exact id
  · rwa [Function.update_self]
  · rw [Function.update_of_ne other]
    exact fun _ => rfl
  · rw [Function.update_self, stackSlot]
  · rw [Function.update_of_ne other]
  · rwa [Function.update_self]
  · rw [Function.update_of_ne other]
    exact id

theorem sound_retire {server : Server} {s : SessionId} (h : (pool server).Sound)
    (made : s < server.allocated) (started : (server.session s).stackSlot.isSome)
    (closed : (server.session s).connected = false)
    (notHeld : s ∉ server.sessions.reduceOption)
    (notZombie : s ∉ server.zombieSessions.reduceOption) :
    (pool (server.retire s)).Sound ∧ (server.retire s).session = server.session ∧
      (server.retire s).sessions = server.sessions ∧
      (server.retire s).allocated = server.allocated := by
  have room := h.zombieCount_lt made started notHeld notZombie
  change server.zombieSessionCount < maxZombieSessions at room
  rw [Server.retire, if_pos room]
  obtain ⟨_, moved⟩ := pool_pushZombie h room s
  refine ⟨?_, congrArg Pool.session moved, congrArg Pool.sessions moved,
    congrArg Pool.allocated moved⟩
  rw [moved]
  exact h.enqueue made started closed notHeld notZombie

structure Stopping (i : Nat) (server : Server) : Prop where
  sound : (pool server).Sound
  front : ∀ j < i, server.sessions[j]? = some none

theorem Stopping.stopSession {server : Server} {i : Nat} (h : Stopping i server)
    (bound : i < maxPlayers) :
    Stopping (i + 1) (stopSession server i) ∧
      Keeps server.session (stopSession server i).session ∧
      (stopSession server i).allocated = server.allocated := by
  have length : server.sessions.length = maxPlayers := h.sound.sessions_length
  rw [P2pServer.stopSession]
  rcases here : server.sessions[i]? with _ | _ | s
  · rw [List.getElem?_eq_none_iff] at here
    omega
  · refine ⟨⟨h.sound, ?_⟩, Keeps.refl _, rfl⟩
    intro j less
    rcases Nat.lt_succ_iff_lt_or_eq.mp less with before | rfl
    · exact h.front j before
    · exact here
  · dsimp only
    obtain ⟨made, authenticated, started⟩ := h.sound.held s
      (List.reduceOption_mem_iff.mpr (List.mem_of_getElem? here))
    obtain ⟨next, auth, stack, off, closedPool⟩ := pool_disconnect_getD server s true
    generalize (server.disconnect s true).getD server = closed at closedPool ⊢
    have session : closed.session = Function.update server.session s next :=
      congrArg Pool.session closedPool
    have slots : closed.sessions = server.sessions := congrArg Pool.sessions closedPool
    have allocated : closed.allocated = server.allocated := congrArg Pool.allocated closedPool
    have self : closed.session s = next := by rw [session, Function.update_self]
    have soundClosed : (pool closed).Sound := by
      rw [closedPool]
      exact h.sound.update auth stack (by simp [off])
    have down : (closed.session s).connected = false := by rw [self, off]
    have stacked : (closed.session s).stackSlot.isSome := by
      rw [self, stack]
      exact started
    obtain ⟨soundReleased, absent, notZombie⟩ := soundClosed.vacate
      (show closed.sessions[i]? = some (some s) by rw [slots, here]) down
    have madeClosed : s < closed.allocated := by
      rw [allocated]
      exact made
    obtain ⟨sound, lastSession, lastSlots, lastAllocated⟩ :=
      @sound_retire { closed with sessions := closed.sessions.set i none } s soundReleased
        madeClosed stacked down absent notZombie
    generalize Server.retire { closed with sessions := closed.sessions.set i none } s = last
      at sound lastSession lastSlots lastAllocated ⊢
    dsimp only at lastSession lastSlots lastAllocated
    refine ⟨⟨sound, ?_⟩, ?_, lastAllocated.trans allocated⟩
    · rw [lastSlots, slots]
      intro j less
      rcases Nat.lt_succ_iff_lt_or_eq.mp less with before | rfl
      · rw [List.getElem?_set_ne (by omega)]
        exact h.front j before
      · exact List.getElem?_set_self (by omega)
    · rw [lastSession, session]
      refine Keeps.update (fun _ => auth.trans authenticated) ?_ stack (fun _ => off)
      intro unauth
      rw [auth.trans authenticated] at unauth
      cases unauth

theorem Stopping.stopSessions {server : Server} {i : Nat} (h : Stopping i server) (n : Nat)
    (bound : i + n ≤ maxPlayers) :
    let stopped := (List.range' i n).foldl P2pServer.stopSession server
    Stopping (i + n) stopped ∧ Keeps server.session stopped.session ∧
      stopped.allocated = server.allocated := by
  induction n generalizing i server with
  | zero => exact ⟨h, Keeps.refl _, rfl⟩
  | succ n ih =>
      obtain ⟨next, keeps, allocated⟩ := h.stopSession (by omega)
      obtain ⟨last, keepsRest, allocatedRest⟩ := ih next (by omega)
      rw [List.range'_succ, List.foldl_cons]
      refine ⟨?_, keeps.trans keepsRest, allocatedRest.trans allocated⟩
      rwa [show i + (n + 1) = i + 1 + n by omega]

theorem sound_stop {server : Server} (h : (pool server).Sound) (counted : Counted server) :
    (pool server.stop).Sound ∧ Counted server.stop ∧
      Keeps server.session server.stop.session ∧ server.stop.allocated = server.allocated := by
  rw [Server.stop]
  split
  · have start : Stopping 0 { server with running := false } := ⟨h, by simp⟩
    obtain ⟨stopped, keeps, allocated⟩ := start.stopSessions maxPlayers (by simp)
    rw [← List.range_eq_range'] at stopped keeps allocated
    dsimp only
    generalize List.foldl P2pServer.stopSession { server with running := false }
      (List.range maxPlayers) = last at stopped keeps allocated ⊢
    refine ⟨stopped.sound, ?_, keeps, allocated⟩
    -- every slot has been emptied, so the counter that `Stop` clears is right
    have length : last.sessions.length = maxPlayers := stopped.sound.sessions_length
    have none : last.sessions.reduceOption = [] := by
      rw [List.reduceOption_eq_nil_iff]
      refine ⟨maxPlayers, List.eq_replicate_iff.mpr ⟨length, ?_⟩⟩
      intro slot member
      obtain ⟨j, bound, rfl⟩ := List.mem_iff_getElem.mp member
      have here := stopped.front j (by omega)
      rwa [List.getElem?_eq_getElem bound, Option.some.injEq] at here
    simp [Counted, none]
  · exact ⟨h, counted, Keeps.refl _, rfl⟩

theorem allocateSessionStackSlot_eq_some {used : Nat → Bool} {slot : Nat}
    (found : allocateSessionStackSlot used = some slot) :
    slot < sessionStackCount ∧ used slot = false := by
  rw [allocateSessionStackSlot] at found
  refine ⟨List.mem_range.mp (List.mem_of_find?_eq_some found), ?_⟩
  simpa using List.find?_some found

theorem sound_accept {server : Server} (h : (pool server).Sound) (counted : Counted server)
    (fd : Nat) (remoteIp : UInt32) (threadCreated : Bool) :
    let next := server.accept fd remoteIp threadCreated
    (pool next.1).Sound ∧ Counted next.1 ∧ server.allocated ≤ next.1.allocated ∧
      (∀ t, t < server.allocated → next.1.session t = server.session t) ∧
      ∀ s, next.2 = some s → s = server.allocated ∧ s < next.1.allocated ∧
        (next.1.session s).connected = true ∧ (next.1.session s).stackSlot.isSome := by
  have older : ∀ (next : Session) (t : SessionId), t < server.allocated →
      Function.update server.session server.allocated next t = server.session t :=
    fun next t bound => Function.update_of_ne (Nat.ne_of_lt bound) _ _
  rw [Server.accept]
  split
  · exact ⟨h, counted, le_refl _, fun _ _ => rfl, by simp⟩
  · dsimp only
    cases slot : allocateSessionStackSlot server.stackUsed with
    | none =>
        refine ⟨?_, counted, Nat.le_succ _, ?_, by simp⟩
        · have made := @Pool.Sound.create _ h ⟨remoteIp, 0, some fd, false, false, false, none, false⟩
            server.stackUsed rfl (fun _ => id) (by simp)
          simpa [pool, Server.modify] using made
        · intro t bound
          simp [Server.modify, older _ t bound]
    | some k =>
        obtain ⟨small, unused⟩ := allocateSessionStackSlot_eq_some slot
        refine ⟨?_, counted, Nat.le_succ _, ?_, ?_⟩
        · have made := @Pool.Sound.create _ h
            ⟨remoteIp, 0, some fd, true, false, false, some k, false⟩
            (Function.update server.stackUsed k true) rfl ?_ ?_
          · simpa [pool, Server.modify] using made
          · intro j busy
            rcases eq_or_ne j k with rfl | other
            · rw [Function.update_self]
            · rw [Function.update_of_ne other]
              exact busy
          · rintro j ⟨⟩
            exact ⟨small, unused, Function.update_self _ _ _⟩
        · intro t bound
          simp [Server.modify, older _ t bound]
        · intro s started
          cases threadCreated with
          | true =>
              cases started
              simp [Server.modify]
          | false => cases started

theorem sound_registerAttempt {server next : Server} {s : SessionId}
    {config : ExternalProxyConfig} {remoteIp : UInt32} (h : (pool server).Sound)
    (counted : Counted server) (success : server.registerAttempt s config remoteIp = some next)
    (made : s < server.allocated) (unauthenticated : (server.session s).authenticated = false)
    (connected : (server.session s).connected = true)
    (started : (server.session s).stackSlot.isSome) :
    (pool next).Sound ∧ Counted next ∧ Keeps server.session next.session ∧
      next.allocated = server.allocated ∧ (next.session s).authenticated = true := by
  cases found : firstWaiting server config with
  | none =>
      rw [registerAttempt_eq_none found] at success
      cases success
  | some i =>
      have bound : i < server.waitingTokens.entries.length := by
        rw [ArrayQueue.Queue.length_entries]
        exact firstWaiting_lt found
      rw [registerAttempt_of_found found (List.getElem?_eq_getElem bound)] at success
      injection success with result
      generalize WaitingToken.token _ = token at result
      have notHeld : s ∉ server.sessions.reduceOption := by
        intro held
        have := (h.held s held).2.1
        simp only [pool, unauthenticated] at this
        cases this
      have notZombie : s ∉ server.zombieSessions.reduceOption := by
        intro zombie
        have := (h.zombie s zombie).2.1
        simp only [pool, connected] at this
        cases this
      have length : server.sessions.length = maxPlayers := h.sessions_length
      obtain ⟨slot, free⟩ : ∃ slot, firstFree server.sessions = some slot := by
        refine exists_firstFree ?_
        have room := h.room made started notHeld notZombie
        simp only [pool] at room
        omega
      rw [Server.enroll_eq, Server.insertSession, free] at result
      subst result
      refine ⟨h.occupy (firstFree_eq_some free) made notHeld notZombie started rfl rfl, ?_,
        Keeps.update (fun _ => rfl) (by simp) rfl id, rfl, by simp⟩
      have more := (occupy_perm (firstFree_eq_some free) s).length_eq
      rw [Counted] at counted ⊢
      simp only [more, List.length_cons]
      omega

def CallSound (session : SessionId → Session) (allocated : Nat) : PendingCall → Prop
  | .disconnect s =>
      s < allocated ∧ (session s).authenticated = true ∧ (session s).stackSlot.isSome
  | .onSessionDisconnected s =>
      s < allocated ∧ (session s).connected = false ∧ (session s).stackSlot.isSome
  | .delete _ => False

structure Threads (session : SessionId → Session) (allocated : Nat)
    (thread : SessionId → ThreadPhase) (pending : List PendingCall) : Prop where
  started : ∀ s, thread s ≠ .notStarted → s < allocated
  stacked : ∀ s, thread s ≠ .notStarted → (session s).stackSlot.isSome
  entering : ∀ s, (session s).authenticated = false →
    (thread s = .receiving ∨ ∃ config rounds, thread s = .registering config rounds) →
      (session s).connected = true
  notifying : ∀ s, thread s = .notifying → (session s).connected = false
  calls : ∀ call ∈ pending, CallSound session allocated call

section Threads

variable {session : SessionId → Session} {allocated : Nat} {thread : SessionId → ThreadPhase}
  {pending : List PendingCall}

theorem Threads.keeps (h : Threads session allocated thread pending)
    {after : SessionId → Session} (keeps : Keeps session after) :
    Threads after allocated thread pending := by
  refine ⟨h.started, ?_, ?_, ?_, ?_⟩
  · intro s running
    rw [keeps.stackSlot s]
    exact h.stacked s running
  · intro s off phase
    rw [keeps.unauthenticated s off]
    exact h.entering s (keeps.unauthenticated_before off) phase
  · intro s phase
    exact keeps.closed s (h.notifying s phase)
  · intro call member
    have ok := h.calls call member
    cases call with
    | disconnect s =>
        exact ⟨ok.1, keeps.authenticated s ok.2.1, by rw [keeps.stackSlot s]; exact ok.2.2⟩
    | onSessionDisconnected s =>
        exact ⟨ok.1, keeps.closed s ok.2.1, by rw [keeps.stackSlot s]; exact ok.2.2⟩
    | delete s => exact ok

theorem Threads.enter (h : Threads session allocated thread pending) {s : SessionId}
    {phase : ThreadPhase} (made : s < allocated) (stack : (session s).stackSlot.isSome)
    (enters : (session s).authenticated = false →
      (phase = .receiving ∨ ∃ config rounds, phase = .registering config rounds) →
        (session s).connected = true)
    (notifies : phase = .notifying → (session s).connected = false) :
    Threads session allocated (Function.update thread s phase) pending := by
  have cases : ∀ t, (t = s ∧ Function.update thread s phase t = phase) ∨
      Function.update thread s phase t = thread t := by
    intro t
    rcases eq_or_ne t s with rfl | other
    · exact .inl ⟨rfl, Function.update_self _ _ _⟩
    · exact .inr (Function.update_of_ne other _ _)
  refine ⟨?_, ?_, ?_, ?_, h.calls⟩
  · intro t on
    rcases cases t with ⟨rfl, _⟩ | same
    · exact made
    · exact h.started t (same ▸ on)
  · intro t on
    rcases cases t with ⟨rfl, _⟩ | same
    · exact stack
    · exact h.stacked t (same ▸ on)
  · intro t off entry
    rcases cases t with ⟨rfl, now⟩ | same
    · exact enters off (now ▸ entry)
    · exact h.entering t off (same ▸ entry)
  · intro t entry
    rcases cases t with ⟨rfl, now⟩ | same
    · exact notifies (now ▸ entry)
    · exact h.notifying t (same ▸ entry)

theorem Threads.setThread (h : Threads session allocated thread pending) {s : SessionId}
    {phase : ThreadPhase} (running : thread s ≠ .notStarted)
    (enters : (session s).authenticated = false →
      (phase = .receiving ∨ ∃ config rounds, phase = .registering config rounds) →
        (session s).connected = true)
    (notifies : phase = .notifying → (session s).connected = false) :
    Threads session allocated (Function.update thread s phase) pending :=
  h.enter (h.started s running) (h.stacked s running) enters notifies

theorem Threads.close (h : Threads session allocated thread pending) {s : SessionId}
    (running : thread s ≠ .notStarted) (fromMaster : Bool) :
    Threads (Function.update session s ((session s).close fromMaster)) allocated
      (Function.update thread s .notifying) pending := by
  have auth : ∀ t, (Function.update session s ((session s).close fromMaster) t).authenticated =
      (session t).authenticated := update_field Session.authenticated rfl
  have stack : ∀ t, (Function.update session s ((session s).close fromMaster) t).stackSlot =
      (session t).stackSlot := update_field Session.stackSlot rfl
  have self : (Function.update session s ((session s).close fromMaster) s).connected = false := by
    rw [Function.update_self]
    rfl
  have closed : ∀ t, (session t).connected = false →
      (Function.update session s ((session s).close fromMaster) t).connected = false := by
    intro t off
    rcases eq_or_ne t s with rfl | other
    · exact self
    · rw [Function.update_of_ne other, off]
  refine ⟨?_, ?_, ?_, ?_, ?_⟩
  · intro t on
    rcases eq_or_ne t s with rfl | other
    · exact h.started t running
    · rw [Function.update_of_ne other] at on
      exact h.started t on
  · intro t on
    rw [stack]
    rcases eq_or_ne t s with rfl | other
    · exact h.stacked t running
    · rw [Function.update_of_ne other] at on
      exact h.stacked t on
  · intro t off entry
    rcases eq_or_ne t s with rfl | other
    · rw [Function.update_self] at entry
      rcases entry with wrong | ⟨_, _, wrong⟩ <;> cases wrong
    · rw [auth] at off
      rw [Function.update_of_ne other] at entry ⊢
      exact h.entering t off entry
  · intro t entry
    rcases eq_or_ne t s with rfl | other
    · exact self
    · rw [Function.update_of_ne other] at entry
      exact closed t (h.notifying t entry)
  · intro call member
    have ok := h.calls call member
    cases call with
    | disconnect t => exact ⟨ok.1, (auth t).trans ok.2.1, by rw [stack]; exact ok.2.2⟩
    | onSessionDisconnected t => exact ⟨ok.1, closed t ok.2.1, by rw [stack]; exact ok.2.2⟩
    | delete t => exact ok

end Threads

structure Invariant (st : State) : Prop where
  sound : (pool st.server).Sound
  counted : Counted st.server
  threads : Threads st.server.session st.server.allocated st.thread st.pending

theorem Invariant.owned {st : State} (h : Invariant st) : Owned st.server where
  heldOnce := by
    rw [List.reduceOption_append]
    exact h.sound.nodup
  liveHeld := by
    intro s made auth conn
    exact List.count_eq_one_of_mem (List.nodup_append.mp h.sound.nodup).1
      (h.sound.live s made auth conn)
  counted := h.counted
  freedOnce := by
    rw [show st.server.frees = [] from h.sound.nothing_freed]
    exact List.nodup_nil
  freedDone := by
    rw [show st.server.frees = [] from h.sound.nothing_freed]
    simp

theorem Invariant.leave {st : State} (h : Invariant st) {s : SessionId} {phase : ThreadPhase}
    (running : st.thread s ≠ .notStarted) (notNotifying : phase ≠ .notifying)
    (enters : (st.server.session s).authenticated = false →
      (phase = .receiving ∨ ∃ config rounds, phase = .registering config rounds) →
        (st.server.session s).connected = true) :
    Invariant (st.leave s phase) := by
  rw [State.leave]
  cases closing : st.server.disconnect s false with
  | some next =>
      obtain ⟨session, allocated⟩ := session_disconnect closing
      refine ⟨sound_disconnect h.sound closing, counted_disconnect h.counted closing, ?_⟩
      simp only [State.setThread, session, allocated]
      exact h.threads.close running false
  | none =>
      exact ⟨h.sound, h.counted,
        h.threads.setThread running enters (fun wrong => absurd wrong notNotifying)⟩

theorem Invariant.proceed {st : State} (h : Invariant st) {call : PendingCall}
    {rest : List PendingCall} (member : call ∈ st.pending) (fewer : rest.Sublist st.pending)
    (notQueued : ∀ s, call = .onSessionDisconnected s →
      s ∉ st.server.zombieSessions.reduceOption) :
    Invariant (st.proceed call rest) := by
  have ok := h.threads.calls call member
  have threads : Threads st.server.session st.server.allocated st.thread rest :=
    { h.threads with calls := fun c inside => h.threads.calls c (fewer.subset inside) }
  cases call with
  | disconnect s =>
      rw [State.proceed]
      cases closing : st.server.disconnect s false with
      | some next =>
          obtain ⟨session, allocated⟩ := session_disconnect closing
          have keeps : Keeps st.server.session next.session := by
            rw [session]
            refine Keeps.update id ?_ rfl (fun _ => rfl)
            intro off
            have : (st.server.session s).authenticated = false := off
            rw [ok.2.1] at this
            cases this
          have kept := threads.keeps keeps
          refine ⟨sound_disconnect h.sound closing, counted_disconnect h.counted closing, ?_⟩
          simp only [allocated]
          refine { kept with calls := ?_ }
          intro c inside
          rcases List.mem_cons.mp inside with rfl | old
          · refine ⟨ok.1, ?_⟩
            rw [session, Function.update_self]
            exact ⟨rfl, ok.2.2⟩
          · exact kept.calls c old
      | none => exact ⟨h.sound, h.counted, threads⟩
  | onSessionDisconnected s =>
      obtain ⟨sound, counted, session, allocated⟩ :=
        sound_onSessionDisconnected h.sound h.counted ok.1 ok.2.2 ok.2.1 (notQueued s rfl)
      refine ⟨sound, counted, ?_⟩
      simp only [State.proceed, session, allocated]
      exact threads
  | delete s => exact ok.elim

theorem Invariant.accept {st : State} (h : Invariant st) (fd : Nat) (remoteIp : UInt32)
    (threadCreated : Bool) {next : State}
    (taken : step st (.accept fd remoteIp threadCreated) = some next) : Invariant next := by
  obtain ⟨sound, counted, grown, older, started⟩ :=
    sound_accept h.sound h.counted fd remoteIp threadCreated
  simp only [step, Option.some.injEq] at taken
  subst taken
  have base : Threads (st.server.accept fd remoteIp threadCreated).1.session
      (st.server.accept fd remoteIp threadCreated).1.allocated st.thread st.pending := by
    refine ⟨?_, ?_, ?_, ?_, ?_⟩
    · intro s running
      exact lt_of_lt_of_le (h.threads.started s running) grown
    · intro s running
      rw [older s (h.threads.started s running)]
      exact h.threads.stacked s running
    · intro s off phase
      have running : st.thread s ≠ .notStarted := by
        rcases phase with now | ⟨_, _, now⟩ <;> simp [now]
      rw [older s (h.threads.started s running)] at off ⊢
      exact h.threads.entering s off phase
    · intro s phase
      rw [older s (h.threads.started s (by simp [phase]))]
      exact h.threads.notifying s phase
    · intro call member
      have ok := h.threads.calls call member
      cases call with
      | disconnect s => exact ⟨lt_of_lt_of_le ok.1 grown, by rw [older s ok.1]; exact ok.2⟩
      | onSessionDisconnected s =>
          exact ⟨lt_of_lt_of_le ok.1 grown, by rw [older s ok.1]; exact ok.2⟩
      | delete s => exact ok
  refine ⟨sound, counted, ?_⟩
  dsimp only
  cases new : (st.server.accept fd remoteIp threadCreated).2 with
  | none => exact base
  | some s =>
      obtain ⟨_, made, connected, stack⟩ := started s new
      exact base.enter made stack (fun _ _ => connected) (by simp)

theorem Invariant.attempt {st next : State} {s : SessionId} (h : Invariant st)
    (ok : safe st (.attempt s) = true) (taken : step st (.attempt s) = some next) :
    Invariant next := by
  simp only [step] at taken
  split at taken
  · rename_i config rounds phase
    have running : st.thread s ≠ .notStarted := by simp [phase]
    split at taken
    · rename_i server success
      cases taken
      have off : (st.server.session s).authenticated = false := by
        simp only [safe, phase, Bool.or_eq_true, Option.isNone_iff_eq_none,
          Bool.not_eq_true'] at ok
        rcases ok with absent | off
        · rw [registerAttempt_eq_none absent] at success
          cases success
        · exact off
      have connected := h.threads.entering s off (.inr ⟨config, _, phase⟩)
      obtain ⟨sound, counted, keeps, allocated, on⟩ := sound_registerAttempt h.sound h.counted
        success (h.threads.started s running) off connected (h.threads.stacked s running)
      refine ⟨sound, counted, ?_⟩
      simp only [State.setThread, allocated]
      exact (h.threads.keeps keeps).setThread running (by simp [on]) (by simp)
    · cases taken
      exact ⟨h.sound, h.counted, h.threads.setThread running
        (fun off _ => h.threads.entering s off (.inr ⟨config, _, phase⟩)) (by simp)⟩
  · cases taken

theorem Invariant.notifyServer {st next : State} {s : SessionId} (h : Invariant st)
    (ok : safe st (.notifyServer s) = true) (taken : step st (.notifyServer s) = some next) :
    Invariant next := by
  simp only [step] at taken
  split at taken
  · rename_i phase
    cases taken
    have running : st.thread s ≠ .notStarted := by simp [phase]
    have closed := h.threads.notifying s phase
    have notQueued : s ∉ st.server.zombieSessions.reduceOption := by simpa [safe] using ok
    obtain ⟨sound, counted, session, allocated⟩ := sound_onSessionDisconnected h.sound
      h.counted (h.threads.started s running) (h.threads.stacked s running) closed notQueued
    refine ⟨sound, counted, ?_⟩
    simp only [State.setThread, session, allocated]
    exact h.threads.setThread running (by simp) (by simp)
  · cases taken

theorem Invariant.externalProxyStateChange {st next : State} {virtualIp : UInt32}
    {connected : Bool} (h : Invariant st)
    (taken : step st (.externalProxyStateChange virtualIp connected) = some next) :
    Invariant next := by
  simp only [step, Option.some.injEq] at taken
  subst taken
  rw [Server.handleExternalProxyStateChange]
  split
  · simpa using h
  · refine ⟨h.sound, h.counted, { h.threads with calls := ?_ }⟩
    intro call member
    rcases List.mem_append.mp member with old | new
    · exact h.threads.calls call old
    · obtain ⟨s, victim, rfl⟩ := List.mem_map.mp new
      have held := h.sound.held s (List.mem_filter.mp victim).1
      exact held

theorem step_invariant {st next : State} {a : Action} (ok : safe st a = true)
    (taken : step st a = some next) (h : Invariant st) : Invariant next := by
  cases a with
  | accept fd remoteIp threadCreated => exact h.accept fd remoteIp threadCreated taken
  | addWaitingToken token =>
      simp only [step, Option.some.injEq] at taken
      subst taken
      exact ⟨h.sound, h.counted, h.threads⟩
  | externalProxy s config =>
      simp only [step] at taken
      split at taken
      · rename_i ready
        cases taken
        exact ⟨h.sound, h.counted, h.threads.setThread (by simp [ready.1])
          (fun _ _ => ready.2) (by simp)⟩
      · cases taken
  | attempt s => exact h.attempt ok taken
  | authFailed s =>
      simp only [step] at taken
      split at taken
      · rename_i config phase
        cases taken
        exact h.leave (by simp [phase]) (by simp)
          (fun off _ => h.threads.entering s off (.inr ⟨config, 0, phase⟩))
      · cases taken
  | receiveEnds s =>
      simp only [step] at taken
      split at taken
      · rename_i phase
        cases taken
        exact h.leave (by simp [phase]) (by simp)
          (fun off _ => h.threads.entering s off (.inl phase))
      · cases taken
  | notifyServer s => exact h.notifyServer ok taken
  | threadExit s =>
      simp only [step] at taken
      split at taken
      · rename_i phase
        cases taken
        have keeps : Keeps st.server.session (st.server.threadExit s).session :=
          Keeps.update id (fun _ => rfl) rfl id
        have running : st.thread s ≠ .notStarted := by simp [phase]
        exact ⟨h.sound.update rfl rfl id, h.counted,
          (h.threads.keeps keeps).setThread running (by simp) (by simp)⟩
      · cases taken
  | externalProxyStateChange virtualIp connected => exact h.externalProxyStateChange taken
  | proceed i =>
      simp only [step] at taken
      split at taken
      · rename_i call found
        cases taken
        refine h.proceed (List.mem_of_getElem? found) (List.eraseIdx_sublist _ _) ?_
        rintro s rfl
        simpa [safe, found] using ok
      · cases taken
  | reap =>
      simp only [safe, beq_iff_eq] at ok
      simp only [step, reapZombieSessions_of_empty h.sound ok, Option.some.injEq] at taken
      subst taken
      simpa using h
  | stop =>
      simp only [step, Option.some.injEq] at taken
      subst taken
      obtain ⟨sound, counted, keeps, allocated⟩ := sound_stop h.sound h.counted
      refine ⟨sound, counted, ?_⟩
      simp only [allocated]
      exact h.threads.keeps keeps

theorem init_invariant (masterCallback : Bool) : Invariant (init masterCallback) := by
  have none : (List.replicate maxPlayers (none : Option SessionId)).reduceOption = [] :=
    List.reduceOption_replicate_none
  have noZombie : (List.replicate maxZombieSessions (Option.none : Option SessionId)).reduceOption
      = [] := List.reduceOption_replicate_none
  refine ⟨?_, ?_, ?_⟩
  · exact {
      sessions_length := List.length_replicate
      zombies_length := List.length_replicate
      zombie_room := fun i _ bound => List.getElem?_replicate_of_lt bound
      zombie_count := by simp [pool, init, Server.start, noZombie]
      nodup := by simp [pool, init, Server.start, none, noZombie]
      held := by simp [pool, init, Server.start, none]
      zombie := by simp [pool, init, Server.start, noZombie]
      live := by simp [pool, init, Server.start]
      nothing_freed := rfl
      stack := by simp [pool, init, Server.start]
      stack_inj := by simp [pool, init, Server.start] }
  · simp [Counted, init, Server.start, none]
  · exact ⟨by simp [init], by simp [init], by simp [init], by simp [init], by simp [init]⟩

/-- In every run whose steps are safe, every state reached owns its sessions properly. -/
theorem session_ownership {masterCallback : Bool} {actions : List Action} {st : State}
    (steps : run (guarded safe step) (init masterCallback) actions = some st) :
    Owned st.server := by
  refine Invariant.owned (run_invariant Invariant ?_ steps (init_invariant masterCallback))
  intro st a next taken
  obtain ⟨ok, taken⟩ := guarded_eq_some.mp taken
  exact step_invariant ok taken

/-- A joiner comes, registers and leaves, and the server stops. -/
theorem session_ownership_joiner :
    let token : ProtocolTypes.Octets 16 := ⟨List.replicate 16 7, rfl⟩
    ∃ st, run (guarded safe step) (init true)
      [.accept 5 0 true, .addWaitingToken ⟨0x0A720002, token, default, 2⟩, .reap,
        .externalProxy 0 ⟨default, 2, 0, token⟩, .attempt 0, .accept 6 0 true, .receiveEnds 0,
        .notifyServer 0, .threadExit 0, .stop] = some st ∧ Owned st.server := by
  intro token
  obtain ⟨st, steps⟩ := Option.isSome_iff_exists.mp (show (run (guarded safe step) (init true)
    [.accept 5 0 true, .addWaitingToken ⟨0x0A720002, token, default, 2⟩, .reap,
      .externalProxy 0 ⟨default, 2, 0, token⟩, .attempt 0, .accept 6 0 true, .receiveEnds 0,
      .notifyServer 0, .threadExit 0, .stop]).isSome = true by decide)
  exact ⟨st, steps, session_ownership steps⟩

/-- The three situations, each reached by an ordinary run: a session in the zombie array
when the reaper comes is freed under its running thread; a second `ExternalProxy` packet
puts one session in two slots; and a session that is leaving when `Stop` comes is queued twice. -/
theorem session_ownership_broken :
    let token : UInt8 → ProtocolTypes.Octets 16 := fun byte => ⟨List.replicate 16 byte, rfl⟩
    let waiting := fun byte => Action.addWaitingToken ⟨0x0A720002, token byte, default, 2⟩
    let present := fun byte => Action.externalProxy 0 ⟨default, 2, 0, token byte⟩
    let joined := [.accept 5 0 true, waiting 7, present 7, .attempt 0]
    (∃ st, run step (init true) (joined ++ [.receiveEnds 0, .notifyServer 0, .reap]) = some st ∧
        ¬ Owned st.server) ∧
      (∃ st, run step (init true) (joined ++ [waiting 8, present 8, .attempt 0]) = some st ∧
        ¬ Owned st.server) ∧
      ∃ st, run step (init true) (joined ++ [.receiveEnds 0, .stop, .notifyServer 0]) = some st ∧
        ¬ Owned st.server := by
  intro token waiting present joined
  have reaped : (run step (init true) (joined ++ [.receiveEnds 0, .notifyServer 0, .reap])).map
      (fun st => st.server.frees) = some [(0, false)] := by decide
  have again : (run step (init true) (joined ++ [waiting 8, present 8, .attempt 0])).map
      (fun st => (st.server.sessions ++ st.server.zombieSessions).reduceOption) =
        some [0, 0] := by decide
  have stopped : (run step (init true) (joined ++ [.receiveEnds 0, .stop, .notifyServer 0])).map
      (fun st => (st.server.sessions ++ st.server.zombieSessions).reduceOption) =
        some [0, 0] := by decide
  obtain ⟨first, firstRun, frees⟩ := Option.map_eq_some_iff.mp reaped
  obtain ⟨second, secondRun, secondHeld⟩ := Option.map_eq_some_iff.mp again
  obtain ⟨third, thirdRun, thirdHeld⟩ := Option.map_eq_some_iff.mp stopped
  refine ⟨⟨first, firstRun, ?_⟩, ⟨second, secondRun, ?_⟩, ⟨third, thirdRun, ?_⟩⟩
  · intro owned
    have early := owned.freedDone (0, false) (by rw [frees]; simp)
    cases early
  · intro owned
    have once := owned.heldOnce
    rw [secondHeld] at once
    simp at once
  · intro owned
    have once := owned.heldOnce
    rw [thirdHeld] at once
    simp at once

end RyuLdn.P2pSessionOwnership
