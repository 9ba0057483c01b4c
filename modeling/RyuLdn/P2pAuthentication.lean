import RyuLdn.P2pServerRuns

/-! Which token a joiner is bound to. A search takes the first waiting token with
the presented sixteen bytes out of the queue; the virtual address it then hands
out is read through a reference into the shifted array. The first part follows one
`TryRegisterUser` call through its searches, the second follows the calls of
`AddWaitingToken` through whole runs of the server. -/
namespace RyuLdn.P2pAuthentication

open ArrayQueue P2pServer P2pServerRuns ProtocolTypes TransitionSystem

def firstWaiting (server : Server) (config : ExternalProxyConfig) : Option Nat :=
  server.waitingTokens.entries.findIdx? (fun w => w.token.token == config.token)

/-- The server that search number `n` works on when the ones before it found nothing:
only the other threads have changed it. -/
def beforeSearch (wait : Nat → Server → Server) (server : Server) : Nat → Server
  | 0 => server
  | n + 1 => wait (maxRetries - (n + 1)) (beforeSearch wait server n)

/-- The session carries the address of entry `w`, the joiner is told the same address,
and `w` alone has left the queue. -/
structure RegisteredWith (before after : Server) (s : SessionId) (i : Nat) (w : WaitingToken) :
    Prop where
  virtualIp : (after.session s).virtualIp = w.token.virtualIp
  proxyConfig : after.sent = before.sent ++ if (before.session s).canSend then
    [(s, proxyConfigPacket ⟨w.token.virtualIp, 0xFFFF0000⟩)] else []
  removed : after.waitingTokens.entries = before.waitingTokens.entries.eraseIdx i

def BindsOwnToken (wait : Nat → Server → Server) (s : SessionId) (config : ExternalProxyConfig)
    (remoteIp : UInt32) (server : Server) : Prop :=
  match tryRegisterUser wait s config remoteIp server with
  | (true, after) =>
      ∃ n < maxRetries, ∃ i w,
        (∀ m < n, firstWaiting (beforeSearch wait server m) config = none) ∧
          firstWaiting (beforeSearch wait server n) config = some i ∧
          (beforeSearch wait server n).waitingTokens.entries[i]? = some w ∧
          RegisteredWith (beforeSearch wait server n) after s i w
  | (false, after) =>
      (∀ m < maxRetries, firstWaiting (beforeSearch wait server m) config = none) ∧
        after = beforeSearch wait server maxRetries

/-- The entry behind the first match, if there is one, has the same virtual address. -/
def NextSharesAddress (server : Server) (config : ExternalProxyConfig) : Prop :=
  ∀ i w next, firstWaiting server config = some i →
    server.waitingTokens.entries[i]? = some w →
    server.waitingTokens.entries[i + 1]? = some next → next.token.virtualIp = w.token.virtualIp

theorem firstWaiting_eq (server : Server) (config : ExternalProxyConfig) (remoteIp : UInt32) :
    server.waitingTokens.entries.findIdx? (fun w => accepts w.token config remoteIp) =
      firstWaiting server config := by
  rw [firstWaiting]
  congr 1
  funext w
  rw [Bool.eq_iff_iff, accepts_iff, beq_iff_eq]

theorem registerAttempt_eq_none {server : Server} {config : ExternalProxyConfig}
    (absent : firstWaiting server config = none) (s : SessionId) (remoteIp : UInt32) :
    server.registerAttempt s config remoteIp = none := by
  rw [Server.registerAttempt, firstWaiting_eq, absent]

theorem firstWaiting_lt {server : Server} {config : ExternalProxyConfig} {i : Nat}
    (found : firstWaiting server config = some i) : i < server.waitingTokens.count := by
  obtain ⟨bound, _⟩ := List.findIdx?_eq_some_iff_getElem.mp found
  rwa [Queue.length_entries] at bound

theorem registerAttempt_of_found {server : Server} {config : ExternalProxyConfig} {i : Nat}
    {w : WaitingToken} (found : firstWaiting server config = some i)
    (entry : server.waitingTokens.entries[i]? = some w) (s : SessionId) (remoteIp : UInt32) :
    server.registerAttempt s config remoteIp =
      some (({ server with
        waitingTokens := server.waitingTokens.removeAt i
        consumed := server.consumed ++ [w.call] } : Server).enroll s
          ((server.waitingTokens.entries[i + 1]?.getD w).token.virtualIp)) := by
  have live := firstWaiting_lt found
  have matched : server.waitingTokens.entries.getD i default = w := by
    rw [List.getD_eq_getElem?_getD, entry, Option.getD_some]
  have reference : ((server.waitingTokens.removeAt i).cells.getD i default) =
      server.waitingTokens.entries[i + 1]?.getD w := by
    rw [List.getD_eq_getElem?_getD, Queue.removeAt_cells _ live]
    by_cases more : i + 1 < server.waitingTokens.count
    · rw [if_pos more, List.getElem?_eq_getElem (by rw [Queue.length_entries]; exact more)]
      rfl
    · rw [if_neg more, entry, List.getElem?_eq_none (by rw [Queue.length_entries]; omega)]
      rfl
  rw [Server.registerAttempt, firstWaiting_eq, found]
  simp only [matched, reference]

theorem registeredWith_iff {server after : Server} {config : ExternalProxyConfig} {i : Nat}
    {w : WaitingToken} (found : firstWaiting server config = some i)
    (entry : server.waitingTokens.entries[i]? = some w) {s : SessionId} {remoteIp : UInt32}
    (success : server.registerAttempt s config remoteIp = some after) :
    RegisteredWith server after s i w ↔ NextSharesAddress server config := by
  have live := firstWaiting_lt found
  rw [registerAttempt_of_found found entry, Server.enroll_eq] at success
  injection success with result
  have address : (after.session s).virtualIp =
      (server.waitingTokens.entries[i + 1]?.getD w).token.virtualIp := by
    rw [← result]
    simp
  constructor
  · rintro ⟨own, _, _⟩ j v next found' entry' behind
    rw [found] at found'
    cases found'
    rw [entry] at entry'
    cases entry'
    rw [address, behind] at own
    exact own
  · intro shares
    have same : (server.waitingTokens.entries[i + 1]?.getD w).token.virtualIp =
        w.token.virtualIp := by
      cases behind : server.waitingTokens.entries[i + 1]? with
      | none => rfl
      | some next => exact shares i w next found entry behind
    rw [same] at address result
    refine ⟨address, ?_, ?_⟩
    · rw [← result]
    · rw [← Queue.entries_removeAt _ live, ← result]
      rw [Server.insertSession]
      split <;> rfl

section Call

variable {wait : Nat → Server → Server} {server : Server} {config : ExternalProxyConfig}
  (s : SessionId) (remoteIp : UInt32)

theorem tryRegisterUser_after {n : Nat} (bound : n ≤ maxRetries)
    (earlier : ∀ m < n, firstWaiting (beforeSearch wait server m) config = none) :
    tryRegisterUser wait s config remoteIp server =
      registerLoop wait s config remoteIp (maxRetries - n) (beforeSearch wait server n) := by
  induction n with
  | zero => rfl
  | succ n ih =>
      have left : maxRetries - n = maxRetries - (n + 1) + 1 := by omega
      rw [ih (by omega) (fun m less => earlier m (by omega)), left, registerLoop,
        registerAttempt_eq_none (earlier n (by omega))]
      rfl

theorem tryRegisterUser_of_none
    (absent : ∀ m < maxRetries, firstWaiting (beforeSearch wait server m) config = none) :
    tryRegisterUser wait s config remoteIp server =
      (false, beforeSearch wait server maxRetries) := by
  rw [tryRegisterUser_after s remoteIp (le_refl maxRetries) absent, Nat.sub_self, registerLoop]

theorem tryRegisterUser_of_found {n i : Nat} (bound : n < maxRetries)
    (earlier : ∀ m < n, firstWaiting (beforeSearch wait server m) config = none)
    (found : firstWaiting (beforeSearch wait server n) config = some i) :
    ∃ w after, (beforeSearch wait server n).waitingTokens.entries[i]? = some w ∧
      (beforeSearch wait server n).registerAttempt s config remoteIp = some after ∧
      tryRegisterUser wait s config remoteIp server = (true, after) := by
  have live := firstWaiting_lt found
  have entry := List.getElem?_eq_getElem
    (show i < (beforeSearch wait server n).waitingTokens.entries.length by
      rwa [Queue.length_entries])
  have success := registerAttempt_of_found found entry s remoteIp
  refine ⟨_, _, entry, success, ?_⟩
  have left : maxRetries - n = maxRetries - (n + 1) + 1 := by omega
  rw [tryRegisterUser_after s remoteIp bound.le earlier, left, registerLoop, success]

theorem bindsOwnToken_iff :
    BindsOwnToken wait s config remoteIp server ↔
      ∀ n < maxRetries, (∀ m < n, firstWaiting (beforeSearch wait server m) config = none) →
        NextSharesAddress (beforeSearch wait server n) config := by
  by_cases present : ∃ n, n < maxRetries ∧
      firstWaiting (beforeSearch wait server n) config ≠ none
  · -- the first search that finds the token decides the call
    classical
    let n := Nat.find present
    obtain ⟨bound, here⟩ : n < maxRetries ∧
        firstWaiting (beforeSearch wait server n) config ≠ none := Nat.find_spec present
    obtain ⟨i, found⟩ := Option.ne_none_iff_exists'.mp here
    have earlier : ∀ m < n, firstWaiting (beforeSearch wait server m) config = none := by
      intro m less
      by_contra other
      exact Nat.find_min present less ⟨by omega, other⟩
    have unique : ∀ k < maxRetries,
        (∀ m < k, firstWaiting (beforeSearch wait server m) config = none) →
        firstWaiting (beforeSearch wait server k) config ≠ none → k = n := by
      intro k kBound kEarlier kFound
      rcases Nat.lt_trichotomy k n with less | same | more
      · exact absurd (earlier k less) kFound
      · exact same
      · exact absurd (kEarlier n more) here
    obtain ⟨w, after, entry, success, outcome⟩ :=
      tryRegisterUser_of_found s remoteIp bound earlier found
    have exact := registeredWith_iff found entry success
    rw [BindsOwnToken, outcome]
    constructor
    · rintro ⟨k, kBound, j, v, kEarlier, kFound, kEntry, registered⟩
      obtain rfl := unique k kBound kEarlier (by simp [kFound])
      rw [found] at kFound
      cases kFound
      rw [entry] at kEntry
      cases kEntry
      intro m mBound mEarlier
      by_cases mFound : firstWaiting (beforeSearch wait server m) config = none
      · intro _ _ _ contradiction
        rw [mFound] at contradiction
        cases contradiction
      · rw [unique m mBound mEarlier mFound]
        exact exact.mp registered
    · intro condition
      exact ⟨n, bound, i, w, earlier, found, entry, exact.mpr (condition n bound earlier)⟩
  · have absent : ∀ m < maxRetries, firstWaiting (beforeSearch wait server m) config = none := by
      intro m bound
      by_contra other
      exact present ⟨m, bound, other⟩
    rw [BindsOwnToken, tryRegisterUser_of_none s remoteIp absent]
    refine iff_of_true ⟨absent, rfl⟩ ?_
    intro n bound _ i w next found
    rw [absent n bound] at found
    cases found

end Call

def tokenState (server : Server) : Queue WaitingToken maxWaitingTokens × Nat × List Nat :=
  (server.waitingTokens, server.addCalls, server.consumed)

section Frame

variable (server : Server) (s : SessionId)

@[simp] theorem tokenState_disconnect (fromMaster : Bool) :
    tokenState ((server.disconnect s fromMaster).getD server) = tokenState server := by
  rw [Server.disconnect]
  split <;> rfl

@[simp] theorem tokenState_free : tokenState (server.free s) = tokenState server := by
  have kept := tokenState_disconnect
    { server with frees := server.frees ++ [(s, (server.session s).threadDone)] } s true
  rw [Server.free]
  split
  · exact kept
  · exact kept

@[simp] theorem tokenState_resetZombie (i : Nat) (z : Option SessionId) :
    tokenState (server.resetZombie i z) = tokenState server := by
  rw [Server.resetZombie]
  split
  · rw [tokenState_free]
    rfl
  · rfl

theorem tokenState_pushZombie : tokenState (server.pushZombie s) = tokenState server :=
  tokenState_resetZombie server server.zombieSessionCount (some s)

theorem tokenState_releaseSession : tokenState (server.releaseSession s) = tokenState server := by
  rw [Server.releaseSession]
  split
  · dsimp only
    rw [Server.notifyMasterDisconnect]
    split
    · split <;> rfl
    · rfl
  · rfl

theorem tokenState_onSessionDisconnected :
    tokenState (server.onSessionDisconnected s) = tokenState server := by
  rw [Server.onSessionDisconnected]
  split
  · rw [tokenState_pushZombie, tokenState_releaseSession]
  · rw [tokenState_releaseSession]

theorem tokenState_reapZombieSessions :
    tokenState server.reapZombieSessions.1 = tokenState server := by
  have turns : ∀ (indices : List Nat) (state : Server × Nat × List SessionId),
      tokenState (indices.foldl reapZombie state).1 = tokenState state.1 := by
    intro indices
    induction indices with
    | nil => intro state; rfl
    | cons i indices ih =>
        rintro ⟨here, kept, taken⟩
        rw [List.foldl_cons, ih, reapZombie]
        split
        · split <;> simp
        · simp
  have tail : ∀ (indices : List Nat) (here : Server),
      tokenState (indices.foldl (fun server i => server.resetZombie i none) here) =
        tokenState here := by
    intro indices
    induction indices with
    | nil => intro here; rfl
    | cons i indices ih =>
        intro here
        rw [List.foldl_cons, ih, tokenState_resetZombie]
  rw [Server.reapZombieSessions]
  exact (tail _ _).trans (turns (List.range server.zombieSessionCount) (server, 0, []))

theorem tokenState_accept (fd : Nat) (remoteIp : UInt32) (threadCreated : Bool) :
    tokenState (server.accept fd remoteIp threadCreated).1 = tokenState server := by
  rw [Server.accept]
  split
  · rfl
  · split <;> rfl

theorem tokenState_stopSession (i : Nat) : tokenState (stopSession server i) = tokenState server := by
  rw [stopSession]
  split
  · rename_i z _
    dsimp only
    rw [Server.retire]
    split
    · rw [tokenState_pushZombie]
      exact tokenState_disconnect server z true
    · rw [tokenState_free]
      exact tokenState_disconnect server z true
  · rfl

theorem tokenState_stopSessions (indices : List Nat) :
    tokenState (indices.foldl stopSession server) = tokenState server := by
  induction indices generalizing server with
  | nil => rfl
  | cons i indices ih => rw [List.foldl_cons, ih, tokenState_stopSession]

end Frame

/-- Every `AddWaitingToken` call is in the queue or behind a registration at most once. -/
structure CallsDistinct (state : Queue WaitingToken maxWaitingTokens × Nat × List Nat) : Prop where
  nodup : (state.1.entries.map WaitingToken.call ++ state.2.2).Nodup
  issued : ∀ call ∈ state.1.entries.map WaitingToken.call ++ state.2.2, call < state.2.1

theorem CallsDistinct.sublist {server : Server} (h : CallsDistinct (tokenState server))
    {queue : Queue WaitingToken maxWaitingTokens}
    (fewer : queue.entries.Sublist server.waitingTokens.entries) :
    CallsDistinct (queue, server.addCalls, server.consumed) := by
  have sub : (queue.entries.map WaitingToken.call ++ server.consumed).Sublist
      (server.waitingTokens.entries.map WaitingToken.call ++ server.consumed) :=
    (fewer.map _).append_right _
  exact ⟨h.nodup.sublist sub, fun call member => h.issued call (sub.subset member)⟩

theorem CallsDistinct.addWaitingToken {server : Server} (h : CallsDistinct (tokenState server))
    (token : ExternalProxyToken) : CallsDistinct (tokenState (server.addWaitingToken token)) := by
  -- the queue with room for one more, whether or not the oldest entry had to go
  obtain ⟨queue, room, fewer, next⟩ : ∃ queue : Queue WaitingToken maxWaitingTokens,
      queue.count < maxWaitingTokens ∧ queue.entries.Sublist server.waitingTokens.entries ∧
        tokenState (server.addWaitingToken token) =
          (queue.push ⟨server.addCalls, token⟩, server.addCalls + 1, server.consumed) := by
    have bound := server.waitingTokens.count_le
    by_cases full : server.waitingTokens.count ≥ maxWaitingTokens
    · refine ⟨server.waitingTokens.dropOldest, ?_, ?_, ?_⟩
      · have some : 0 < maxWaitingTokens := by decide
        simp only [Queue.dropOldest]
        omega
      · rw [Queue.entries_dropOldest _ (by omega)]
        exact List.tail_sublist _
      · simp [tokenState, Server.addWaitingToken, full]
    · refine ⟨server.waitingTokens, by omega, List.Sublist.refl _, ?_⟩
      simp [tokenState, Server.addWaitingToken, full]
  obtain ⟨nodup, issued⟩ := h.sublist fewer
  have entries := Queue.entries_push queue ⟨server.addCalls, token⟩ room
  have perm : ((queue.push ⟨server.addCalls, token⟩).entries.map WaitingToken.call ++
      server.consumed).Perm
        (server.addCalls :: (queue.entries.map WaitingToken.call ++ server.consumed)) := by
    rw [entries, List.map_append, List.append_assoc]
    exact List.perm_middle
  rw [next]
  refine ⟨?_, ?_⟩
  · rw [perm.nodup_iff, List.nodup_cons]
    refine ⟨?_, nodup⟩
    intro member
    exact lt_irrefl _ (issued _ member)
  · intro call member
    rcases List.mem_cons.mp (perm.mem_iff.mp member) with rfl | old
    · exact Nat.lt_succ_self _
    · exact Nat.lt_succ_of_lt (issued call old)

theorem CallsDistinct.registerAttempt {server after : Server} {s : SessionId}
    {config : ExternalProxyConfig} {remoteIp : UInt32} (h : CallsDistinct (tokenState server))
    (success : server.registerAttempt s config remoteIp = some after) :
    CallsDistinct (tokenState after) := by
  cases found : firstWaiting server config with
  | none =>
      rw [registerAttempt_eq_none found] at success
      cases success
  | some i =>
      have live := firstWaiting_lt found
      have bound : i < server.waitingTokens.entries.length := by rwa [Queue.length_entries]
      have entry := List.getElem?_eq_getElem bound
      rw [registerAttempt_of_found found entry, Server.enroll_eq] at success
      injection success with result
      have next : tokenState after = (server.waitingTokens.removeAt i, server.addCalls,
          server.consumed ++ [(server.waitingTokens.entries[i]).call]) := by
        rw [← result, tokenState, Server.insertSession]
        split <;> rfl
      -- the entry that leaves the queue is the one the registration is charged with
      have perm : ((server.waitingTokens.removeAt i).entries.map WaitingToken.call ++
          (server.consumed ++ [(server.waitingTokens.entries[i]).call])).Perm
            (server.waitingTokens.entries.map WaitingToken.call ++ server.consumed) := by
        rw [Queue.entries_removeAt _ live, ← List.append_assoc]
        refine (List.perm_append_singleton _ _).trans ?_
        rw [← List.cons_append, ← List.map_cons]
        exact ((List.getElem_cons_eraseIdx_perm bound).map _).append_right _
      rw [next]
      exact ⟨perm.nodup_iff.mpr h.nodup, fun call member => h.issued call (perm.mem_iff.mp member)⟩

theorem ServerStep.callsDistinct {server next : Server} (taken : ServerStep server next)
    (h : CallsDistinct (tokenState server)) : CallsDistinct (tokenState next) := by
  cases taken with
  | unchanged => exact h
  | accept fd remoteIp threadCreated =>
      rw [tokenState_accept]
      exact h
  | addWaitingToken token => exact h.addWaitingToken token
  | register success => exact h.registerAttempt success
  | disconnect closed =>
      rename_i s
      have same := tokenState_disconnect server s false
      rw [closed] at same
      exact same ▸ h
  | onSessionDisconnected s =>
      rw [tokenState_onSessionDisconnected]
      exact h
  | threadExit s => exact h
  | stateChange virtualIp connected =>
      rw [Server.handleExternalProxyStateChange]
      split
      · exact h
      · refine h.sublist ?_
        rw [Queue.entries_keep]
        exact List.filter_sublist
  | free s =>
      rw [tokenState_free]
      exact h
  | reap =>
      rw [tokenState_reapZombieSessions]
      exact h
  | stop =>
      rw [Server.stop]
      split
      · have stopped := tokenState_stopSessions { server with running := false }
          (List.range maxPlayers)
        obtain ⟨queue, calls, consumed⟩ : _ ∧ _ ∧ _ := by
          simpa only [tokenState, Prod.mk.injEq] using stopped
        rw [tokenState, calls, consumed]
        refine h.sublist ?_
        rw [Queue.entries_clear]
        exact List.nil_sublist _
      · exact h

theorem run_callsDistinct {masterCallback : Bool} {actions : List Action} {st : State}
    (steps : run step (init masterCallback) actions = some st) :
    CallsDistinct (tokenState st.server) := by
  have start : CallsDistinct (Queue.empty, 0, []) := ⟨by decide, by decide⟩
  refine run_invariant (fun st : State => CallsDistinct (tokenState st.server)) ?_ steps start
  intro st a next taken
  exact ServerStep.callsDistinct (step_serverStep taken)

/-- A registration binds its joiner to its own token exactly when the matched entry is the
last one or the entry behind it has the same address; and whatever the threads do,
no two registrations take the entry of one `AddWaitingToken` call. -/
theorem registration_binds_own_token_iff (wait : Nat → Server → Server) (s : SessionId)
    (config : ExternalProxyConfig) (remoteIp : UInt32) (server : Server) :
    (BindsOwnToken wait s config remoteIp server ↔
        ∀ n < maxRetries, (∀ m < n, firstWaiting (beforeSearch wait server m) config = none) →
          NextSharesAddress (beforeSearch wait server n) config) ∧
      ∀ masterCallback actions st, run step (init masterCallback) actions = some st →
        st.server.consumed.Nodup := by
  refine ⟨bindsOwnToken_iff s remoteIp, ?_⟩
  intro masterCallback actions st steps
  exact (List.nodup_append.mp (run_callsDistinct steps).nodup).2.1

/-- Two joiners wait, 10.114.0.2 and 10.114.0.3; the first one to present its token is
registered under the address of the second. -/
theorem registration_binds_next_token :
    let token := fun (ip : UInt32) (byte : UInt8) => (⟨ip, ⟨List.replicate 16 byte, rfl⟩,
      default, 2⟩ : ExternalProxyToken)
    let waiting := ((Server.start false).addWaitingToken (token 0x0A720002 1)).addWaitingToken
      (token 0x0A720003 2)
    let server := (waiting.accept 7 0 true).1
    ¬ BindsOwnToken (fun _ => id) 0 ⟨default, 2, 0, ⟨List.replicate 16 1, rfl⟩⟩ 0 server := by
  intro token waiting server
  rw [bindsOwnToken_iff]
  intro condition
  have shares := condition 0 (by decide) (by simp)
  have wrong := shares 0 ⟨0, token 0x0A720002 1⟩ ⟨1, token 0x0A720003 2⟩ (by decide) (by decide)
    (by decide)
  exact absurd wrong (by decide)

end RyuLdn.P2pAuthentication
