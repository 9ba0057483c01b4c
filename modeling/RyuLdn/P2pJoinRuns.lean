import RyuLdn.P2pJoin

/-! What a joiner and its host agree on. First what the host's threads do to one session:
everything but a registration of this session leaves its address and its packets alone.
Then the invariant of the connection, and what it says of every state of a run and of
the states in which nothing is under way. -/
namespace RyuLdn.P2pJoin

open ArrayQueue LittleEndian P2pServer ProtocolCodec ProtocolTypes StreamFraming StreamReassembly
open TransitionSystem

structure Untouched (s : SessionId) (before after : Server) : Prop where
  virtualIp : (after.session s).virtualIp = (before.session s).virtualIp
  authenticated : (after.session s).authenticated = (before.session s).authenticated
  canSend : (after.session s).canSend = true → (before.session s).canSend = true
  sent : sentTo s after = sentTo s before
  allocated : before.allocated ≤ after.allocated

namespace Untouched

variable {s : SessionId}

theorem refl (server : Server) : Untouched s server server :=
  ⟨rfl, rfl, id, rfl, le_refl _⟩

theorem trans {a b c : Server} (first : Untouched s a b) (second : Untouched s b c) :
    Untouched s a c where
  virtualIp := second.virtualIp.trans first.virtualIp
  authenticated := second.authenticated.trans first.authenticated
  canSend up := first.canSend (second.canSend up)
  sent := second.sent.trans first.sent
  allocated := first.allocated.trans second.allocated

theorem same {before after : Server} (session : after.session = before.session)
    (sent : after.sent = before.sent) (allocated : after.allocated = before.allocated) :
    Untouched s before after where
  virtualIp := by rw [session]
  authenticated := by rw [session]
  canSend up := by rwa [session] at up
  sent := by rw [sentTo, sentTo, sent]
  allocated := allocated.ge

theorem update {before after : Server} {r : SessionId} {changed : Session}
    (session : after.session = Function.update before.session r changed)
    (virtualIp : changed.virtualIp = (before.session r).virtualIp)
    (authenticated : changed.authenticated = (before.session r).authenticated)
    (canSend : changed.canSend = true → (before.session r).canSend = true)
    (sent : after.sent = before.sent) (allocated : after.allocated = before.allocated) :
    Untouched s before after := by
  by_cases here : s = r
  · subst here
    have now : after.session s = changed := by rw [session, Function.update_self]
    refine ⟨?_, ?_, ?_, by rw [sentTo, sentTo, sent], allocated.ge⟩
    · rw [now, virtualIp]
    · rw [now, authenticated]
    · rwa [now]
  · have now : after.session s = before.session s := by
      rw [session, Function.update_of_ne here]
    refine ⟨by rw [now], by rw [now], ?_, by rw [sentTo, sentTo, sent], allocated.ge⟩
    rw [now]
    exact id

theorem disconnect (server : Server) (r : SessionId) (fromMaster : Bool) :
    Untouched s server ((server.disconnect r fromMaster).getD server) := by
  rw [Server.disconnect]
  split
  · exact update (r := r) rfl rfl rfl (by simp [Session.close, Session.canSend]) rfl rfl
  · exact refl server

theorem free (server : Server) (r : SessionId) : Untouched s server (server.free r) := by
  have recorded : Untouched s server
      { server with frees := server.frees ++ [(r, (server.session r).threadDone)] } :=
    same rfl rfl rfl
  have closed := recorded.trans (disconnect (s := s) _ r true)
  rw [Server.free]
  split
  · exact closed
  · exact closed.trans (update (r := r) rfl rfl rfl id rfl rfl)

theorem resetZombie (server : Server) (i : Nat) (z : Option SessionId) :
    Untouched s server (server.resetZombie i z) := by
  have stored : Untouched s server
      { server with zombieSessions := server.zombieSessions.set i z } := same rfl rfl rfl
  rw [Server.resetZombie]
  split
  · exact stored.trans (free _ _)
  · exact stored

theorem pushZombie (server : Server) (r : SessionId) :
    Untouched s server (server.pushZombie r) :=
  (resetZombie server server.zombieSessionCount (some r)).trans (same rfl rfl rfl)

theorem releaseSession (server : Server) (r : SessionId) :
    Untouched s server (server.releaseSession r) := by
  rw [Server.releaseSession]
  split
  · dsimp only
    rw [Server.notifyMasterDisconnect]
    split_ifs <;> exact same rfl rfl rfl
  · exact refl server

theorem onSessionDisconnected (server : Server) (r : SessionId) :
    Untouched s server (server.onSessionDisconnected r) := by
  rw [Server.onSessionDisconnected]
  split
  · exact (releaseSession server r).trans (pushZombie _ r)
  · exact releaseSession server r

theorem foldl {α : Type} {turn : Server → α → Server}
    (one : ∀ server a, Untouched s server (turn server a)) (items : List α) (server : Server) :
    Untouched s server (items.foldl turn server) := by
  induction items generalizing server with
  | nil => exact refl server
  | cons a items ih => exact (one server a).trans (ih _)

theorem reapZombieSessions (server : Server) :
    Untouched s server server.reapZombieSessions.1 := by
  have turns : ∀ (indices : List Nat) (state : Server × Nat × List SessionId),
      Untouched s state.1 (indices.foldl reapZombie state).1 := by
    intro indices
    induction indices with
    | nil => intro state; exact refl _
    | cons i indices ih =>
        rintro ⟨here, kept, taken⟩
        refine Untouched.trans ?_ (ih _)
        rw [reapZombie]
        split
        · split
          · exact refl here
          · exact resetZombie here _ _
        · exact resetZombie here _ _
  have scanned := turns (List.range server.zombieSessionCount) (server, 0, [])
  have emptied : ∀ (indices : List Nat) (here : Server),
      Untouched s here (indices.foldl (fun server i => server.resetZombie i none) here) :=
    foldl fun here i => resetZombie here i none
  rw [Server.reapZombieSessions]
  refine Untouched.trans ?_ (emptied _ _)
  exact scanned.trans (same rfl rfl rfl)

theorem accept (server : Server) (fd : Nat) (remoteIp : UInt32) (threadCreated : Bool)
    (older : s < server.allocated) :
    Untouched s server (server.accept fd remoteIp threadCreated).1 := by
  have other : s ≠ server.allocated := older.ne
  rw [Server.accept]
  split
  · exact same rfl rfl rfl
  · dsimp only
    split <;>
      exact ⟨by simp [Server.modify, other], by simp [Server.modify, other],
        by simp [Server.modify, other], rfl, Nat.le_succ _⟩

theorem stopSession (server : Server) (i : Nat) : Untouched s server (stopSession server i) := by
  rw [P2pServer.stopSession]
  split
  · rename_i r _
    dsimp only
    have emptied : Untouched s ((server.disconnect r true).getD server)
        { (server.disconnect r true).getD server with
          sessions := ((server.disconnect r true).getD server).sessions.set i none } :=
      same rfl rfl rfl
    have closed := (disconnect (s := s) server r true).trans emptied
    rw [Server.retire]
    split
    · exact closed.trans (pushZombie _ r)
    · exact closed.trans (free _ r)
  · exact refl server

theorem stop (server : Server) : Untouched s server server.stop := by
  rw [Server.stop]
  split
  · have marked : Untouched s server { server with running := false } := same rfl rfl rfl
    have stopped := marked.trans (foldl stopSession (List.range maxPlayers) _)
    exact stopped.trans (same rfl rfl rfl)
  · exact refl server

theorem insertSession (server : Server) (r : SessionId) :
    (server.insertSession r).allocated = server.allocated := by
  rw [Server.insertSession]
  split <;> rfl

theorem register {server after : Server} {r : SessionId} {config : ExternalProxyConfig}
    {remoteIp : UInt32} (other : s ≠ r)
    (success : server.registerAttempt r config remoteIp = some after) :
    Untouched s server after := by
  obtain ⟨i, found⟩ : ∃ i, P2pAuthentication.firstWaiting server config = some i := by
    by_contra absent
    rw [P2pAuthentication.registerAttempt_eq_none
      (by simpa [Option.eq_none_iff_forall_ne_some] using absent)] at success
    cases success
  have live := P2pAuthentication.firstWaiting_lt found
  have entry := List.getElem?_eq_getElem
    (show i < server.waitingTokens.entries.length by rwa [Queue.length_entries])
  rw [P2pAuthentication.registerAttempt_of_found found entry, Server.enroll_eq] at success
  injection success with result
  subst result
  refine ⟨by simp [other], by simp [other], by simp [other], ?_, ?_⟩
  · simp only [sentTo, List.filter_append, List.map_append]
    split <;> simp [Ne.symm other]
  · simp [insertSession]

end Untouched

section Host

variable {s : SessionId} {host next : P2pServerRuns.State} {a : P2pServerRuns.Action}

theorem leave_untouched (host : P2pServerRuns.State) (r : SessionId)
    (closed : P2pServerRuns.ThreadPhase) :
    Untouched s host.server (host.leave r closed).server := by
  have gone := Untouched.disconnect (s := s) host.server r false
  rw [P2pServerRuns.State.leave]
  cases closing : host.server.disconnect r false with
  | some server =>
      rw [closing] at gone
      exact gone
  | none => exact Untouched.refl _

theorem proceed_untouched (host : P2pServerRuns.State) (call : P2pServerRuns.PendingCall)
    (rest : List P2pServerRuns.PendingCall) :
    Untouched s host.server (host.proceed call rest).server := by
  cases call with
  | disconnect r =>
      have gone := Untouched.disconnect (s := s) host.server r false
      simp only [P2pServerRuns.State.proceed]
      cases closing : host.server.disconnect r false with
      | some server =>
          rw [closing] at gone
          exact gone
      | none => exact Untouched.refl _
  | onSessionDisconnected r => exact Untouched.onSessionDisconnected _ r
  | delete r => exact Untouched.free _ r

theorem step_untouched (older : s < host.server.allocated) (other : a ≠ .attempt s)
    (taken : P2pServerRuns.step host a = some next) : Untouched s host.server next.server := by
  cases a <;> simp only [P2pServerRuns.step, Option.some.injEq] at taken
  case accept fd remoteIp threadCreated =>
    subst taken
    exact Untouched.accept _ fd remoteIp threadCreated older
  case addWaitingToken token =>
    subst taken
    exact Untouched.same rfl rfl rfl
  case externalProxy r config =>
    split at taken <;> cases taken
    exact Untouched.refl _
  case attempt r =>
    have elsewhere : s ≠ r := by
      rintro rfl
      exact other rfl
    split at taken
    · split at taken <;> cases taken
      · rename_i success
        exact Untouched.register elsewhere success
      · exact Untouched.refl _
    · cases taken
  case authFailed r =>
    split at taken <;> cases taken
    exact leave_untouched host r .receiving
  case receiveEnds r =>
    split at taken <;> cases taken
    exact leave_untouched host r .finished
  case notifyServer r =>
    split at taken <;> cases taken
    exact Untouched.onSessionDisconnected _ r
  case threadExit r =>
    split at taken <;> cases taken
    exact Untouched.update (r := r) rfl rfl rfl id rfl rfl
  case externalProxyStateChange virtualIp connected =>
    subst taken
    dsimp only
    rw [Server.handleExternalProxyStateChange]
    split
    · exact Untouched.refl _
    · exact Untouched.same rfl rfl rfl
  case proceed i =>
    split at taken <;> cases taken
    exact proceed_untouched host _ _
  case reap =>
    subst taken
    exact Untouched.reapZombieSessions _
  case stop =>
    subst taken
    exact Untouched.stop _

def registering (s : SessionId) (host : P2pServerRuns.State) : List ExternalProxyConfig :=
  match host.thread s with
  | .registering config _ => [config]
  | _ => []

theorem registering_of_ne {r : SessionId} {phase : P2pServerRuns.ThreadPhase}
    (thread : next.thread = Function.update host.thread r phase) (other : s ≠ r) :
    registering s next = registering s host := by
  rw [registering, registering, thread, Function.update_of_ne other]

theorem registering_of_idle {r : SessionId} {phase : P2pServerRuns.ThreadPhase}
    (thread : next.thread = Function.update host.thread r phase)
    (before : registering r host = []) (idle : ∀ config rounds, phase ≠ .registering config rounds) :
    registering s next = registering s host := by
  by_cases here : s = r
  · subst here
    rw [before, registering, thread, Function.update_self]
    cases phase <;> first | rfl | exact absurd rfl (idle _ _)
  · exact registering_of_ne thread here

theorem leave_thread (host : P2pServerRuns.State) (r : SessionId)
    (closed : P2pServerRuns.ThreadPhase) :
    (host.leave r closed).thread = Function.update host.thread r .notifying ∨
      (host.leave r closed).thread = Function.update host.thread r closed := by
  rw [P2pServerRuns.State.leave]
  split
  · exact Or.inl rfl
  · exact Or.inr rfl

theorem leave_canSend (host : P2pServerRuns.State) (r : SessionId)
    (closed : P2pServerRuns.ThreadPhase) :
    ((host.leave r closed).server.session r).canSend = false := by
  rw [P2pServerRuns.State.leave]
  by_cases live : (host.server.session r).connected = true
  · simp [Server.disconnect, live, P2pServerRuns.State.setThread, Server.modify, Session.close,
      Session.canSend]
  · simp [Server.disconnect, live, P2pServerRuns.State.setThread, Session.canSend]

theorem step_registering (older : s < host.server.allocated) (other : a ≠ .attempt s)
    (closed : ∀ config, a ≠ .externalProxy s config)
    (taken : P2pServerRuns.step host a = some next) :
    registering s next = registering s host ∨
      registering s next = [] ∧ (next.server.session s).canSend = false := by
  cases a <;> simp only [P2pServerRuns.step, Option.some.injEq] at taken
  case accept fd remoteIp threadCreated =>
    subst taken
    left
    cases started : (host.server.accept fd remoteIp threadCreated).2 with
    | some r =>
        have fresh : r = host.server.allocated := by
          rw [Server.accept] at started
          split at started
          · cases started
          · dsimp only at started
            split at started
            · cases started
            · split at started <;> simp_all
        have distinct : s ≠ r := fresh ▸ older.ne
        exact registering_of_ne rfl distinct
    | none => rfl
  case addWaitingToken token =>
    subst taken
    exact Or.inl rfl
  case externalProxy r config =>
    split at taken <;> cases taken
    have elsewhere : s ≠ r := by
      rintro rfl
      exact closed config rfl
    exact Or.inl (registering_of_ne rfl elsewhere)
  case attempt r =>
    have elsewhere : s ≠ r := by
      rintro rfl
      exact other rfl
    left
    split at taken
    · split at taken <;> cases taken <;> exact registering_of_ne rfl elsewhere
    · cases taken
  case authFailed r =>
    split at taken <;> cases taken
    by_cases here : s = r
    · subst here
      refine Or.inr ⟨?_, leave_canSend host s .receiving⟩
      rcases leave_thread host s .receiving with thread | thread <;>
        rw [registering, thread, Function.update_self]
    · left
      rcases leave_thread host r .receiving with thread | thread <;>
        exact registering_of_ne thread here
  case receiveEnds r =>
    split at taken <;> cases taken
    rename_i phase
    have idle : registering r host = [] := by rw [registering, phase]
    left
    rcases leave_thread host r .finished with thread | thread <;>
      exact registering_of_idle thread idle (by simp)
  case notifyServer r =>
    split at taken <;> cases taken
    rename_i phase
    exact Or.inl (registering_of_idle (r := r) rfl (by rw [registering, phase]) (by simp))
  case threadExit r =>
    split at taken <;> cases taken
    rename_i phase
    exact Or.inl (registering_of_idle (r := r) rfl (by rw [registering, phase]) (by simp))
  case externalProxyStateChange virtualIp connected =>
    subst taken
    exact Or.inl rfl
  case proceed i =>
    split at taken <;> cases taken
    left
    rename_i call _
    cases call with
    | disconnect r =>
        simp only [P2pServerRuns.State.proceed]
        split <;> rfl
    | onSessionDisconnected r => rfl
    | delete r => rfl
  case reap =>
    subst taken
    exact Or.inl rfl
  case stop =>
    subst taken
    exact Or.inl rfl

structure Enrols (s : SessionId) (host next : P2pServerRuns.State) (e : Enrolment) : Prop where
  was : registering s host = [e.config]
  now : registering s next = []
  token : e.token.token = e.config.token
  virtualIp : (next.server.session s).virtualIp = e.virtualIp
  authenticated : (next.server.session s).authenticated = true
  canSend : (next.server.session s).canSend = (host.server.session s).canSend
  sent : sentTo s next.server = sentTo s host.server ++
    if (host.server.session s).canSend then [proxyConfigPacket e.proxyConfig] else []
  allocated : next.server.allocated = host.server.allocated

inductive HostStep (s : SessionId) (host next : P2pServerRuns.State)
    (a : P2pServerRuns.Action) : Prop where
  | other (untouched : Untouched s host.server next.server)
      (registering : registering s next = registering s host ∨
        registering s next = [] ∧ (next.server.session s).canSend = false)
      (none : enrolled s host next a = none)
  | enrols (e : Enrolment) (enrols : Enrols s host next e)
      (some : enrolled s host next a = some e)

theorem attempt_hostStep (taken : P2pServerRuns.step host (.attempt s) = some next) :
    HostStep s host next (.attempt s) := by
  simp only [P2pServerRuns.step] at taken
  split at taken
  · rename_i config rounds phase
    split at taken
    · rename_i after success
      cases taken
      cases found : P2pAuthentication.firstWaiting host.server config with
      | none =>
          rw [P2pAuthentication.registerAttempt_eq_none found] at success
          cases success
      | some i =>
          have live := P2pAuthentication.firstWaiting_lt found
          have bound : i < host.server.waitingTokens.entries.length := by
            rwa [Queue.length_entries]
          have entry := List.getElem?_eq_getElem bound
          obtain ⟨_, own, _⟩ := List.findIdx?_eq_some_iff_getElem.mp found
          rw [P2pAuthentication.registerAttempt_of_found found entry, Server.enroll_eq] at success
          injection success with result
          refine .enrols ⟨config, (host.server.waitingTokens.entries.getD i default).token,
            (after.session s).virtualIp⟩ ⟨?_, ?_, ?_, rfl, ?_, ?_, ?_, ?_⟩ ?_
          · rw [registering, phase]
          · simp [registering, P2pServerRuns.State.setThread]
          · rw [List.getD_eq_getElem?_getD, entry, Option.getD_some]
            exact beq_iff_eq.mp own
          · simp [P2pServerRuns.State.setThread, ← result]
          · simp [P2pServerRuns.State.setThread, ← result, Session.canSend]
          · simp only [P2pServerRuns.State.setThread, ← result, sentTo, List.filter_append,
              List.map_append]
            split <;> simp [Enrolment.proxyConfig]
          · simp [P2pServerRuns.State.setThread, ← result, Untouched.insertSession]
          · simp [enrolled, phase, found, P2pServerRuns.State.setThread]
    · rename_i absent
      cases taken
      refine .other (Untouched.refl _) (Or.inl ?_) ?_
      · simp [registering, phase, P2pServerRuns.State.setThread]
      · cases found : P2pAuthentication.firstWaiting host.server config with
        | none => simp [enrolled, phase, found]
        | some i =>
            have live := P2pAuthentication.firstWaiting_lt found
            have entry := List.getElem?_eq_getElem
              (show i < host.server.waitingTokens.entries.length by rwa [Queue.length_entries])
            rw [P2pAuthentication.registerAttempt_of_found found entry] at absent
            cases absent
  · cases taken

theorem step_hostStep (older : s < host.server.allocated)
    (closed : ∀ config, a ≠ .externalProxy s config)
    (taken : P2pServerRuns.step host a = some next) : HostStep s host next a := by
  by_cases search : a = .attempt s
  · subst search
    exact attempt_hostStep taken
  · refine .other (step_untouched older search taken) (step_registering older search closed taken) ?_
    cases a <;> try rfl
    rename_i r
    have elsewhere : r ≠ s := by
      rintro rfl
      exact search rfl
    simp only [enrolled, if_neg elsewhere]
    split <;> rfl

end Host

structure Neutral (packet : List UInt8) : Prop where
  whole : IsPacket packet
  config : P2pClient.configOf packet = none
  auth : authOf packet = none

theorem Neutral.of_carries {type : PacketId} {packet : List UInt8} (carries : Carries type packet)
    (notConfig : type ≠ .proxyConfig) (notAuth : type ≠ .externalProxy) : Neutral packet where
  whole := carries.1
  config := configOf_of_carries carries notConfig
  auth := by
    rw [authOf]
    split
    · rename_i config found
      exact absurd found (not_externalProxy_of_carries carries notAuth config)
    · rfl

theorem outgoing_neutral (message : P2pClient.Outgoing) :
    message.packet = [] ∨ Neutral message.packet := by
  cases message with
  | proxyData header data =>
      rcases carries_encodeWithData header data with empty | carries
      · exact Or.inl empty
      · exact Or.inr (.of_carries carries (by decide) (by decide))
  | proxyConnect request =>
      right
      have carries := (@carries_encode .proxyConnect request.image (by simp)).2
      exact .of_carries carries (by decide) (by decide)
  | proxyConnectReply response =>
      right
      have carries := (@carries_encode .proxyConnectReply response.image (by simp)).2
      exact .of_carries carries (by decide) (by decide)
  | proxyDisconnect message =>
      right
      have carries := (@carries_encode .proxyDisconnect message.image
        (by simp [ProxyDisconnectMessage.image])).2
      exact .of_carries carries (by decide) (by decide)

theorem authOf_authPacket (config : ExternalProxyConfig) :
    authOf (P2pClient.authPacket config) = some config := by
  rw [authOf, processData_authPacket]

/-- A configuration has arrived and the connection stands: the client says it is ready. -/
def Answered (joiner : P2pClient.State) : Prop :=
  joiner.client.connected = true → (P2pClient.lastConfig joiner.processed).isSome = true →
    joiner.client.ready = true

inductive JoinerStep (joiner next : P2pClient.State) : Prop where
  | same (buffer : next.client.recvBuffer = joiner.client.recvBuffer)
      (processed : next.processed = joiner.processed)
      (client : next.client.connected = true →
        joiner.client.connected = true ∧ next.client.ready = joiner.client.ready)
  | takes (n : Nat) (head : packetHead joiner.client.recvBuffer.bytes = .frame n)
      (buffer : next.client.recvBuffer.bytes = joiner.client.recvBuffer.bytes.drop n)
      (processed : next.processed =
        joiner.processed ++ [joiner.client.recvBuffer.bytes.take n])
      (connected : next.client.connected = joiner.client.connected)
      (ready : next.client.ready = (joiner.client.ready ||
        (P2pClient.configOf (joiner.client.recvBuffer.bytes.take n)).isSome))

theorem processTurn_joinerStep (joiner : P2pClient.State) : JoinerStep joiner joiner.processTurn := by
  rw [P2pClient.State.processTurn]
  split
  · split
    · split
      · exact .same rfl rfl (fun up => ⟨up, rfl⟩)
      · exact .same rfl rfl (fun up => ⟨up, rfl⟩)
    · rename_i n peek
      have head := (PacketBuffer.peekPacket_eq_some _ n).mp peek
      refine .takes n head (PacketBuffer.consume_bytes _ n) rfl ?_ ?_ <;>
        simp only [P2pClient.Client.handle] <;>
        cases P2pClient.configOf (joiner.client.recvBuffer.bytes.take n) <;> simp
  · exact .same rfl rfl (fun up => ⟨up, rfl⟩)

theorem write_joinerStep (joiner : P2pClient.State) (packet : List UInt8) (n : Option Nat) :
    JoinerStep joiner (joiner.write packet n) := by
  rw [P2pClient.State.write]
  split <;> exact .same rfl rfl (fun up => ⟨up, rfl⟩)

def staysOn : P2pClient.Action → Bool
  | .connect .. | .connectResumes .. | .recv (some _) => false
  | _ => true

theorem staysOn_of_ownStep {a : P2pClient.Action} (own : ownStep a = true) : staysOn a = true := by
  cases a
  case recv chunk => cases chunk <;> first | rfl | exact own
  all_goals first | rfl | exact own

theorem step_joinerStep {joiner next : P2pClient.State} {a : P2pClient.Action}
    (own : staysOn a = true) (taken : P2pClient.step joiner a = some next) :
    JoinerStep joiner next := by
  have still : JoinerStep joiner joiner := .same rfl rfl (fun up => ⟨up, rfl⟩)
  cases a <;> simp only [P2pClient.step, Option.some.injEq, Option.ite_none_right_eq_some] at taken
  case connect => simp [staysOn] at own
  case connectResumes => simp [staysOn] at own
  case disconnect caller =>
    obtain ⟨_, rfl⟩ := taken
    rw [P2pClient.State.disconnect]
    split
    · exact still
    · dsimp only
      split
      · exact .same rfl rfl (fun up => ⟨up, rfl⟩)
      · exact .same rfl rfl (by simp [P2pClient.State.finishDisconnect, P2pClient.State.withClient])
  case dispose =>
    subst taken
    exact .same rfl rfl (fun up => ⟨up, rfl⟩)
  case threadJoined caller =>
    obtain ⟨_, rfl⟩ := taken
    exact .same rfl rfl (fun up => ⟨up, rfl⟩)
  case disconnectResumes caller =>
    obtain ⟨_, rfl⟩ := taken
    exact .same rfl rfl (by simp [P2pClient.State.finishDisconnect, P2pClient.State.withClient])
  case performAuth config n =>
    subst taken
    split
    · exact write_joinerStep _ _ _
    · exact still
  case send packet n =>
    subst taken
    split
    · exact write_joinerStep _ _ _
    · exact still
  case ensureProxyReady caller =>
    obtain ⟨_, taken⟩ := taken
    split at taken
    · cases taken
      exact .same rfl rfl (fun up => ⟨up, rfl⟩)
    · split at taken <;> cases taken <;> exact .same rfl rfl (fun up => ⟨up, rfl⟩)
  case readyWaitEnds caller =>
    obtain ⟨_, rfl⟩ := taken
    exact .same rfl rfl (fun up => ⟨up, rfl⟩)
  case recvLoop =>
    obtain ⟨_, rfl⟩ := taken
    exact .same rfl rfl (fun up => ⟨up, rfl⟩)
  case recv chunk =>
    cases chunk with
    | some bytes => simp [staysOn] at own
    | none =>
        split at taken
        · rename_i impossible
          cases impossible
        · cases taken
          exact .same rfl rfl (fun up => ⟨up, rfl⟩)
        · cases taken
  case process =>
    obtain ⟨_, rfl⟩ := taken
    exact processTurn_joinerStep joiner
  case recvThreadExits =>
    obtain ⟨_, rfl⟩ := taken
    rw [P2pClient.State.exitReceiving]
    by_cases live : (joiner.client.connected && !joiner.client.disposed) = true
    · refine .same ?_ rfl ?_ <;> simp [live]
    · refine .same ?_ rfl ?_ <;> simp [live]

theorem Answered.joinerStep {joiner next : P2pClient.State} (answered : Answered joiner)
    (taken : JoinerStep joiner next) : Answered next := by
  cases taken with
  | same buffer processed client =>
      intro up arrived
      obtain ⟨before, ready⟩ := client up
      rw [processed] at arrived
      rw [ready]
      exact answered before arrived
  | takes n head buffer processed connected ready =>
      intro up arrived
      rw [processed, P2pClient.OneConnection.lastConfig_append] at arrived
      rw [connected] at up
      rw [ready]
      cases found : P2pClient.configOf (joiner.client.recvBuffer.bytes.take n) with
      | some config => simp
      | none =>
          rw [found] at arrived
          simp [answered up arrived]

theorem recv_fits {joiner next : P2pClient.State} {chunk : List UInt8}
    (fits : joiner.client.recvBuffer.bytes.length + chunk.length ≤ P2pClient.recvBufferSize)
    (taken : P2pClient.step joiner (.recv (some chunk)) = some next) :
    next.client.recvBuffer.bytes = joiner.client.recvBuffer.bytes ++ chunk ∧
      next.processed = joiner.processed ∧ next.client.connected = joiner.client.connected ∧
      next.client.ready = joiner.client.ready := by
  simp only [P2pClient.step] at taken
  split at taken
  · rename_i chunk' _ same
    cases same
    split at taken
    · cases taken
      rcases PacketBuffer.append_cases joiner.client.recvBuffer chunk with
        ⟨ok, grown, _⟩ | ⟨_, ended⟩
      · rw [P2pClient.State.receive]
        rcases appended : joiner.client.recvBuffer.append chunk with ⟨result, buffer⟩
        rw [appended] at ok grown
        dsimp only at ok grown
        subst ok
        exact ⟨grown, rfl, rfl, rfl⟩
      · omega
    · cases taken
  · rename_i impossible
    cases impossible
  · cases taken

structure Joined (s : SessionId) (st : Join) : Prop where
  older : s < st.host.server.allocated
  one : P2pClient.OneConnection st.joiner
  answered : Answered st.joiner
  upTracks : Tracks st.up st.upRead st.hostBuffer.bytes st.hostProcessed
  upPackets : ∀ p ∈ st.up, IsPacket p
  upAuths : st.up.filterMap authOf = st.auths
  requests : (st.enrolments.map (·.config) ++ registering s st.host).Sublist
    (st.hostProcessed.filterMap authOf)
  served : (st.host.server.session s).canSend = true →
    st.enrolments.map (·.config) ++ registering s st.host = st.hostProcessed.filterMap authOf
  tokens : ∀ e ∈ st.enrolments, e.token.token = e.config.token
  authenticated : (st.host.server.session s).authenticated = true ↔ st.enrolments ≠ []
  virtualIp : (st.host.server.session s).virtualIp =
    ((st.enrolments.getLast?).map (·.virtualIp)).getD 0
  downTracks : Tracks st.down st.downRead st.joiner.client.recvBuffer.bytes st.joiner.processed
  downPackets : ∀ p ∈ st.down, IsPacket p
  replies : (st.down.filterMap P2pClient.configOf).Sublist
    (st.enrolments.map Enrolment.proxyConfig)
  replied : (st.host.server.session s).canSend = true →
    st.down.filterMap P2pClient.configOf = st.enrolments.map Enrolment.proxyConfig

theorem tracks_extend {frames : List (List UInt8)} (more : List (List UInt8))
    {received buffer : List UInt8} {delivered : List (List UInt8)}
    (h : Tracks frames received buffer delivered) :
    Tracks (frames ++ more) received buffer delivered where
  delivered_frames := h.delivered_frames.trans (List.prefix_append frames more)
  received_eq := h.received_eq
  received_stream := by
    rw [List.flatten_append]
    exact h.received_stream.trans (List.prefix_append _ _)

theorem isPacket_ne_nil {packet : List UInt8} (whole : IsPacket packet) : packet ≠ [] := by
  rintro rfl
  have incomplete : packetHead [] = .incomplete := packetFraming.head_nil
  rw [isPacket_iff.mp whole] at incomplete
  cases incomplete

theorem emit_outgoing (stream : List (List UInt8)) (message : P2pClient.Outgoing) :
    ∃ more, emit stream message.packet = stream ++ more ∧ ∀ p ∈ more, Neutral p := by
  rcases outgoing_neutral message with empty | neutral
  · exact ⟨[], by simp [emit, empty], by simp⟩
  · refine ⟨[message.packet], ?_, by simpa using neutral⟩
    rw [emit, if_neg (isPacket_ne_nil neutral.whole)]

theorem filterMap_neutral {α : Type} {f : List UInt8 → Option α} {more : List (List UInt8)}
    (none : ∀ p ∈ more, f p = none) : more.filterMap f = [] :=
  List.filterMap_eq_nil_iff.mpr none

namespace Joined

variable {s : SessionId} {st next : Join}

theorem host {a : P2pServerRuns.Action} (joined : Joined s st)
    (closed : ∀ config, a ≠ .externalProxy s config) (taken : st.hostStep s a = some next) :
    Joined s next := by
  obtain ⟨host, step, rfl⟩ := Option.map_eq_some_iff.mp taken
  cases step_hostStep joined.older closed step with
  | other untouched still none =>
      have silent : (sentTo s host.server).drop (sentTo s st.host.server).length = [] := by
        rw [untouched.sent]
        exact List.drop_length
      simp only [none, silent, Option.toList_none, List.append_nil]
      refine { joined with
        older := lt_of_lt_of_le joined.older untouched.allocated
        requests := ?_
        served := ?_
        authenticated := by rw [untouched.authenticated]; exact joined.authenticated
        virtualIp := by rw [untouched.virtualIp]; exact joined.virtualIp
        replied := fun up => joined.replied (untouched.canSend up) }
      · refine List.Sublist.trans ?_ joined.requests
        rcases still with same | ⟨gone, _⟩
        · rw [same]
        · rw [gone]
          exact (List.Sublist.refl _).append (List.nil_sublist _)
      · intro up
        rcases still with same | ⟨_, silent⟩
        · rw [same]
          exact joined.served (untouched.canSend up)
        · rw [silent] at up
          cases up
  | enrols e enrols some =>
      have reply : (sentTo s host.server).drop (sentTo s st.host.server).length =
          if (st.host.server.session s).canSend then [proxyConfigPacket e.proxyConfig] else [] := by
        rw [enrols.sent]
        exact List.drop_left
      simp only [some, reply, Option.toList_some]
      refine { joined with
        older := enrols.allocated ▸ joined.older
        requests := ?_
        served := ?_
        tokens := ?_
        authenticated := by simp [enrols.authenticated]
        virtualIp := by simp [enrols.virtualIp]
        downTracks := tracks_extend _ joined.downTracks
        downPackets := ?_
        replies := ?_
        replied := ?_ }
      · rw [enrols.now, List.map_append, List.append_nil]
        have requests := joined.requests
        rwa [enrols.was] at requests
      · intro up
        rw [enrols.canSend] at up
        rw [enrols.now, List.map_append, List.append_nil, ← joined.served up, enrols.was]
        rfl
      · intro e' member
        rcases List.mem_append.mp member with old | here
        · exact joined.tokens e' old
        · rw [List.mem_singleton.mp here]
          exact enrols.token
      · intro p member
        rcases List.mem_append.mp member with old | here
        · exact joined.downPackets p old
        · split at here
          · rw [List.mem_singleton.mp here]
            exact (carries_proxyConfigPacket _).1
          · cases here
      · rw [List.filterMap_append, List.map_append]
        refine joined.replies.append ?_
        split <;> simp [configOf_proxyConfigPacket]
      · intro up
        rw [enrols.canSend] at up
        rw [List.filterMap_append, List.map_append, joined.replied up]
        simp [up, configOf_proxyConfigPacket]

theorem forward (joined : Joined s st) (message : P2pClient.Outgoing) :
    Joined s { st with down := emit st.down message.packet } := by
  obtain ⟨more, emitted, neutral⟩ := emit_outgoing st.down message
  have silent : more.filterMap P2pClient.configOf = [] :=
    filterMap_neutral fun p member => (neutral p member).config
  rw [emitted]
  refine { joined with
    downTracks := tracks_extend more joined.downTracks
    downPackets := ?_
    replies := ?_
    replied := ?_ }
  · intro p member
    rcases List.mem_append.mp member with old | here
    · exact joined.downPackets p old
    · exact (neutral p here).whole
  · rw [List.filterMap_append, silent, List.append_nil]
    exact joined.replies
  · intro up
    rw [List.filterMap_append, silent, List.append_nil]
    exact joined.replied up

theorem joinerStep {joiner : P2pClient.State} {a : P2pClient.Action} (joined : Joined s st)
    (own : staysOn a = true) (taken : P2pClient.step st.joiner a = some joiner) :
    Joined s { st with joiner := joiner } := by
  have moved := step_joinerStep own taken
  have rests : P2pClient.ConnectsAtRest st.joiner a := by
    cases a <;> trivial
  refine { joined with
    one := joined.one.step rests taken
    answered := joined.answered.joinerStep moved
    downTracks := ?_ }
  cases moved with
  | same buffer processed client =>
      dsimp only
      rw [buffer, processed]
      exact joined.downTracks
  | takes n head buffer processed connected ready =>
      dsimp only
      rw [buffer, processed]
      exact joined.downTracks.take joined.downPackets head

theorem sends (joined : Joined s st) {more : List (List UInt8)} {auths : List ExternalProxyConfig}
    (packets : ∀ p ∈ more, IsPacket p) (carried : more.filterMap authOf = auths) :
    Joined s { st with up := st.up ++ more, auths := st.auths ++ auths } := by
  refine { joined with
    upTracks := tracks_extend more joined.upTracks
    upPackets := ?_
    upAuths := ?_ }
  · intro p member
    rcases List.mem_append.mp member with old | here
    · exact joined.upPackets p old
    · exact packets p here
  · rw [List.filterMap_append, joined.upAuths, carried]

theorem joinerRecv {joiner : P2pClient.State} {chunk : List UInt8} (joined : Joined s st)
    (fits : st.joiner.client.recvBuffer.bytes.length + chunk.length ≤ P2pClient.recvBufferSize)
    (stream : st.downRead ++ chunk <+: st.down.flatten)
    (taken : P2pClient.step st.joiner (.recv (some chunk)) = some joiner) :
    Joined s { st with joiner := joiner, downRead := st.downRead ++ chunk } := by
  obtain ⟨buffer, processed, connected, ready⟩ := recv_fits fits taken
  refine { joined with
    one := joined.one.step (by trivial) taken
    answered := ?_
    downTracks := ?_ }
  · intro up arrived
    rw [connected] at up
    rw [processed] at arrived
    rw [ready]
    exact joined.answered up arrived
  · dsimp only
    rw [buffer, processed]
    exact joined.downTracks.append stream

theorem consumes (joined : Joined s st) {n : Nat}
    (head : packetHead st.hostBuffer.bytes = .frame n) :
    Tracks st.up st.upRead (st.hostBuffer.consume n).bytes
      (st.hostProcessed ++ [st.hostBuffer.bytes.take n]) := by
  rw [PacketBuffer.consume_bytes]
  exact joined.upTracks.take joined.upPackets head

theorem takesPacket (joined : Joined s st) {n : Nat}
    (head : packetHead st.hostBuffer.bytes = .frame n)
    (carried : authOf (st.hostBuffer.bytes.take n) = none) :
    Joined s { st with
      hostBuffer := st.hostBuffer.consume n
      hostProcessed := st.hostProcessed ++ [st.hostBuffer.bytes.take n] } := by
  have same : (st.hostProcessed ++ [st.hostBuffer.bytes.take n]).filterMap authOf =
      st.hostProcessed.filterMap authOf := by
    rw [List.filterMap_append]
    simp [carried]
  refine { joined with
    upTracks := joined.consumes head
    requests := ?_
    served := ?_ }
  · dsimp only
    rw [same]
    exact joined.requests
  · dsimp only
    rw [same]
    exact joined.served

theorem registers (joined : Joined s st) (here : st.host.thread s = .receiving) {n : Nat}
    (head : packetHead st.hostBuffer.bytes = .frame n) {config : ExternalProxyConfig}
    (carried : authOf (st.hostBuffer.bytes.take n) = some config)
    (taken : Join.hostStep s { st with
      hostBuffer := st.hostBuffer.consume n
      hostProcessed := st.hostProcessed ++ [st.hostBuffer.bytes.take n] }
        (.externalProxy s config) = some next) : Joined s next := by
  obtain ⟨host, step, rfl⟩ := Option.map_eq_some_iff.mp taken
  simp only [P2pServerRuns.step, Option.ite_none_right_eq_some, Option.some.injEq] at step
  obtain ⟨_, rfl⟩ := step
  have idle : registering s st.host = [] := by rw [registering, here]
  have busy : registering s
      (st.host.setThread s (.registering config maxRetries)) = [config] := by
    simp [registering, P2pServerRuns.State.setThread]
  have silent : (sentTo s st.host.server).drop (sentTo s st.host.server).length = [] :=
    List.drop_length
  have more : (st.hostProcessed ++ [st.hostBuffer.bytes.take n]).filterMap authOf =
      st.hostProcessed.filterMap authOf ++ [config] := by
    rw [List.filterMap_append]
    simp [carried]
  simp only [enrolled, P2pServerRuns.State.setThread, silent, Option.toList_none, List.append_nil]
  simp only [P2pServerRuns.State.setThread] at busy
  refine { joined with
    upTracks := joined.consumes head
    requests := ?_
    served := ?_ }
  · have requests := joined.requests
    rw [idle, List.append_nil] at requests
    rw [more, busy]
    exact requests.append (List.Sublist.refl _)
  · intro up
    have served := joined.served up
    rw [idle, List.append_nil] at served
    rw [more, busy, served]

theorem step {a : Action} (joined : Joined s st) (fits : readFits st a = true)
    (taken : P2pJoin.step s st a = some next) : Joined s next := by
  cases a with
  | host a =>
      cases a
      case externalProxy r config =>
        simp only [P2pJoin.step, Option.ite_none_left_eq_some] at taken
        refine joined.host ?_ taken.2
        intro config'
        simp [taken.1]
      all_goals exact joined.host (by simp) taken
  | forward message =>
      simp only [P2pJoin.step, Option.ite_none_right_eq_some, Option.some.injEq] at taken
      obtain ⟨_, rfl⟩ := taken
      exact joined.forward message
  | hostRecv chunk =>
      simp only [P2pJoin.step, Option.ite_none_right_eq_some] at taken
      obtain ⟨⟨_, _, _, stream⟩, taken⟩ := taken
      rcases PacketBuffer.append_cases st.hostBuffer chunk with ⟨ok, grown, _⟩ | ⟨full, _⟩
      · rcases appended : st.hostBuffer.append chunk with ⟨result, buffer⟩
        rw [appended] at ok grown taken
        dsimp only at ok grown
        subst ok
        cases taken
        refine { joined with upTracks := ?_ }
        dsimp only
        rw [grown]
        exact joined.upTracks.append stream
      · rw [full] at taken
        exact joined.host (by simp) taken
  | hostProcess =>
      simp only [P2pJoin.step, Option.ite_none_right_eq_some] at taken
      obtain ⟨⟨here, _⟩, taken⟩ := taken
      split at taken
      · split at taken
        · exact joined.host (by simp) taken
        · cases taken
      · rename_i n peek
        have head := (PacketBuffer.peekPacket_eq_some _ n).mp peek
        split at taken
        · rename_i config carried
          exact joined.registers here head carried taken
        · cases taken
          rename_i carried
          exact joined.takesPacket head carried
  | performAuth config sent =>
      simp only [P2pJoin.step] at taken
      obtain ⟨joiner, call, rfl⟩ := Option.map_eq_some_iff.mp taken
      have after := joined.joinerStep rfl call
      have whole := (carries_authPacket config).1
      split
      · have packets : ∀ p ∈ [P2pClient.authPacket config], IsPacket p := by simpa using whole
        have carried : [P2pClient.authPacket config].filterMap authOf = [config] := by
          simp [authOf_authPacket]
        have added := after.sends packets carried
        rwa [emit, if_neg (isPacket_ne_nil whole)]
      · exact after
  | send message sent =>
      simp only [P2pJoin.step] at taken
      obtain ⟨joiner, call, rfl⟩ := Option.map_eq_some_iff.mp taken
      have after := joined.joinerStep rfl call
      obtain ⟨more, emitted, neutral⟩ := emit_outgoing st.up message
      split
      · have silent : more.filterMap authOf = [] :=
          filterMap_neutral fun p member => (neutral p member).auth
        have added := after.sends (fun p member => (neutral p member).whole) silent
        rw [List.append_nil] at added
        rwa [emitted]
      · exact after
  | joiner a =>
      simp only [P2pJoin.step, Option.ite_none_right_eq_some] at taken
      obtain ⟨own, taken⟩ := taken
      obtain ⟨joiner, call, rfl⟩ := Option.map_eq_some_iff.mp taken
      exact joined.joinerStep (staysOn_of_ownStep own) call
  | joinerRecv chunk =>
      simp only [P2pJoin.step, Option.ite_none_right_eq_some] at taken
      obtain ⟨stream, taken⟩ := taken
      obtain ⟨joiner, call, rfl⟩ := Option.map_eq_some_iff.mp taken
      exact joined.joinerRecv (of_decide_eq_true fits) stream call

end Joined

abbrev run (s : SessionId) (st : Join) (actions : List Action) : Option Join :=
  TransitionSystem.run (guarded readFits (step s)) st actions

theorem accepted_session {s : SessionId} {host next : P2pServerRuns.State} {fd : Nat}
    {remoteIp : UInt32} (started : (host.server.accept fd remoteIp true).2 = some s)
    (taken : P2pServerRuns.step host (.accept fd remoteIp true) = some next) :
    ((next.server.session s).authenticated = false ∧ (next.server.session s).virtualIp = 0) ∧
      s < next.server.allocated ∧ registering s next = [] := by
  simp only [P2pServerRuns.step, Option.some.injEq, started] at taken
  subst taken
  rw [Server.accept] at started ⊢
  split at started
  · cases started
  · rename_i room
    rw [if_neg room]
    dsimp only at started ⊢
    split at started
    · cases started
    · rename_i slot free
      simp only [if_true, Option.some.injEq] at started
      subst started
      refine ⟨⟨?_, ?_⟩, ?_, ?_⟩ <;> simp [Server.modify, registering]

theorem Starts.joined {s : SessionId} {st : Join} (starts : Starts s st) : Joined s st := by
  obtain ⟨⟨host, fd, remoteIp, started, accepted⟩, ⟨caller, ipLen, joinerFd, passes, joiner⟩, fresh⟩ :=
    starts
  obtain ⟨session, allocated, idle⟩ := accepted_session started accepted
  have rest : P2pClient.AtRest P2pClient.init := by decide
  have one : P2pClient.OneConnection st.joiner := by
    rw [joiner]
    exact P2pClient.oneConnection_init.step
      (a := .connect caller ipLen (some joinerFd) .established true) (fun _ => rest)
      (by simp [P2pClient.step, P2pClient.State.isFree, P2pClient.init])
  have buffer : st.joiner.client.recvBuffer = PacketBuffer.reset := by
    rw [joiner, P2pClient.State.connect, if_pos passes]
    rfl
  have processed : st.joiner.processed = [] := by
    rw [joiner, P2pClient.State.connect, if_pos passes]
    rfl
  rw [fresh]
  refine ⟨allocated, one, ?_, tracks_nil [], by simp [Join.start], rfl, ?_, ?_,
    by simp [Join.start], ?_, ?_, ?_, by simp [Join.start], by simp [Join.start], by simp [Join.start]⟩
  · intro _ arrived
    simp [Join.start, processed, P2pClient.lastConfig] at arrived
  · simp [Join.start, idle]
  · simp [Join.start, idle]
  · simp [Join.start, session.1]
  · simp [Join.start, session.2]
  · simp only [Join.start, buffer, processed]
    exact tracks_nil []

theorem joined_run {s : SessionId} {st next : Join} {actions : List Action} (starts : Starts s st)
    (steps : run s st actions = some next) : Joined s next := by
  refine run_invariant (Joined s) ?_ steps starts.joined
  intro here a after taken joined
  obtain ⟨fits, taken⟩ := guarded_eq_some.mp taken
  exact joined.step fits taken

structure Agrees (s : SessionId) (st : Join) : Prop where
  ready : st.joiner.client.ready = true → st.joiner.client.connected = true ∧
    ∃ e ∈ st.enrolments, st.joiner.client.proxyConfig = e.proxyConfig
  requests : (st.enrolments.map (·.config)).Sublist st.auths
  tokens : ∀ e ∈ st.enrolments, e.token.token = e.config.token
  authenticated : (st.host.server.session s).authenticated = true ↔ st.enrolments ≠ []
  address : st.auths.length ≤ 1 → st.joiner.client.ready = true →
    (st.host.server.session s).authenticated = true ∧
      st.joiner.client.proxyConfig.proxyIp = (st.host.server.session s).virtualIp

theorem Joined.processed_requests {s : SessionId} {st : Join} (joined : Joined s st) :
    (st.hostProcessed.filterMap authOf).Sublist st.auths := by
  rw [← joined.upAuths]
  exact (joined.upTracks.delivered_frames.sublist).filterMap authOf

theorem Joined.processed_replies {s : SessionId} {st : Join} (joined : Joined s st) :
    (st.joiner.processed.filterMap P2pClient.configOf).Sublist
      (st.enrolments.map Enrolment.proxyConfig) :=
  ((joined.downTracks.delivered_frames.sublist).filterMap P2pClient.configOf).trans joined.replies

theorem Joined.ready_enrolment {s : SessionId} {st : Join} (joined : Joined s st)
    (ready : st.joiner.client.ready = true) : st.joiner.client.connected = true ∧
      ∃ e ∈ st.enrolments, st.joiner.client.proxyConfig = e.proxyConfig := by
  obtain ⟨up, last⟩ := joined.one.ready ready
  obtain ⟨e, member, config⟩ := List.mem_map.mp
    (joined.processed_replies.subset (List.mem_of_getLast? last))
  exact ⟨up, e, member, config.symm⟩

theorem Joined.requests_auths {s : SessionId} {st : Join} (joined : Joined s st) :
    (st.enrolments.map (·.config)).Sublist st.auths :=
  ((List.sublist_append_left _ _).trans joined.requests).trans joined.processed_requests

theorem Joined.agrees {s : SessionId} {st : Join} (joined : Joined s st) : Agrees s st where
  ready := joined.ready_enrolment
  requests := joined.requests_auths
  tokens := joined.tokens
  authenticated := joined.authenticated
  address := by
    intro once ready
    obtain ⟨_, e, member, config⟩ := joined.ready_enrolment ready
    have few := joined.requests_auths.length_le
    rw [List.length_map] at few
    obtain ⟨e', only⟩ : ∃ e', st.enrolments = [e'] := by
      refine List.length_eq_one_iff.mp ?_
      have some := List.length_pos_of_mem member
      omega
    rw [only, List.mem_singleton] at member
    subst member
    refine ⟨joined.authenticated.mpr (by simp [only]), ?_⟩
    rw [config, joined.virtualIp, only]
    rfl

/-- Whatever the threads of both machines do, and as long as each read of the joiner fits
behind what it keeps of an unfinished packet, a client that says it is ready has been told
the address of a registration of its own session, made with a configuration it presented
and a waiting token with the same bytes. -/
theorem joiner_agrees {s : SessionId} {st next : Join} {actions : List Action}
    (starts : Starts s st) (steps : run s st actions = some next) : Agrees s next :=
  (joined_run starts steps).agrees

def acceptedJoin : Join :=
  Join.start
    ((P2pServerRuns.step { P2pServerRuns.init false with
        server := (Server.start false).addWaitingToken ⟨0x0A720002, ⟨List.replicate 16 1, rfl⟩,
          default, 2⟩ } (.accept 7 0xC0A80105 true)).getD (P2pServerRuns.init false))
    (P2pClient.init.connect 0 (some 9) (some 5) .established true)

def throughTheJoin : List Action :=
  let config : ExternalProxyConfig := ⟨default, 2, 0, ⟨List.replicate 16 1, rfl⟩⟩
  [.joiner .recvLoop, .performAuth config true,
    .hostRecv ((P2pClient.authPacket config).take 20),
    .hostRecv ((P2pClient.authPacket config).drop 20), .hostProcess, .host (.attempt 0),
    .joinerRecv ((proxyConfigPacket ⟨0x0A720002, 0xFFFF0000⟩).take 11), .joiner .process,
    .joiner .recvLoop, .joinerRecv ((proxyConfigPacket ⟨0x0A720002, 0xFFFF0000⟩).drop 11),
    .joiner .process]

theorem starts_acceptedJoin : Starts 0 acceptedJoin where
  accepted := ⟨{ P2pServerRuns.init false with
    server := (Server.start false).addWaitingToken ⟨0x0A720002, ⟨List.replicate 16 1, rfl⟩,
      default, 2⟩ }, 7, 0xC0A80105, rfl, rfl⟩
  connected := ⟨0, some 9, 5, rfl, rfl⟩
  fresh := rfl

theorem joiner_agrees_throughTheJoin :
    Agrees 0 ((run 0 acceptedJoin throughTheJoin).get (by decide)) :=
  joiner_agrees starts_acceptedJoin (Option.some_get _).symm

/-- Everything that was sent has been read and taken from both buffers, the session is
open and its thread is back at `recv`, and the joiner is connected. -/
structure Settled (s : SessionId) (st : Join) : Prop where
  upRead : st.upRead = st.up.flatten
  downRead : st.downRead = st.down.flatten
  hostBuffer : st.hostBuffer.hasCompletePacket = false
  joinerBuffer : st.joiner.client.recvBuffer.hasCompletePacket = false
  thread : st.host.thread s = .receiving
  canSend : (st.host.server.session s).canSend = true
  connected : st.joiner.client.connected = true

theorem incomplete_of_tracks {capacity : Nat} {frames delivered : List (List UInt8)}
    {received : List UInt8} {buffer : PacketBuffer capacity} (valid : ∀ p ∈ frames, IsPacket p)
    (tracks : Tracks frames received buffer.bytes delivered)
    (none : buffer.hasCompletePacket = false) : packetHead buffer.bytes = .incomplete := by
  cases head : packetHead buffer.bytes with
  | incomplete => rfl
  | invalid => exact absurd head (tracks.head_ne_invalid valid)
  | frame n =>
      have whole := buffer.hasCompletePacket_iff.mpr ⟨n, head⟩
      rw [none] at whole
      cases whole

theorem Joined.settled {s : SessionId} {st : Join} (joined : Joined s st) (settled : Settled s st) :
    st.enrolments.map (·.config) = st.auths ∧
      st.joiner.processed.filterMap P2pClient.configOf = st.enrolments.map Enrolment.proxyConfig := by
  obtain ⟨hostProcessed, _⟩ := joined.upTracks.complete joined.upPackets settled.upRead
    (incomplete_of_tracks joined.upPackets joined.upTracks settled.hostBuffer)
  obtain ⟨processed, _⟩ := joined.downTracks.complete joined.downPackets settled.downRead
    (incomplete_of_tracks joined.downPackets joined.downTracks settled.joinerBuffer)
  have idle : registering s st.host = [] := by rw [registering, settled.thread]
  have served := joined.served settled.canSend
  rw [idle, List.append_nil, hostProcessed, joined.upAuths] at served
  exact ⟨served, by rw [processed, joined.replied settled.canSend]⟩

/-- If no read of the joiner has overflowed, and once nothing is under way any more and the
connection stands on both sides, every `PerformAuth` of the joiner has been registered, in
order; the client is ready exactly when there was one, and then has the address of its
session, whichever of them came last. -/
theorem settled_joiner {s : SessionId} {st next : Join} {actions : List Action}
    (starts : Starts s st) (steps : run s st actions = some next) (settled : Settled s next) :
    next.enrolments.map (·.config) = next.auths ∧
      (next.joiner.client.ready = true ↔ next.auths ≠ []) ∧
      (next.joiner.client.ready = true → next.joiner.client.proxyConfig =
        ⟨(next.host.server.session s).virtualIp, 0xFFFF0000⟩) := by
  have joined := joined_run starts steps
  obtain ⟨auths, replies⟩ := joined.settled settled
  refine ⟨auths, ?_, ?_⟩
  · constructor
    · intro ready
      obtain ⟨_, e, member, _⟩ := joined.ready_enrolment ready
      rw [← auths]
      simp [List.ne_nil_of_mem member]
    · intro asked
      refine joined.answered settled.connected ?_
      rw [P2pClient.lastConfig, replies, List.getLast?_isSome]
      rw [← auths] at asked
      simpa using asked
  · intro ready
    obtain ⟨_, last⟩ := joined.one.ready ready
    rw [P2pClient.lastConfig, replies, List.getLast?_map] at last
    obtain ⟨e, latest, config⟩ := Option.map_eq_some_iff.mp last
    rw [← config, joined.virtualIp, latest]
    rfl

theorem settled_joiner_throughTheJoin :
    let st := (run 0 acceptedJoin throughTheJoin).get (by decide)
    st.enrolments.map (·.config) = st.auths ∧
      (st.joiner.client.ready = true ↔ st.auths ≠ []) ∧
      (st.joiner.client.ready = true → st.joiner.client.proxyConfig =
        ⟨(st.host.server.session 0).virtualIp, 0xFFFF0000⟩) :=
  settled_joiner starts_acceptedJoin (Option.some_get _).symm
    ⟨by decide, by decide, by decide, by decide, by decide, by decide, by decide⟩

end RyuLdn.P2pJoin
