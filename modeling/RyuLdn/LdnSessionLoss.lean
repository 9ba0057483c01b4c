import RyuLdn.LdnClientReceive
import RyuLdn.LdnSession

/-! A lost server connection and the LDN session. The receive thread compares the state
it reads of the client with the one it read a turn before, so it misses a connection it
has never seen `Ready`, a client that the server has told to go and that rests in
`Disconnecting`, and a client that dials anew before the thread looks again. -/
namespace RyuLdn.LdnSession

open ConnectionState ProtocolCodec ProtocolTypes LdnClient LdnStateMachine TransitionSystem
open LdnService (Service Kind)
open LdnServerLink (Link Phase)
open TcpClient.Client (ReadTurn)
open TcpSocket.Socket (WriteTurn)

/-- The step takes the client out of `Ready` while a network is active. -/
structure Loses (s t : Session) : Prop where
  ready : s.client.state = .ready
  away : t.client.state ≠ .ready
  active : s.active = true

/-- By the end of the receive thread's next turn after a loss, the LDN state has left the
network and the game has been signalled. The turn lies in `after`: it starts with
`sample`, and the thread is back at the top. -/
def LossesEnd (start : Session) (actions : List Action) : Prop :=
  ∀ before action after later s t u, actions = before ++ action :: (after ++ later) →
    run step start before = some s → step s action = some t → Loses s t →
    run step t after = some u → .sample ∈ after → u.turn = .top →
    ∃ front back m, after = front ++ back ∧ run step t front = some m ∧
      m.active = false ∧ s.stateEvents < m.stateEvents

/-- The types of the packets that `process_packets` reads. -/
def typesRead : Nat → Client → List ReadTurn → List (List WriteTurn) → List UInt8
  | 0, _, _, _ => []
  | rounds + 1, c, reads, echoes =>
      match c.receive reads with
      | (received, tcp, reads) =>
          if received.result = .success then
            let d := (c.setTcp tcp).note (.packetDelivered received.type received.payload)
            received.type :: typesRead rounds
              (d.handlePacket received.type received.payload (echoes.headD [])) reads echoes.tail
          else []

/-- A ready client reads a `Disconnect` packet of the server. -/
def hearsDisconnect (c : Client) (os : Replies) : Bool :=
  c.state = .ready && (typesRead (c.packetBound os.reads) c os.reads os.echoes).any
    fun type => PacketId.ofByte type = some .disconnect

def redials (c : Client) (currentTimeMs : UInt64) (os : Replies) : Bool :=
  c.state = .backoff && (c.isBackoffExpired currentTimeMs).1 && (c.dial os).1 = .success

namespace Session

def seen (s : Session) : State :=
  match s.turn with
  | .top | .updated => s.prevTcpState
  | .sampled state | .compared state => state

def leavesReady (s : Session) (action : Action) : Bool :=
  s.client.state = .ready && (s.move action).any fun t => t.client.state ≠ .ready

/-- The update of this turn reads a `Disconnect` packet or dials anew. -/
def disturbs (s : Session) : Action → Bool
  | .update currentTimeMs os =>
      let c := s.client.tick currentTimeMs
      match s.turn with
      | .compared state => Link.isDriven state && (hearsDisconnect c os || redials c currentTimeMs os)
      | _ => false
  | _ => false

end Session

/-- The condition on a step: in an active network no update reads a `Disconnect` packet or
dials anew, and a connection is lost only after the receive thread has seen it `Ready`. -/
def Noticeable (s : Session) (action : Action) : Bool :=
  !s.active ||
    !s.disturbs action && (!s.leavesReady action || s.seen = .ready)

theorem processPacketsLoop_of_typesRead (rounds : Nat) {c : Client} (reads : List ReadTurn)
    (echoes : List (List WriteTurn)) (here : c.core.state = .ready)
    (quiet : ∀ type ∈ typesRead rounds c reads echoes, PacketId.ofByte type ≠ some .disconnect) :
    (Client.processPacketsLoop rounds c reads echoes).core.state = .ready ∨
      (Client.processPacketsLoop rounds c reads echoes).core.state = .backoff := by
  induction rounds generalizing c reads echoes with
  | zero => exact Or.inl here
  | succ rounds ih =>
      unfold typesRead at quiet
      unfold Client.processPacketsLoop
      generalize c.receive reads = outcome at quiet
      obtain ⟨received, tcp, rest⟩ := outcome
      have there : (c.setTcp tcp).core.state = .ready := here
      have lost : (((c.setTcp tcp).processEvent .connectionLost).startBackoffIfAuto.notifyChange
          (c.setTcp tcp).state).core.state = .backoff := by
        rw [Client.core_notifyChange, Client.core_startBackoffIfAuto, Client.core_processEvent,
          Core.event_state there]
        rfl
      dsimp only at quiet ⊢
      cases result : received.result
      case success =>
        rw [if_pos result] at quiet
        obtain ⟨other, later⟩ := List.forall_mem_cons.mp quiet
        refine ih rest echoes.tail ?_ later
        rw [(Client.core_handlePacket _ _ _ _).2, if_neg other]
        exact there
      case connectionLost => exact Or.inr lost
      case notConnected => exact Or.inr lost
      all_goals exact Or.inl there

theorem update_quiet_of_ready {c : Client} {currentTimeMs : UInt64} {os : Replies}
    (here : c.core.state = .ready) (quiet : hearsDisconnect (c.tick currentTimeMs) os = false) :
    (c.update currentTimeMs os).core.state = .ready ∨
      (c.update currentTimeMs os).core.state = .backoff := by
  have there : (c.tick currentTimeMs).core.state = .ready := here
  rw [Client.update_of_ready here]
  generalize c.tick currentTimeMs = d at quiet there
  have served : (d.processPackets os).core.state = .ready ∨
      (d.processPackets os).core.state = .backoff := by
    unfold Client.processPackets
    split
    · exact Or.inl there
    · refine processPacketsLoop_of_typesRead _ os.reads os.echoes there ?_
      have ready : d.state = .ready := there
      simpa [hearsDisconnect, ready] using quiet
  unfold Client.handleReadyState
  generalize d.processPackets os = e at served
  dsimp only
  split
  · rw [Client.core_notifyState, Client.core_startBackoffIfAuto, Client.core_processEvent]
    right
    rcases served with ready | backoff
    · exact Core.event_state ready .connectionLost
    · exact Core.event_state backoff .connectionLost
  · rcases (e.keepAlive_effect currentTimeMs os).outcome with same | ⟨-, ready | ⟨backoff, -⟩⟩
    · rw [same]
      exact served
    · exact Or.inl ready
    · exact Or.inr backoff

theorem update_quiet_of_down {c : Client} {currentTimeMs : UInt64} {os : Replies}
    (down : c.core.state = .backoff ∨ c.core.state = .disconnected)
    (quiet : redials (c.tick currentTimeMs) currentTimeMs os = false) :
    (c.update currentTimeMs os).core.state = .backoff ∨
      (c.update currentTimeMs os).core.state = .disconnected := by
  rcases down with backoff | disconnected
  · left
    have there : (c.tick currentTimeMs).core.state = .backoff := backoff
    rw [Client.update_of_backoff backoff, Client.core_updateBackoff currentTimeMs os there]
    have state : (c.tick currentTimeMs).state = .backoff := there
    split
    · rename_i expired
      have failed : ((c.tick currentTimeMs).dial os).1 ≠ .success := by
        simpa [redials, state, expired] using quiet
      exact if_neg failed
    · exact there
  · right
    rw [Client.update_of_disconnected disconnected]
    exact disconnected

/-- The client is down, and the next turn of the thread has `Ready` to compare with. -/
structure Unseen (s : Session) : Prop where
  seen : s.seen = .ready
  down : s.client.core.state = .backoff ∨ s.client.core.state = .disconnected

def Caught (s : Session) : Prop :=
  (∃ state, s.turn = .sampled state ∧ s.prevTcpState = .ready ∧ isLost state = true) ∨
    ∃ state lost, s.turn = .compared state ∧ s.service.losing = some lost ∧
      lost.val = s.service.commState

theorem Caught.away {s : Session} (caught : Caught s) : s.turn ≠ .top := by
  rcases caught with ⟨_, turn, _⟩ | ⟨_, _, turn, _⟩ <;> simp [turn]

theorem seen_of_apart {s t : Session} (apart : Apart s t) : t.seen = s.seen := by
  unfold Session.seen
  rw [apart.turn, apart.prevTcpState]

theorem down_of_drops {v v' : State} (drops : Drops v v') (down : v = .backoff ∨ v = .disconnected) :
    v' = .backoff ∨ v' = .disconnected := by
  rcases drops with same | disconnected | ⟨ready, -⟩
  · rw [same]
    exact down
  · exact Or.inr disconnected
  · rw [ready] at down
    simp at down

theorem Unseen.sample {s : Session} (unseen : Unseen s) (top : s.turn = .top) :
    Caught { s with turn := .sampled s.client.state } := by
  have ready : s.prevTcpState = .ready := by simpa [Session.seen, top] using unseen.seen
  have lost : isLost s.client.state = true := by
    rcases unseen.down with backoff | disconnected
    · simp [isLost, show s.client.state = .backoff from backoff]
    · simp [isLost, show s.client.state = .disconnected from disconnected]
  exact Or.inl ⟨s.client.state, rfl, ready, lost⟩

theorem Unseen.compare {s : Session} {state : State} (unseen : Unseen s)
    (turn : s.turn = .sampled state) : Unseen (s.compare state) := by
  have ready : state = .ready := by simpa [Session.seen, turn] using unseen.seen
  exact ⟨ready, unseen.down⟩

theorem Unseen.update {s : Session} {state : State} {currentTimeMs : UInt64} {os : Replies}
    (unseen : Unseen s) (turn : s.turn = .compared state)
    (quiet : s.disturbs (.update currentTimeMs os) = false) :
    Unseen (s.update state currentTimeMs os) := by
  have ready : state = .ready := by simpa [Session.seen, turn] using unseen.seen
  have calm : redials (s.client.tick currentTimeMs) currentTimeMs os = false := by
    simp [Session.disturbs, turn, ready, Link.isDriven] at quiet
    simpa using quiet.2
  unfold Session.update
  rw [ready, if_pos (by rfl)]
  exact ⟨rfl, update_quiet_of_down unseen.down calm⟩

theorem Unseen.checkTimeout {s : Session} (unseen : Unseen s) (turn : s.turn = .updated)
    (expired : Bool) (turns : List WriteTurn) : Unseen (s.checkTimeout expired turns) := by
  have ready : s.prevTcpState = .ready := by simpa [Session.seen, turn] using unseen.seen
  unfold Session.checkTimeout
  split
  · exact ⟨ready, down_of_drops (drops_dropServer s turns) unseen.down⟩
  · exact ⟨ready, unseen.down⟩

theorem Unseen.move {s t : Session} {action : Action} (unseen : Unseen s)
    (closed : s.game.dials = false) (quiet : s.disturbs action = false)
    (moved : s.move action = some t) :
    Unseen t ∨ action = .sample ∧ Caught t := by
  by_cases thread : action.isReceive = true
  · cases action with
    | sample =>
        obtain ⟨top, same⟩ := Option.ite_none_right_eq_some.mp moved
        cases same
        exact Or.inr ⟨rfl, unseen.sample top⟩
    | compare =>
        obtain ⟨state, turn, rfl⟩ := move_compare_eq_some.mp moved
        exact Or.inl (unseen.compare turn)
    | leaveLost =>
        obtain ⟨_, -, same⟩ := Option.map_eq_some_iff.mp moved
        rw [← same]
        exact Or.inl ⟨unseen.seen, unseen.down⟩
    | update currentTimeMs os =>
        obtain ⟨state, turn, -, rfl⟩ := move_update_eq_some.mp moved
        exact Or.inl (unseen.update turn quiet)
    | checkTimeout expired turns =>
        obtain ⟨turn, same⟩ := Option.ite_none_right_eq_some.mp moved
        cases same
        exact Or.inl (unseen.checkTimeout turn expired turns)
    | _ => cases thread
  · have apart := apart_of_move (by simpa using thread) closed moved
    exact Or.inl ⟨(seen_of_apart apart).trans unseen.seen, down_of_drops apart.state unseen.down⟩

theorem Caught.move {s t : Session} {action : Action} (caught : Caught s)
    (active : s.active = true) (closed : s.game.dials = false)
    (moved : s.move action = some t) :
    Caught t ∨ t.service.commState ≠ s.service.commState := by
  by_cases kept : t.service.commState = s.service.commState
  swap
  · exact Or.inr kept
  left
  by_cases thread : action.isReceive = true
  · cases action with
    | sample =>
        obtain ⟨top, -⟩ := Option.ite_none_right_eq_some.mp moved
        exact absurd top caught.away
    | compare =>
        obtain ⟨state, turn, rfl⟩ := move_compare_eq_some.mp moved
        rcases caught with ⟨_, sampled, ready, lost⟩ | ⟨_, _, compared, _⟩
        · rw [sampled] at turn
          cases turn
          right
          refine ⟨state, ⟨s.service.commState, active⟩, rfl, ?_, kept.symm⟩
          have here : s.service.commState.isNetworkActive = true := active
          simp [Session.compare, ready, lost, Service.noticeLoss, here]
        · rw [compared] at turn
          cases turn
    | leaveLost =>
        obtain ⟨lost, losing, same⟩ := Option.map_eq_some_iff.mp moved
        rcases caught with ⟨state, sampled, ready, isLost⟩ | ⟨_, lost', _, losing', here⟩
        · rw [← same]
          exact Or.inl ⟨state, sampled, ready, isLost⟩
        · rw [losing] at losing'
          cases losing'
          have left_ := leaveLost_inactive here
          rw [← same] at kept
          have still : s.service.commState.isNetworkActive = false := kept ▸ left_
          rw [show s.service.commState.isNetworkActive = true from active] at still
          cases still
    | update currentTimeMs os =>
        obtain ⟨state, turn, losing, rfl⟩ := move_update_eq_some.mp moved
        rcases caught with ⟨_, sampled, _⟩ | ⟨_, _, _, lost, _⟩
        · rw [sampled] at turn
          cases turn
        · rw [losing] at lost
          cases lost
    | checkTimeout expired turns =>
        obtain ⟨turn, -⟩ := Option.ite_none_right_eq_some.mp moved
        rcases caught with ⟨_, sampled, _⟩ | ⟨_, _, compared, _⟩
        · rw [sampled] at turn
          cases turn
        · rw [compared] at turn
          cases turn
    | _ => cases thread
  · have apart := apart_of_move (by simpa using thread) closed moved
    rcases caught with ⟨state, sampled, ready, lost⟩ | ⟨state, lost, compared, losing, here⟩
    · exact Or.inl ⟨state, apart.turn.trans sampled, apart.prevTcpState.trans ready, lost⟩
    · exact Or.inr ⟨state, lost, apart.turn.trans compared, apart.losing.trans losing,
        here.trans kept.symm⟩

structure Pending (events : Nat) (s : Session) : Prop where
  settled : Settled s
  active : s.active = true
  events_le : events ≤ s.stateEvents

structure Ended (events : Nat) (s : Session) : Prop where
  inactive : s.active = false
  signalled : events < s.stateEvents

theorem Pending.step {events : Nat} {s t : Session} {action : Action} (pending : Pending events s)
    (moved : step s action = some t) :
    Pending events t ∧ t.service.commState = s.service.commState ∨ Ended events t := by
  obtain ⟨more, signals⟩ := events_of_step moved
  have enough := pending.events_le
  rcases state_of_step pending.active moved with kept | inactive
  · left
    have active : t.active = true := by
      unfold Session.active
      rw [kept]
      exact pending.active
    exact ⟨⟨pending.settled.step moved, active, enough.trans more⟩, kept⟩
  · right
    refine ⟨inactive, lt_of_le_of_lt enough (signals ?_)⟩
    intro kept
    have active : t.active = true := by
      unfold Session.active
      rw [kept]
      exact pending.active
    rw [inactive] at active
    cases active

theorem caught_step {events : Nat} {s t : Session} {action : Action}
    (moved : guarded Noticeable step s action = some t) (here : Pending events s ∧ Caught s) :
    (Pending events t ∧ Caught t) ∨ Ended events t := by
  obtain ⟨-, moved⟩ := guarded_eq_some.mp moved
  obtain ⟨pending, caught⟩ := here
  rcases pending.step moved with ⟨still, kept⟩ | ended
  · obtain ⟨u, made, same⟩ := step_eq_some.mp moved
    subst same
    rcases caught.move pending.active (pending.settled pending.active) made with again | changed
    · exact Or.inl ⟨still, again⟩
    · exact absurd kept changed
  · exact Or.inr ended

theorem waiting_step {events : Nat} {s t : Session} {action : Action}
    (moved : guarded Noticeable step s action = some t)
    (here : Pending events s ∧ (Unseen s ∨ Caught s)) :
    (Pending events t ∧ (Unseen t ∨ Caught t)) ∨ Ended events t := by
  obtain ⟨pending, unseen | caught⟩ := here
  · obtain ⟨noticeable, moved⟩ := guarded_eq_some.mp moved
    have quiet : s.disturbs action = false := by
      simp only [Noticeable, pending.active] at noticeable
      simp at noticeable
      exact noticeable.1
    rcases pending.step moved with ⟨still, -⟩ | ended
    · obtain ⟨u, made, same⟩ := step_eq_some.mp moved
      subst same
      rcases unseen.move (pending.settled pending.active) quiet made with again | ⟨-, caught⟩
      · exact Or.inl ⟨still, Or.inl ⟨again.seen, again.down⟩⟩
      · exact Or.inl ⟨still, Or.inr caught⟩
    · exact Or.inr ended
  · exact (caught_step moved ⟨pending, caught⟩).imp_left fun both => ⟨both.1, Or.inr both.2⟩

theorem ends_of_unseen {events : Nat} {t u : Session} {after : List Action}
    (pending : Pending events t) (unseen : Unseen t)
    (steps : run (guarded Noticeable step) t after = some u) (begun : .sample ∈ after)
    (top : u.turn = .top) :
    ∃ front back m, after = front ++ back ∧ run (guarded Noticeable step) t front = some m ∧
      Ended events m := by
  obtain ⟨before, rest, split⟩ := List.append_of_mem begun
  rw [split] at steps
  obtain ⟨p, first, others⟩ := run_append_eq_some.mp steps
  obtain ⟨q, sampled, last⟩ := run_cons_eq_some.mp others
  rcases run_until waiting_step first ⟨pending, Or.inl unseen⟩ with
    waiting | ⟨front, back, m, same, reached, ended⟩
  · rcases waiting_step sampled waiting with ⟨pending', still⟩ | ended
    · have caught : Caught q := by
        obtain ⟨v, made, same⟩ := step_eq_some.mp (guarded_eq_some.mp sampled).2
        obtain ⟨atTop, same'⟩ := Option.ite_none_right_eq_some.mp made
        have unseen' : Unseen p := waiting.2.resolve_right fun caught => caught.away atTop
        cases same'
        rw [same]
        exact unseen'.sample atTop
      rcases run_until caught_step last ⟨pending', caught⟩ with
        both | ⟨front, back, m, same, reached, ended⟩
      · exact absurd top both.2.away
      · refine ⟨before ++ .sample :: front, back, m, ?_, ?_, ended⟩
        · rw [split, same, List.append_assoc, List.cons_append]
        · refine run_append_eq_some.mpr ⟨p, first, ?_⟩
          exact run_cons_eq_some.mpr ⟨q, sampled, reached⟩
    · refine ⟨before ++ [.sample], rest, q, ?_, ?_, ended⟩
      · rw [split, List.append_assoc, List.singleton_append]
      · refine run_append_eq_some.mpr ⟨p, first, ?_⟩
        exact run_cons_eq_some.mpr ⟨q, sampled, rfl⟩
  · refine ⟨front, back ++ .sample :: rest, m, ?_, reached, ended⟩
    rw [split, same, List.append_assoc]

theorem unseen_of_loss {s t : Session} {action : Action} (loses : Loses s t)
    (closed : s.game.dials = false) (quiet : s.disturbs action = false) (seen : s.seen = .ready)
    (moved : s.move action = some t) : Unseen t := by
  have same_client : t.client = s.client → False := by
    intro same
    apply loses.away
    rw [same]
    exact loses.ready
  have dropped : Drops s.client.state t.client.state →
      t.client.core.state = .backoff ∨ t.client.core.state = .disconnected := by
    rintro (same | disconnected | ⟨-, backoff⟩)
    · exact absurd (same.trans loses.ready) loses.away
    · exact Or.inr disconnected
    · exact Or.inl backoff
  by_cases thread : action.isReceive = true
  · cases action with
    | sample =>
        obtain ⟨-, same⟩ := Option.ite_none_right_eq_some.mp moved
        cases same
        exact (same_client rfl).elim
    | compare =>
        obtain ⟨state, -, rfl⟩ := move_compare_eq_some.mp moved
        exact (same_client rfl).elim
    | leaveLost =>
        obtain ⟨_, -, same⟩ := Option.map_eq_some_iff.mp moved
        rw [← same] at same_client
        exact (same_client rfl).elim
    | update currentTimeMs os =>
        obtain ⟨state, turn, -, rfl⟩ := move_update_eq_some.mp moved
        have ready : state = .ready := by simpa [Session.seen, turn] using seen
        subst ready
        have calm : hearsDisconnect (s.client.tick currentTimeMs) os = false := by
          simp [Session.disturbs, turn, Link.isDriven] at quiet
          exact quiet.1
        have updated : s.update .ready currentTimeMs os =
            { s with
              client := s.client.update currentTimeMs os
              service := ((s.client.update currentTimeMs os).log.drop
                s.client.log.length).foldl deliver s.service
              turn := .updated
              prevTcpState := .ready } := rfl
        have away := loses.away
        rw [updated] at away ⊢
        refine ⟨rfl, Or.inl ?_⟩
        exact (update_quiet_of_ready loses.ready calm).resolve_left away
    | checkTimeout expired turns =>
        obtain ⟨turn, same⟩ := Option.ite_none_right_eq_some.mp moved
        have ready : s.prevTcpState = .ready := by simpa [Session.seen, turn] using seen
        cases same
        revert dropped same_client
        unfold Session.checkTimeout
        split
        · intro _ dropped
          exact ⟨ready, dropped (drops_dropServer s turns)⟩
        · intro same_client _
          exact (same_client rfl).elim
    | _ => cases thread
  · have apart := apart_of_move (by simpa using thread) closed moved
    exact ⟨(seen_of_apart apart).trans seen, dropped apart.state⟩

theorem pending_of_loss {s t : Session} {action : Action} (settled : Settled s)
    (loses : Loses s t) (moved : guarded Noticeable step s action = some t) :
    (Pending s.stateEvents t ∧ Unseen t) ∨ Ended s.stateEvents t := by
  obtain ⟨noticeable, moved⟩ := guarded_eq_some.mp moved
  have before : Pending s.stateEvents s := ⟨settled, loses.active, le_rfl⟩
  rcases before.step moved with ⟨pending, -⟩ | ended
  · obtain ⟨u, made, same⟩ := step_eq_some.mp moved
    have leaves : s.leavesReady action = true := by
      have away : u.client.state ≠ .ready := by
        rw [same] at loses
        exact loses.away
      simp [Session.leavesReady, made, loses.ready, away]
    simp only [Noticeable, loses.active, leaves] at noticeable
    simp at noticeable
    have lost : Loses s u := ⟨loses.ready, by rw [same] at loses; exact loses.away, loses.active⟩
    have unseen := unseen_of_loss lost (settled loses.active) noticeable.1 noticeable.2 made
    subst same
    exact Or.inl ⟨pending, unseen.seen, unseen.down⟩
  · exact Or.inr ended

/-- In every run of noticeable steps, every loss of the connection in an active network has
ended the network and signalled the game by the end of the receive thread's next turn. -/
theorem losses_end_session {useP2pProxy : Bool} {config : Config} {sessionId : Octets 16}
    {actions : List Action} {last : Session}
    (steps : run (guarded Noticeable step) (.new useP2pProxy config sessionId) actions =
      some last) : LossesEnd (.new useP2pProxy config sessionId) actions := by
  intro before action after later s t u split ran lost loses rest begun top
  rw [split] at steps
  obtain ⟨s', first, others⟩ := run_append_eq_some.mp steps
  obtain ⟨t', one, others⟩ := run_cons_eq_some.mp others
  obtain ⟨u', next, -⟩ := run_append_eq_some.mp others
  obtain rfl : s' = s := Option.some.inj ((run_of_guarded first).symm.trans ran)
  obtain rfl : t' = t := Option.some.inj ((guarded_eq_some.mp one).2.symm.trans lost)
  obtain rfl : u' = u := Option.some.inj ((run_of_guarded next).symm.trans rest)
  have settled : Settled s' := by
    refine run_invariant Settled ?_ (run_of_guarded first) ?_
    · intro s action t moved settled
      exact settled.step moved
    · intro active
      cases active
  rcases pending_of_loss settled loses one with ⟨pending, unseen⟩ | ended
  · obtain ⟨front, back, m, same, reached, ended⟩ := ends_of_unseen pending unseen next begun top
    exact ⟨front, back, m, same, run_of_guarded reached, ended.inactive, ended.signalled⟩
  · exact ⟨[], after, t', rfl, rfl, ended.inactive, ended.signalled⟩

def blank (id : PacketId) (size : Nat) : List UInt8 := encodeHeader id size ++ List.replicate size 0

def look : List Action := [.sample, .compare]

def turnOf (currentTimeMs : UInt64) (os : Replies) : List Action :=
  [.sample, .compare, .update currentTimeMs os, .checkTimeout false []]

def createAccessPoint : SendCall := .createAccessPoint default (.null 0)

def dialServer : List Action := [.openMode .accessPoint, .connectToServer [] .quiet, .checkConnected]

def connecting : List Action :=
  dialServer ++ turnOf 3 .quiet ++
    turnOf 4 (LdnClientReceive.reading (blank .initializeMessage 22)) ++ [Action.endWait []]

def requesting : List Action :=
  [.request .createNetwork, .sendRequest createAccessPoint [], .call (.wait .timeout),
    .call (.wait .timeout), .call (.wait .timeout)]

def answered : List Action :=
  [.call (.wait .response), .call (.wait .response), .finish createAccessPoint []]

def hosting : List Action :=
  Action.call .startUp :: connecting ++ turnOf 5 .quiet ++ requesting ++
    turnOf 6 (LdnClientReceive.reading (blank .connected Service.networkInfoSize)) ++ answered

def brokenPipe : List Action := [.socketLost, .send (.proxyData default [1]) []]

def lossTurn : List Action := [.sample, .compare, .leaveLost, .update 7 .quiet]

theorem losses_end_session_broken_pipe : ∃ last,
    run (guarded Noticeable step) (.new true Config.default default)
        (hosting ++ brokenPipe ++ lossTurn) = some last ∧
      last.client.state = .backoff ∧ last.service.commState = .accessPoint ∧
      LossesEnd (.new true Config.default default) (hosting ++ brokenPipe ++ lossTurn) := by
  have evaluated : (run (guarded Noticeable step) (.new true Config.default default)
      (hosting ++ brokenPipe ++ lossTurn)).any (fun last =>
        last.client.state = .backoff && last.service.commState = .accessPoint) = true := by
    decide +kernel
  obtain ⟨last, ran, facts⟩ := (Option.any_eq_true _ _).mp evaluated
  obtain ⟨backoff, left_⟩ := Bool.and_eq_true_iff.mp facts
  exact ⟨last, ran, of_decide_eq_true backoff, of_decide_eq_true left_, losses_end_session ran⟩

theorem events_of_run {s t : Session} {actions : List Action}
    (steps : run step s actions = some t) : s.stateEvents ≤ t.stateEvents := by
  refine run_invariant (fun t => s.stateEvents ≤ t.stateEvents) ?_ steps le_rfl
  intro t action u moved below
  exact below.trans (events_of_step moved).1

/-- The server tells the host to go, which takes the client to `Disconnecting`. -/
def toldToGo : Action := .update 7 (LdnClientReceive.reading (blank .disconnect 4))

def nextTurn : List Action := [.checkTimeout false [], .sample, .compare, .update 8 .quiet]

theorem disconnect_packet_unnoticed : ∃ last,
    run step (.new true Config.default default)
        ((hosting ++ look) ++ toldToGo :: nextTurn) = some last ∧
      ¬ LossesEnd (.new true Config.default default)
        ((hosting ++ look) ++ toldToGo :: nextTurn) := by
  have before : (run step (.new true Config.default default) (hosting ++ look)).any
      (fun s => s.client.state = .ready && s.active && s.stateEvents = 3) = true := by
    decide +kernel
  have there : (run step (.new true Config.default default)
      ((hosting ++ look) ++ [toldToGo])).any
        (fun t => t.client.state = .disconnecting) = true := by
    decide +kernel
  have after : (run step (.new true Config.default default)
      ((hosting ++ look) ++ toldToGo :: nextTurn)).any
        (fun u => u.turn = .top && u.stateEvents = 3) = true := by
    decide +kernel
  obtain ⟨s, ranS, factsS⟩ := (Option.any_eq_true _ _).mp before
  obtain ⟨t, ranT, factsT⟩ := (Option.any_eq_true _ _).mp there
  obtain ⟨u, ranU, factsU⟩ := (Option.any_eq_true _ _).mp after
  refine ⟨u, ranU, ?_⟩
  intro ends
  -- The three runs are pieces of one.
  obtain ⟨s', first, told⟩ := run_append_eq_some.mp ranT
  obtain rfl : s' = s := Option.some.inj (first.symm.trans ranS)
  obtain ⟨t', moved, same⟩ := run_cons_eq_some.mp told
  obtain rfl : t' = t := Option.some.inj same
  obtain ⟨s'', first', rest⟩ := run_append_eq_some.mp ranU
  obtain rfl : s'' = s' := Option.some.inj (first'.symm.trans ranS)
  obtain ⟨t'', moved', next⟩ := run_cons_eq_some.mp rest
  obtain rfl : t'' = t' := Option.some.inj (moved'.symm.trans moved)
  simp only [Bool.and_eq_true, decide_eq_true_eq] at factsS factsT factsU
  have away : t''.client.state ≠ .ready := by
    rw [factsT]
    decide
  obtain ⟨front, back, m, split, reached, -, signalled⟩ :=
    ends _ _ nextTurn [] s'' t'' u (by rw [List.append_nil]) ranS moved
      ⟨factsS.1.1, away, factsS.1.2⟩ next (by simp [nextTurn]) factsU.1
  have bounded : m.stateEvents ≤ u.stateEvents := by
    rw [split] at next
    obtain ⟨m', again, tail⟩ := run_append_eq_some.mp next
    obtain rfl : m' = m := Option.some.inj (again.symm.trans reached)
    exact events_of_run tail
  rw [factsS.2] at signalled
  rw [factsU.2] at bounded
  omega

/-- A connection that breaks before the thread has seen it `Ready` is missed. -/
example : (run step (.new true Config.default default)
    (Action.call .startUp :: connecting ++ requesting ++ brokenPipe ++ look ++
      [Action.update 7 .quiet])).any
        (fun s => s.client.state = .backoff && s.active && s.turn = .top) = true := by
  decide +kernel

def failedHandshake : List Action :=
  dialServer ++ turnOf 1 .quiet ++
    turnOf 2 { Replies.quiet with reads := [(.ready false, .data [])] } ++
    [Action.endWait [], Action.closeMode]

/-- So is one that breaks between the thread's look and its update, which dials anew. -/
example : (run step (.new true Config.default default)
    (Action.call .startUp :: failedHandshake ++ connecting ++ turnOf 5 .quiet ++ requesting ++
      look ++ brokenPipe ++ [Action.update 100000 .quiet, Action.checkTimeout false []] ++
      turnOf 100001 .quiet)).any
        (fun s => s.client.state = .connected && s.active && s.turn = .top) = true := by
  decide +kernel

end RyuLdn.LdnSession
