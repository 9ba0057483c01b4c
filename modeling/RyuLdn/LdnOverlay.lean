import RyuLdn.LdnService
import RyuLdn.TransitionSystem

/-! What the overlay and the BSD MITM see of the LDN service: `SharedState` and the calls
that write to it. The calls that make a network publish it when they succeed, the handler
of a lost connection publishes what it has left; nothing else looks at the LDN state. -/
namespace RyuLdn.LdnOverlay

open ProtocolCodec LdnStateMachine LdnService TransitionSystem

structure SharedState where
  gameActive : Bool
  processId : UInt64
  ldnPid : UInt64
  ldnState : CommState
  deriving DecidableEq

namespace SharedState

def setGameActive (shared : SharedState) (active : Bool) (processId : UInt64) : SharedState :=
  { shared with
    gameActive := active
    processId := if active then processId else 0
    ldnState := if active then shared.ldnState else .none }

def setLdnPid (shared : SharedState) (pid : UInt64) : SharedState := { shared with ldnPid := pid }

def setLdnState (shared : SharedState) (state : CommState) : SharedState :=
  { shared with ldnState := state }

end SharedState

structure Overlay where
  service : Service
  shared : SharedState
  deriving DecidableEq

/-- `LdnMitmService` sets the pid when the game opens `ldn:u`. -/
def Overlay.init (useP2pProxy : Bool) (pid : UInt64) : Overlay where
  service := .init useP2pProxy
  shared := ⟨false, 0, pid, .none⟩

def target : Kind → CommState
  | .createNetwork | .createNetworkPrivate => .accessPointCreated
  | .connect | .connectPrivate => .stationConnected

def source : Kind → CommState
  | .createNetwork | .createNetworkPrivate => .accessPoint
  | .connect | .connectPrivate => .station

def succeeds (transition : CommState → StateTransitionResult × CommState) (s : Service) : Bool :=
  (transition s.commState).1 = .success

/-- `SetLdnState(state)` at the end of a call whose transition succeeds. -/
def publishIf (succeeded : Bool) (state : CommState) (shared : SharedState) : SharedState :=
  if succeeded then shared.setLdnState state else shared

/-- `CleanupSessionResources` clears everything. -/
def finalized (shared : SharedState) : SharedState := (shared.setGameActive false 0).setLdnPid 0

/-- What a step of the service writes; `next` is the service after it. -/
def publish (pid : UInt64) (s next : Service) (shared : SharedState) : Action → SharedState
  | .startUp =>
      if succeeds CommState.startUp s then
        ((shared.setGameActive true pid).setLdnState next.commState).setLdnPid pid
      else shared
  | .finalize => finalized shared
  | .openAccessPoint answer =>
      publishIf (succeeds CommState.openAccessPoint s && (s.connectToServer answer).1)
        .accessPoint shared
  | .closeAccessPoint => publishIf (succeeds CommState.closeAccessPoint s) .initialized shared
  | .destroyNetwork => publishIf (succeeds CommState.destroyNetwork s) .accessPoint shared
  | .openStation answer =>
      publishIf (succeeds CommState.openStation s && (s.connectToServer answer).1) .station shared
  | .closeStation => publishIf (succeeds CommState.closeStation s) .initialized shared
  | .disconnect => publishIf (succeeds CommState.disconnect s) .station shared
  | .finish _ =>
      match s.call with
      | .ended kind _ true => shared.setLdnState (target kind)
      | _ => shared
  | .leaveLost => shared.setLdnState next.commState
  | _ => shared

def step (pid : UInt64) (o : Overlay) (a : Action) : Option Overlay :=
  (LdnService.step o.service a).map fun next => ⟨next, publish pid o.service next o.shared a⟩

def Mirrors (o : Overlay) : Prop :=
  o.service.call = .idle → o.shared.ldnState = o.service.commState

/-- The condition on a step. A call that succeeds finds the network it made still there;
one that fails finds that nobody has published it. -/
def Settled (o : Overlay) : Action → Bool
  | .send sent =>
      match o.service.call with
      | .sending kind => sent || o.shared.ldnState ≠ target kind
      | _ => true
  | .finish sent =>
      match o.service.call with
      | .ended kind _ true => o.service.commState = target kind
      | .ended kind second false =>
          o.service.fallsBack kind second && sent || o.shared.ldnState ≠ target kind
      | _ => true
  | _ => true

def kindOf : Call → Option Kind
  | .idle => none
  | .sending kind | .waiting kind _ _ | .ended kind _ _ => some kind

def InCall (o : Overlay) : Prop :=
  ∀ kind, kindOf o.service.call = some kind →
    (o.service.commState = target kind ∨ o.service.commState = source kind) ∧
      (o.shared.ldnState = source kind ∨ o.shared.ldnState = o.service.commState)

section Shown

variable {s : Service} {shared : SharedState} {sources : List CommState} {goal : CommState}

@[simp] theorem ldnState_setLdnState (shared : SharedState) (state : CommState) :
    (shared.setLdnState state).ldnState = state := rfl

theorem transition_cases (sources : List CommState) (goal : CommState) (s : Service) :
    (succeeds (CommState.transition sources goal) s = true ∧
        CommState.transition sources goal s.commState = (.success, goal)) ∨
      (succeeds (CommState.transition sources goal) s = false ∧
        (CommState.transition sources goal s.commState).1 ≠ .success) := by
  unfold succeeds
  cases made : CommState.transition sources goal s.commState with
  | mk result state =>
      cases result with
      | success =>
          rw [(CommState.transition_success made).2]
          exact Or.inl ⟨rfl, rfl⟩
      | alreadyInState => exact Or.inr ⟨rfl, by simp⟩
      | invalidTransition => exact Or.inr ⟨rfl, by simp⟩

theorem leaveNetwork_of_fails {leave : CommState → StateTransitionResult × CommState}
    (fails : (leave s.commState).1 ≠ .success) : s.leaveNetwork leave = s := by
  unfold Service.leaveNetwork
  split
  · rename_i made
    exact absurd (by rw [made]) fails
  · rfl

theorem moveBy_of_fails {leave : CommState → StateTransitionResult × CommState}
    (fails : (leave s.commState).1 ≠ .success) : s.moveBy leave = s := by
  unfold Service.moveBy
  split
  · rename_i made
    exact absurd (by rw [made]) fails
  · rfl

theorem leaveNetwork_shows (shows : shared.ldnState = s.commState) :
    (publishIf (succeeds (CommState.transition sources goal) s) goal shared).ldnState =
      (s.leaveNetwork (CommState.transition sources goal)).commState := by
  rcases transition_cases sources goal s with ⟨good, made⟩ | ⟨bad, fails⟩
  · rw [good]
    simp [publishIf, Service.leaveNetwork, made]
  · rw [bad, leaveNetwork_of_fails fails]
    exact shows

theorem moveBy_shows (shows : shared.ldnState = s.commState) :
    (publishIf (succeeds (CommState.transition sources goal) s) goal shared).ldnState =
      (s.moveBy (CommState.transition sources goal)).commState := by
  rcases transition_cases sources goal s with ⟨good, made⟩ | ⟨bad, fails⟩
  · rw [good]
    simp [publishIf, Service.moveBy, made]
  · rw [bad, moveBy_of_fails fails]
    exact shows

theorem connectToServer_commState (s : Service) (answer : Service.ServerAnswer) :
    (s.connectToServer answer).2.commState = s.commState := by
  cases answer <;> rfl

theorem openMode_shows {closeTo : CommState → StateTransitionResult × CommState}
    {answer : Service.ServerAnswer} (back : ∀ c ∈ sources, (closeTo goal).2 = c)
    (shows : shared.ldnState = s.commState) :
    (publishIf (succeeds (CommState.transition sources goal) s && (s.connectToServer answer).1)
        goal shared).ldnState =
      (s.openMode (CommState.transition sources goal) closeTo answer).commState := by
  rcases transition_cases sources goal s with ⟨good, made⟩ | ⟨bad, fails⟩
  · have came := (CommState.transition_success made).1
    have answered : (({ s with commState := goal } : Service).connectToServer answer).1 =
        (s.connectToServer answer).1 := by cases answer <;> rfl
    have kept := connectToServer_commState { s with commState := goal } answer
    rw [good, Bool.true_and]
    unfold Service.openMode
    rw [made]
    dsimp only
    cases linked : ({ s with commState := goal } : Service).connectToServer answer with
    | mk connected t =>
        rw [linked] at answered kept
        rw [← answered]
        cases connected with
        | true => exact kept.symm
        | false =>
            dsimp only at kept ⊢
            rw [kept, back _ came]
            exact shows
  · have same : s.openMode (CommState.transition sources goal) closeTo answer = s := by
      unfold Service.openMode
      split
      · rename_i made
        exact absurd (by rw [made]) fails
      · rfl
    rw [bad, same]
    exact shows

end Shown

theorem mirrors_of_shows {o : Overlay} (shows : o.shared.ldnState = o.service.commState) :
    Mirrors o := fun _ => shows

theorem inCall_of_idle {o : Overlay} (idle : o.service.call = .idle) : InCall o := by
  intro kind going
  rw [idle] at going
  cases going

theorem atRest_shows {o : Overlay} (pid : UInt64) (shows : o.shared.ldnState = o.service.commState) :
    ((publish pid o.service o.service.startUp o.shared .startUp).ldnState =
        o.service.startUp.commState) ∧
      (finalized o.shared).ldnState = o.service.finalize.commState := by
  refine ⟨?_, ?_⟩
  · have moved : (publishIf (succeeds CommState.startUp o.service) .initialized o.shared).ldnState =
        o.service.startUp.commState := moveBy_shows shows
    unfold publish
    unfold publishIf at moved
    rcases transition_cases [.none] .initialized o.service with ⟨good, made⟩ | ⟨bad, fails⟩
    · rw [show succeeds CommState.startUp o.service = true from good, if_pos rfl]
      rfl
    · rw [show succeeds CommState.startUp o.service = false from bad, if_neg Bool.false_ne_true]
      rw [show succeeds CommState.startUp o.service = false from bad,
        if_neg Bool.false_ne_true] at moved
      exact moved
  · have end_ : (CommState.finalize o.service.commState).2 = .none := by
      unfold CommState.finalize
      split
      · assumption
      · rfl
    exact end_.symm

theorem kind_transition (kind : Kind) : kind.transition = CommState.transition [source kind] (target kind) := by
  cases kind <;> rfl

theorem kind_rollback (kind : Kind) : kind.rollback = CommState.transition [target kind] (source kind) := by
  cases kind <;> rfl

theorem rollback_commState {s : Service} {kind : Kind}
    (here : s.commState = target kind ∨ s.commState = source kind) :
    (s.rollback kind).commState = source kind := by
  unfold Service.rollback
  rw [kind_rollback]
  rcases here with there | back
  · rw [there]
    cases kind <;> rfl
  · rw [back]
    cases kind <;> rfl

theorem source_ne_target (kind : Kind) : source kind ≠ target kind := by cases kind <;> decide

theorem rollback_mirrors_iff {o : Overlay} {s : Service} {kind : Kind} (inCall : InCall o)
    (going : kindOf o.service.call = some kind) (state : s.commState = o.service.commState) :
    Mirrors ⟨s.rollback kind, o.shared⟩ ↔ o.shared.ldnState ≠ target kind := by
  obtain ⟨here, shown⟩ := inCall kind going
  have back := rollback_commState (state ▸ here)
  constructor
  · intro mirrors there
    have same := mirrors rfl
    dsimp only at same
    rw [there, back] at same
    exact source_ne_target kind same.symm
  · intro hidden _
    dsimp only
    rw [back]
    rcases shown with source | now
    · exact source
    · rcases here with there | back
      · exact absurd (now.trans there) hidden
      · exact now.trans back

theorem leaveLost_shows (o : Overlay) (seen : CommState.Active) (pid : UInt64) :
    (publish pid o.service (o.service.leaveLost seen) o.shared .leaveLost).ldnState =
      (o.service.leaveLost seen).commState := rfl

theorem leaveLost_commState (s : Service) (seen : CommState.Active) (kind : Kind)
    (here : s.commState = target kind ∨ s.commState = source kind) :
    (s.leaveLost seen).commState = target kind ∨ (s.leaveLost seen).commState = source kind := by
  obtain ⟨seen, active⟩ := seen
  unfold Service.leaveLost
  dsimp only
  rcases here with there | there <;> rw [there] <;> cases kind <;> split <;> decide

theorem still_iff {o : Overlay} (o' : Overlay) (mirrors : Mirrors o)
    (call : o'.service.call = o.service.call) (state : o'.service.commState = o.service.commState)
    (shown : o'.shared = o.shared) : Mirrors o' ∧ (InCall o → InCall o') := by
  refine ⟨?_, ?_⟩
  · intro idle
    rw [shown, state]
    exact mirrors (call ▸ idle)
  · intro inCall kind going
    rw [shown, state]
    exact inCall kind (call ▸ going)

theorem rest_iff {o o' : Overlay} {a : Action} (idle : o'.service.call = .idle)
    (settled : Settled o a = true) (shows : o'.shared.ldnState = o'.service.commState) :
    (Mirrors o' ↔ Settled o a = true) ∧ (Mirrors o' → InCall o') :=
  ⟨iff_of_true (mirrors_of_shows shows) settled, fun _ => inCall_of_idle idle⟩

theorem call_iff {o o' : Overlay} {a : Action} (busy : o'.service.call ≠ .idle)
    (settled : Settled o a = true) (inCall : InCall o') :
    (Mirrors o' ↔ Settled o a = true) ∧ (Mirrors o' → InCall o') :=
  ⟨iff_of_true (fun idle => absurd idle busy) settled, fun _ => inCall⟩

theorem moveBy_call (s : Service) (transition : CommState → StateTransitionResult × CommState) :
    (s.moveBy transition).call = s.call := by
  rcases s.moveBy_cases transition with same | ⟨_, _, same⟩ <;> rw [same]

theorem leaveNetwork_call (s : Service) (leave : CommState → StateTransitionResult × CommState) :
    (s.leaveNetwork leave).call = s.call := by
  rcases s.leaveNetwork_cases leave with same | ⟨_, same⟩ <;> rw [same]

theorem openMode_call (s : Service) (openTo closeTo : CommState → StateTransitionResult × CommState)
    (answer : Service.ServerAnswer) : (s.openMode openTo closeTo answer).call = s.call := by
  rcases s.openMode_cases openTo closeTo answer with same | ⟨_, _, _, _, _, same⟩ <;> rw [same]

theorem beginRequest_inCall {o : Overlay} (shows : o.shared.ldnState = o.service.commState)
    {kind : Kind} {state : CommState}
    (made : kind.transition o.service.commState = (.success, state)) :
    InCall ⟨{ o.service with commState := state, call := .sending kind }, o.shared⟩ := by
  rw [kind_transition] at made
  obtain ⟨came, rfl⟩ := CommState.transition_success made
  rintro kind' ⟨⟩
  exact ⟨Or.inl rfl, Or.inl (shows.trans (List.mem_singleton.mp came))⟩

theorem sendRequest_iff {o : Overlay} {a : Action} {s : Service} {kind : Kind} {second sent : Bool}
    (inCall : InCall o) (going : kindOf o.service.call = some kind)
    (state : s.commState = o.service.commState)
    (settled : Settled o a = (sent || o.shared.ldnState ≠ target kind)) :
    (Mirrors ⟨s.sendRequest kind second sent, o.shared⟩ ↔ Settled o a = true) ∧
      (Mirrors ⟨s.sendRequest kind second sent, o.shared⟩ →
        InCall ⟨s.sendRequest kind second sent, o.shared⟩) := by
  rw [settled]
  cases sent with
  | true =>
      refine ⟨iff_of_true (fun idle => by cases idle) rfl, ?_⟩
      rintro - kind' ⟨⟩
      have := inCall kind going
      simpa only [Service.sendRequest, if_true, state] using this
  | false =>
      refine ⟨?_, fun _ => inCall_of_idle rfl⟩
      have back := rollback_mirrors_iff inCall going state
      simpa [Service.sendRequest] using back

theorem receivePacket_still (s : Service) (id : PacketId) (data : List UInt8) (answers : Nat) :
    (s.receivePacket id data answers).call = s.call ∧
      (s.receivePacket id data answers).commState = s.commState := by
  obtain ⟨call, state, -⟩ := s.handleServerPacket_frame id data
  unfold Service.receivePacket
  split <;> exact ⟨call, state⟩

theorem noticeLoss_still (s : Service) :
    s.noticeLoss.call = s.call ∧ s.noticeLoss.commState = s.commState := by
  unfold Service.noticeLoss
  split <;> exact ⟨rfl, rfl⟩

theorem finish_iff {o : Overlay} (inCall : InCall o) {kind : Kind} {second result sent : Bool}
    (here : o.service.call = .ended kind second result) {o' : Overlay}
    (service : o'.service = o.service.endRequest kind second result sent)
    (shared : o'.shared = if result then o.shared.setLdnState (target kind) else o.shared) :
    (Mirrors o' ↔ Settled o (.finish sent) = true) ∧ (Mirrors o' → InCall o') := by
  obtain ⟨next, shown⟩ := o'
  dsimp only at service shared
  subst service shared
  have going : kindOf o.service.call = some kind := by rw [here]; rfl
  cases result with
  | true =>
      refine ⟨?_, fun _ => inCall_of_idle rfl⟩
      have settled : Settled o (.finish sent) = decide (o.service.commState = target kind) := by
        simp only [Settled, here]
      rw [settled, decide_eq_true_eq]
      exact ⟨fun mirrors => (mirrors rfl).symm, fun there _ => there.symm⟩
  | false =>
      have settled : Settled o (.finish sent) =
          (o.service.fallsBack kind second && sent || o.shared.ldnState ≠ target kind) := by
        simp only [Settled, here]
      unfold Service.endRequest
      rw [if_neg Bool.false_ne_true, if_neg Bool.false_ne_true]
      split
      · rename_i again
        refine sendRequest_iff inCall going rfl ?_
        rw [settled, again, Bool.true_and]
      · rename_i last
        refine ⟨?_, fun _ => inCall_of_idle rfl⟩
        rw [settled, Bool.eq_false_iff.mpr last, Bool.false_and, Bool.false_or, decide_eq_true_eq]
        exact rollback_mirrors_iff inCall going rfl

theorem step_iff {pid : UInt64} {o o' : Overlay} {a : Action} (inCall : InCall o)
    (mirrors : Mirrors o) (moved : step pid o a = some o') :
    (Mirrors o' ↔ Settled o a = true) ∧ (Mirrors o' → InCall o') := by
  obtain ⟨next, taken, rfl⟩ := Option.map_eq_some_iff.mp moved
  cases a with
  | startUp =>
      obtain ⟨idle, rfl⟩ := start_eq_some.mp taken
      have shows := (atRest_shows pid (mirrors idle)).1
      exact rest_iff ((moveBy_call _ _).trans idle) rfl shows
  | finalize =>
      obtain ⟨idle, rfl⟩ := start_eq_some.mp taken
      exact rest_iff idle rfl (atRest_shows pid (mirrors idle)).2
  | openAccessPoint answer =>
      obtain ⟨idle, rfl⟩ := start_eq_some.mp taken
      exact rest_iff ((openMode_call _ _ _ _).trans idle) rfl (openMode_shows (by decide) (mirrors idle))
  | closeAccessPoint =>
      obtain ⟨idle, rfl⟩ := start_eq_some.mp taken
      have shows : o.shared.ldnState = o.service.disconnectFromServer.commState := mirrors idle
      exact rest_iff ((leaveNetwork_call _ _).trans idle) rfl (leaveNetwork_shows shows)
  | destroyNetwork =>
      obtain ⟨idle, rfl⟩ := start_eq_some.mp taken
      exact rest_iff ((leaveNetwork_call _ _).trans idle) rfl (leaveNetwork_shows (mirrors idle))
  | openStation answer =>
      obtain ⟨idle, rfl⟩ := start_eq_some.mp taken
      exact rest_iff ((openMode_call _ _ _ _).trans idle) rfl (openMode_shows (by decide) (mirrors idle))
  | closeStation =>
      obtain ⟨idle, rfl⟩ := start_eq_some.mp taken
      exact rest_iff ((moveBy_call _ _).trans idle) rfl (moveBy_shows (mirrors idle))
  | disconnect =>
      obtain ⟨idle, rfl⟩ := start_eq_some.mp taken
      exact rest_iff ((leaveNetwork_call _ _).trans idle) rfl (leaveNetwork_shows (mirrors idle))
  | request kind ready =>
      obtain ⟨idle, rfl⟩ := start_eq_some.mp taken
      rcases o.service.beginRequest_cases kind ready with same | ⟨state, made, same⟩ <;> rw [same]
      · exact rest_iff idle rfl (mirrors idle)
      · exact call_iff (by simp) rfl (beginRequest_inCall (mirrors idle) made)
  | send sent =>
      obtain ⟨kind, here, rfl⟩ := step_send_eq_some.mp taken
      refine sendRequest_iff inCall (by rw [here]; rfl) rfl ?_
      simp only [Settled, here]
  | wait signal =>
      obtain ⟨kind, second, stage, here, waited⟩ := step_wait_eq_some.mp taken
      have same : next.commState = o.service.commState ∧ kindOf next.call = some kind ∧
          next.call ≠ .idle := by
        rcases Service.waitForResponse_cases waited with ⟨_, rfl, -⟩ | ⟨_, _, _, rfl⟩ <;>
          exact ⟨rfl, rfl, by simp [Service.endWait]⟩
      refine call_iff same.2.2 rfl ?_
      intro kind' going
      rw [same.2.1, Option.some.injEq] at going
      have held := inCall kind (by rw [here]; rfl)
      simpa only [publish, ← going, same.1] using held
  | finish sent =>
      obtain ⟨kind, second, result, here, rfl⟩ := step_finish_eq_some.mp taken
      refine finish_iff inCall here rfl ?_
      simp only [publish, here]
      cases result <;> rfl
  | packet id data answers =>
      obtain ⟨-, rfl⟩ := receiving_eq_some.mp taken
      obtain ⟨call, state⟩ := receivePacket_still o.service id data answers
      have still := still_iff ⟨_, o.shared⟩ mirrors call state rfl
      exact ⟨iff_of_true still.1 rfl, fun _ => still.2 inCall⟩
  | noticeLoss =>
      obtain ⟨-, rfl⟩ := receiving_eq_some.mp taken
      obtain ⟨call, state⟩ := noticeLoss_still o.service
      have still := still_iff ⟨_, o.shared⟩ mirrors call state rfl
      exact ⟨iff_of_true still.1 rfl, fun _ => still.2 inCall⟩
  | leaveLost =>
      obtain ⟨seen, -, rfl⟩ := Option.map_eq_some_iff.mp taken
      have shows := leaveLost_shows o seen pid
      refine ⟨iff_of_true (mirrors_of_shows shows) rfl, ?_⟩
      intro _ kind going
      exact ⟨leaveLost_commState _ _ kind (inCall kind going).1, Or.inr shows⟩
  | inactivityTimeout =>
      obtain ⟨-, rfl⟩ := receiving_eq_some.mp taken
      have same : o.service.onInactivityTimeout.call = o.service.call ∧
          o.service.onInactivityTimeout.commState = o.service.commState := by
        unfold Service.onInactivityTimeout
        split <;> exact ⟨rfl, rfl⟩
      have still := still_iff ⟨_, o.shared⟩ mirrors same.1 same.2 rfl
      exact ⟨iff_of_true still.1 rfl, fun _ => still.2 inCall⟩
  | p2pFailed =>
      cases taken
      have still := still_iff ⟨o.service.p2pFailed, o.shared⟩ mirrors rfl rfl rfl
      exact ⟨iff_of_true still.1 rfl, fun _ => still.2 inCall⟩

/-- What the overlay shows between calls is the LDN state, all along a run, exactly if
every step is a settled one. -/
theorem overlay_mirrors_iff {useP2pProxy : Bool} {pid : UInt64} {actions : List Action} {o : Overlay}
    (steps : run (step pid) (.init useP2pProxy pid) actions = some o) :
    (∀ front back m, actions = front ++ back →
        run (step pid) (.init useP2pProxy pid) front = some m → Mirrors m) ↔
      run (guarded Settled (step pid)) (.init useP2pProxy pid) actions = some o := by
  have keep : ∀ {m a m'}, InCall m → Mirrors m → step pid m a = some m' → Mirrors m' → InCall m' :=
    fun inCall mirrors moved mirrors' => (step_iff inCall mirrors moved).2 mirrors'
  have exact_ : ∀ {m a m'}, InCall m → Mirrors m → step pid m a = some m' →
      (Mirrors m' ↔ Settled m a = true) :=
    fun inCall mirrors moved => (step_iff inCall mirrors moved).1
  exact run_guarded_iff keep exact_ (inCall_of_idle rfl) (mirrors_of_shows rfl) steps

def joinAndLose : List Action :=
  [.startUp, .openStation .handshaken, .request .connect true, .send true, .wait .timeout,
    .wait .timeout, .wait .timeout, .packet .connected (List.replicate 0x480 0) 1, .wait .response,
    .wait .response, .finish true, .noticeLoss, .leaveLost, .closeStation]

theorem overlay_mirrors_iff_joinAndLose : ∃ o,
    run (guarded Settled (step 5)) (.init true 5) joinAndLose = some o ∧
      ∀ front back m, joinAndLose = front ++ back →
        run (step 5) (.init true 5) front = some m → Mirrors m := by
  have evaluated : (run (guarded Settled (step 5)) (.init true 5) joinAndLose).isSome = true := by
    decide +kernel
  obtain ⟨o, ran⟩ := Option.isSome_iff_exists.mp evaluated
  exact ⟨o, ran, (overlay_mirrors_iff (run_of_guarded ran)).mpr ran⟩

def lostWhileJoining : List Action :=
  [.startUp, .openStation .handshaken, .request .connect true, .send true, .wait .timeout,
    .wait .timeout, .wait .timeout, .packet .connected (List.replicate 0x480 0) 1, .wait .response,
    .wait .response, .noticeLoss, .leaveLost, .finish true]

theorem lostWhileJoining_not_mirrors : ∃ o,
    run (step 5) (.init true 5) lostWhileJoining = some o ∧ o.service.commState = .station ∧
      o.shared.ldnState = .stationConnected ∧ ¬ Mirrors o := by
  have evaluated : (run (step 5) (.init true 5) lostWhileJoining).any (fun o =>
      o.service.call = .idle ∧ o.service.commState = .station ∧
        o.shared.ldnState = .stationConnected) = true := by
    decide +kernel
  obtain ⟨o, ran, facts⟩ := (Option.any_eq_true _ _).mp evaluated
  obtain ⟨idle, station, shown⟩ := of_decide_eq_true facts
  refine ⟨o, ran, station, shown, fun mirrors => ?_⟩
  have same := mirrors idle
  rw [station, shown] at same
  cases same

structure Present (pid : UInt64) (o : Overlay) : Prop where
  active : o.shared.gameActive = true ↔ o.service.commState ≠ .none
  process : o.shared.processId = if o.shared.gameActive then pid else 0
  intercepted : o.shared.gameActive = true → o.shared.ldnPid = pid
  other : o.shared.ldnPid = pid ∨ o.shared.ldnPid = 0

theorem transition_none {sources : List CommState} {goal : CommState} (some_ : goal ≠ .none)
    (later : .none ∉ sources) (c : CommState) :
    (CommState.transition sources goal c).2 = .none ↔ c = .none := by
  unfold CommState.transition
  split
  · exact Iff.rfl
  · split
    · rename_i came
      refine iff_of_false some_ ?_
      rintro rfl
      exact later came
    · exact Iff.rfl

section Later

variable {sources : List CommState} {goal : CommState} (some_ : goal ≠ .none)
  (later : .none ∉ sources)
include some_ later

theorem moveBy_none (s : Service) :
    (s.moveBy (CommState.transition sources goal)).commState = .none ↔ s.commState = .none := by
  have moved := transition_none some_ later s.commState
  unfold Service.moveBy
  split
  · rename_i made
    rwa [made] at moved
  · exact Iff.rfl

theorem leaveNetwork_none (s : Service) :
    (s.leaveNetwork (CommState.transition sources goal)).commState = .none ↔
      s.commState = .none := by
  have moved := transition_none some_ later s.commState
  unfold Service.leaveNetwork
  split
  · rename_i made
    rwa [made] at moved
  · exact Iff.rfl

theorem openMode_none {sources' : List CommState} {goal' : CommState} (some' : goal' ≠ .none)
    (later' : .none ∉ sources') (s : Service) (answer : Service.ServerAnswer) :
    (s.openMode (CommState.transition sources goal) (CommState.transition sources' goal')
        answer).commState = .none ↔ s.commState = .none := by
  have moved := transition_none some_ later s.commState
  unfold Service.openMode
  split
  · rename_i state made
    rw [made] at moved
    have linked := connectToServer_commState { s with commState := state } answer
    split
    · rename_i connected
      rw [connected] at linked
      rw [← moved]
      exact iff_of_eq (congrArg (· = CommState.none) linked)
    · rename_i refused
      rw [refused] at linked
      rw [transition_none some' later', ← moved]
      exact iff_of_eq (congrArg (· = CommState.none) linked)
  · exact Iff.rfl

end Later

theorem rollback_none (s : Service) (kind : Kind) :
    (s.rollback kind).commState = .none ↔ s.commState = .none := by
  unfold Service.rollback
  rw [kind_rollback]
  exact transition_none (by cases kind <;> decide) (by cases kind <;> decide) s.commState

theorem sendRequest_none (s : Service) (kind : Kind) (second sent : Bool) :
    (s.sendRequest kind second sent).commState = .none ↔ s.commState = .none := by
  unfold Service.sendRequest
  split
  · exact Iff.rfl
  · exact rollback_none s kind

theorem endRequest_none (s : Service) (kind : Kind) (second result sent : Bool) :
    (s.endRequest kind second result sent).commState = .none ↔ s.commState = .none := by
  unfold Service.endRequest
  split
  · exact Iff.rfl
  · split
    · exact sendRequest_none { s with errorEvent := false } kind true sent
    · exact rollback_none s kind

theorem leaveLost_none (s : Service) (seen : CommState.Active) :
    (s.leaveLost seen).commState = .none ↔ s.commState = .none := by
  unfold Service.leaveLost
  dsimp only
  split
  · exact transition_none (by decide) (by decide) s.commState
  · exact transition_none (by decide) (by decide) s.commState

theorem service_step_none {s t : Service} {a : Action} (moved : LdnService.step s a = some t)
    (start : a ≠ .startUp) (end_ : a ≠ .finalize) :
    t.commState = .none ↔ s.commState = .none := by
  cases a with
  | startUp => exact absurd rfl start
  | finalize => exact absurd rfl end_
  | openAccessPoint answer =>
      obtain ⟨-, rfl⟩ := start_eq_some.mp moved
      exact openMode_none (by decide) (by decide) (by decide) (by decide) s answer
  | closeAccessPoint =>
      obtain ⟨-, rfl⟩ := start_eq_some.mp moved
      exact leaveNetwork_none (by decide) (by decide) s.disconnectFromServer
  | destroyNetwork =>
      obtain ⟨-, rfl⟩ := start_eq_some.mp moved
      exact leaveNetwork_none (by decide) (by decide) s
  | openStation answer =>
      obtain ⟨-, rfl⟩ := start_eq_some.mp moved
      exact openMode_none (by decide) (by decide) (by decide) (by decide) s answer
  | closeStation =>
      obtain ⟨-, rfl⟩ := start_eq_some.mp moved
      exact moveBy_none (by decide) (by decide) s
  | disconnect =>
      obtain ⟨-, rfl⟩ := start_eq_some.mp moved
      exact leaveNetwork_none (by decide) (by decide) s
  | request kind ready =>
      obtain ⟨-, rfl⟩ := start_eq_some.mp moved
      rcases s.beginRequest_cases kind ready with same | ⟨state, made, same⟩ <;> rw [same]
      rw [kind_transition] at made
      have moved : (CommState.transition [source kind] (target kind) s.commState).2 = .none ↔ _ :=
        transition_none (by cases kind <;> decide) (by cases kind <;> decide) s.commState
      rwa [made] at moved
  | send sent =>
      obtain ⟨kind, -, rfl⟩ := step_send_eq_some.mp moved
      exact sendRequest_none s kind false sent
  | wait signal =>
      obtain ⟨kind, second, stage, -, waited⟩ := step_wait_eq_some.mp moved
      rcases Service.waitForResponse_cases waited with ⟨_, rfl, -⟩ | ⟨_, _, _, rfl⟩ <;> exact Iff.rfl
  | finish sent =>
      obtain ⟨kind, second, result, -, rfl⟩ := step_finish_eq_some.mp moved
      exact endRequest_none s kind second result sent
  | packet id data answers =>
      obtain ⟨-, rfl⟩ := receiving_eq_some.mp moved
      rw [(receivePacket_still s id data answers).2]
  | noticeLoss =>
      obtain ⟨-, rfl⟩ := receiving_eq_some.mp moved
      rw [(noticeLoss_still s).2]
  | leaveLost =>
      obtain ⟨seen, -, rfl⟩ := Option.map_eq_some_iff.mp moved
      exact leaveLost_none s seen
  | inactivityTimeout =>
      obtain ⟨-, rfl⟩ := receiving_eq_some.mp moved
      unfold Service.onInactivityTimeout
      split <;> exact Iff.rfl
  | p2pFailed =>
      cases moved
      exact Iff.rfl

theorem publish_process (pid : UInt64) (s next : Service) (shared : SharedState) {a : Action}
    (start : a ≠ .startUp) (end_ : a ≠ .finalize) :
    ∃ state, publish pid s next shared a = shared.setLdnState state := by
  have conditional (succeeded : Bool) (state : CommState) :
      ∃ shown, publishIf succeeded state shared = shared.setLdnState shown := by
    cases succeeded
    · exact ⟨shared.ldnState, rfl⟩
    · exact ⟨state, rfl⟩
  cases a with
  | startUp => exact absurd rfl start
  | finalize => exact absurd rfl end_
  | openAccessPoint answer => exact conditional _ _
  | closeAccessPoint => exact conditional _ _
  | destroyNetwork => exact conditional _ _
  | openStation answer => exact conditional _ _
  | closeStation => exact conditional _ _
  | disconnect => exact conditional _ _
  | finish sent =>
      unfold publish
      dsimp only
      split
      · exact ⟨_, rfl⟩
      · exact ⟨shared.ldnState, rfl⟩
  | leaveLost => exact ⟨next.commState, rfl⟩
  | request | send | wait | packet | noticeLoss | inactivityTimeout | p2pFailed =>
      exact ⟨shared.ldnState, rfl⟩

theorem Present.step {pid : UInt64} {o o' : Overlay} {a : Action} (present : Present pid o)
    (moved : step pid o a = some o') : Present pid o' := by
  obtain ⟨next, taken, rfl⟩ := Option.map_eq_some_iff.mp moved
  by_cases start : a = .startUp
  · subst start
    obtain ⟨-, rfl⟩ := start_eq_some.mp taken
    rcases transition_cases [.none] .initialized o.service with ⟨good, made⟩ | ⟨bad, fails⟩
    · have good : succeeds CommState.startUp o.service = true := good
      have made : CommState.startUp o.service.commState = (.success, .initialized) := made
      simp only [publish, good, if_true, Service.startUp, Service.moveBy, made]
      exact ⟨by simp [SharedState.setGameActive, SharedState.setLdnState, SharedState.setLdnPid],
        rfl, fun _ => rfl, Or.inl rfl⟩
    · have bad : succeeds CommState.startUp o.service = false := bad
      have same : o.service.startUp = o.service := moveBy_of_fails fails
      simp only [publish, bad, same, Bool.false_eq_true, if_false]
      exact present
  · by_cases end_ : a = .finalize
    · subst end_
      obtain ⟨-, rfl⟩ := start_eq_some.mp taken
      have away : o.service.finalize.commState = .none := by
        have shows := (atRest_shows (o := ⟨o.service, o.shared.setLdnState o.service.commState⟩)
          pid rfl).2
        exact shows.symm
      refine ⟨iff_of_false (by simp [publish, finalized, SharedState.setGameActive,
        SharedState.setLdnPid]) (by simp [away]), rfl, ?_, Or.inr rfl⟩
      intro active
      cases active
    · obtain ⟨state, wrote⟩ := publish_process pid o.service next o.shared start end_
      have kept := service_step_none taken start end_
      rw [wrote]
      refine ⟨?_, present.process, present.intercepted, present.other⟩
      exact present.active.trans (not_congr kept).symm

/-- In every run the shared state says that a game is active exactly from a successful
`Initialize` to the next `Finalize`, and then names its process in both places. -/
theorem present_run {useP2pProxy : Bool} {pid : UInt64} {actions : List Action} {o : Overlay}
    (steps : run (step pid) (.init useP2pProxy pid) actions = some o) : Present pid o := by
  refine run_invariant (Present pid) (fun moved present => present.step moved) steps ?_
  exact ⟨by simp [Overlay.init, Service.init], rfl, nofun, Or.inl rfl⟩

theorem present_run_joinAndLose : ∃ o,
    run (step 5) (.init true 5) joinAndLose = some o ∧ Present 5 o := by
  have evaluated : (run (step 5) (.init true 5) joinAndLose).isSome = true := by decide +kernel
  obtain ⟨o, ran⟩ := Option.isSome_iff_exists.mp evaluated
  exact ⟨o, ran, present_run ran⟩

end RyuLdn.LdnOverlay
