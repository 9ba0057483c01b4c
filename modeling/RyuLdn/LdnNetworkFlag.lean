import RyuLdn.LdnService
import RyuLdn.TransitionSystem

/-! The connection flag and the LDN state. The flag is set by the packet handler
whatever the state is, and `CloseStation` and the rollbacks leave it standing. -/
namespace RyuLdn.LdnNetworkFlag

open ProtocolCodec LdnStateMachine LdnService TransitionSystem

/-- Between two calls, the flag stands for an active network. -/
def FlagAgrees (s : Service) : Prop :=
  s.call = .idle → s.networkConnected = true → s.commState.isNetworkActive = true

/-- The condition on a step. `Connected` arrives in an active network; a request that
fails, a station that is closed and a connection that is lost find the flag clear; a
request that succeeds finds its network still there. -/
def Settled (s : Service) : Action → Bool
  | .packet id data _ =>
      id ≠ .connected || data.length < Service.networkInfoSize || s.commState.isNetworkActive
  | .closeStation => !s.networkConnected || s.commState ≠ .stationConnected
  | .send sent => sent || !s.networkConnected
  | .finish sent =>
      match s.call with
      | .ended kind _ true => !kind.setsFlag || s.commState.isNetworkActive
      | .ended kind second false => s.fallsBack kind second && sent || !s.networkConnected
      | _ => true
  | .leaveLost => !s.networkConnected || s.losing.map (·.val) ≠ some s.commState
  | _ => true

def Inv (s : Service) : Prop :=
  s.networkConnected = true → s.commState.isNetworkActive = true

theorem Inv.flagAgrees {s : Service} (inv : Inv s) : FlagAgrees s := fun _ => inv

theorem inv_init (useP2pProxy : Bool) : Inv (.init useP2pProxy) := by
  intro set
  cases set

theorem inv_of_clear {s : Service} (clear : s.networkConnected = false) : Inv s := by
  intro set
  rw [clear] at set
  cases set

theorem Inv.clear {s : Service} (inv : Inv s) {sources : List CommState} {target t : CommState}
    (made : CommState.transition sources target s.commState = (.success, t))
    (inactive : ∀ c ∈ sources, c.isNetworkActive = false) : s.networkConnected = false := by
  have idle := inactive _ (CommState.transition_success made).1
  by_contra set
  rw [inv (by simpa using set)] at idle
  cases idle

theorem Inv.calm {s t : Service} (inv : Inv s) (flag : t.networkConnected = s.networkConnected)
    (state : t.commState = s.commState) : Inv t := by
  intro set
  rw [state]
  exact inv (flag ▸ set)

theorem Inv.openMode {s : Service} (inv : Inv s) {target : CommState}
    {closeTo : CommState → StateTransitionResult × CommState} {answer : Service.ServerAnswer} :
    Inv (s.openMode (CommState.transition [.initialized] target) closeTo answer) := by
  rcases s.openMode_cases (CommState.transition [.initialized] target) closeTo answer with
    same | ⟨_, _, _, _, made, same⟩ <;> rw [same]
  · exact inv
  · exact inv_of_clear (inv.clear made (by decide))

theorem Inv.leaveNetwork {s : Service} (inv : Inv s)
    (leave : CommState → StateTransitionResult × CommState) : Inv (s.leaveNetwork leave) := by
  rcases s.leaveNetwork_cases leave with same | ⟨_, same⟩ <;> rw [same]
  · exact inv
  · exact inv_of_clear rfl

theorem Kind.transition_clear {s : Service} (inv : Inv s) {kind : Kind} {t : CommState}
    (made : kind.transition s.commState = (.success, t)) : s.networkConnected = false := by
  cases kind <;> exact inv.clear made (by decide)

theorem Inv.beginRequest {s : Service} (inv : Inv s) (kind : Kind) (ready : Bool) :
    Inv (s.beginRequest kind ready) := by
  rcases s.beginRequest_cases kind ready with same | ⟨_, made, same⟩ <;> rw [same]
  · exact inv
  · have clear := Kind.transition_clear inv made
    exact inv_of_clear clear

theorem Inv.sendRequest {s : Service} (inv : Inv s) (kind : Kind) (second sent : Bool)
    (settled : sent = false → s.networkConnected = false) :
    Inv (s.sendRequest kind second sent) := by
  cases sent with
  | true => exact inv.calm rfl rfl
  | false => exact inv_of_clear (settled rfl)

theorem Inv.endRequest {s : Service} (inv : Inv s) {kind : Kind} {second result sent : Bool}
    (here : s.call = .ended kind second result) (settled : Settled s (.finish sent) = true) :
    Inv (s.endRequest kind second result sent) := by
  simp only [Settled, here] at settled
  unfold Service.endRequest
  cases result with
  | true =>
      rw [if_pos rfl]
      intro set
      rcases Bool.or_eq_true_iff.mp set with stood | own
      · exact inv stood
      · simpa [own] using settled
  | false =>
      rw [if_neg (by simp)]
      by_cases again : s.fallsBack kind second = true
      · rw [if_pos again]
        refine (inv.calm (t := { s with errorEvent := false }) rfl rfl).sendRequest _ _ _ ?_
        rintro rfl
        simpa using settled
      · rw [if_neg again]
        have clear : s.networkConnected = false := by simpa [again] using settled
        exact inv_of_clear clear

theorem Inv.receivePacket {s : Service} (inv : Inv s) {id : PacketId} {data : List UInt8}
    {answers : Nat} (settled : Settled s (.packet id data answers) = true) :
    Inv (s.receivePacket id data answers) := by
  obtain ⟨-, state, -⟩ := s.handleServerPacket_frame id data
  have handled : Inv (s.handleServerPacket id data) := by
    intro set
    rw [state]
    rcases Service.handleServerPacket_flag set with stood | ⟨connected, whole⟩
    · exact inv stood
    · simpa [Settled, connected, Nat.not_lt.mpr whole] using settled
  unfold Service.receivePacket
  split
  · exact handled.calm rfl rfl
  · exact handled

theorem Inv.closeStation {s : Service} (inv : Inv s) (settled : Settled s .closeStation = true) :
    Inv s.closeStation := by
  rcases s.moveBy_cases CommState.closeStation with same | ⟨_, made, same⟩ <;>
    rw [Service.closeStation, same]
  · exact inv
  · refine inv_of_clear ?_
    by_contra set
    have set : s.networkConnected = true := by simpa using set
    have active := inv set
    have sources := (CommState.transition_success made).1
    simp only [Settled, set, Bool.not_true, Bool.false_or, decide_eq_true_eq] at settled
    rcases List.mem_pair.mp sources with station | connected
    · rw [station] at active
      cases active
    · exact settled connected

theorem Inv.leaveLost {s : Service} (inv : Inv s) {seen : CommState.Active}
    (here : s.losing = some seen) (settled : Settled s .leaveLost = true) :
    Inv (s.leaveLost seen) := by
  intro set
  have stood : s.networkConnected = true := set
  have active := inv stood
  have other : seen.val ≠ s.commState := by simpa [Settled, stood, here] using settled
  have kept : (s.leaveLost seen).commState = s.commState := by
    rcases CommState.isNetworkActive_iff.mp seen.property with created | connected
    · rcases CommState.isNetworkActive_iff.mp active with now | now
      · exact absurd (created.trans now.symm) other
      · simp [Service.leaveLost, created, now, CommState.destroyNetwork, CommState.transition]
    · rcases CommState.isNetworkActive_iff.mp active with now | now
      · simp [Service.leaveLost, connected, now, CommState.disconnect, CommState.transition]
      · exact absurd (connected.trans now.symm) other
  rw [kept]
  exact active

theorem Inv.step {s t : Service} {action : Action} (inv : Inv s)
    (settled : Settled s action = true) (moved : step s action = some t) : Inv t := by
  cases action with
  | startUp =>
      obtain ⟨-, rfl⟩ := start_eq_some.mp moved
      rcases s.moveBy_cases CommState.startUp with same | ⟨_, made, same⟩ <;>
        rw [Service.startUp, same]
      · exact inv
      · have clear := inv.clear made (by decide)
        exact inv_of_clear clear
  | finalize =>
      obtain ⟨-, rfl⟩ := start_eq_some.mp moved
      exact inv_of_clear rfl
  | openAccessPoint answer =>
      obtain ⟨-, rfl⟩ := start_eq_some.mp moved
      exact inv.openMode
  | closeAccessPoint =>
      obtain ⟨-, rfl⟩ := start_eq_some.mp moved
      exact (inv.calm (t := s.disconnectFromServer) rfl rfl).leaveNetwork _
  | destroyNetwork =>
      obtain ⟨-, rfl⟩ := start_eq_some.mp moved
      exact inv.leaveNetwork CommState.destroyNetwork
  | openStation answer =>
      obtain ⟨-, rfl⟩ := start_eq_some.mp moved
      exact inv.openMode
  | closeStation =>
      obtain ⟨-, rfl⟩ := start_eq_some.mp moved
      exact inv.closeStation settled
  | disconnect =>
      obtain ⟨-, rfl⟩ := start_eq_some.mp moved
      exact inv.leaveNetwork CommState.disconnect
  | request kind ready =>
      obtain ⟨-, rfl⟩ := start_eq_some.mp moved
      exact inv.beginRequest kind ready
  | send sent =>
      obtain ⟨kind, -, rfl⟩ := step_send_eq_some.mp moved
      refine inv.sendRequest kind false sent ?_
      rintro rfl
      simpa [Settled] using settled
  | wait signal =>
      obtain ⟨kind, second, stage, -, moved⟩ := step_wait_eq_some.mp moved
      rcases Service.waitForResponse_cases moved with ⟨_, rfl, -⟩ | ⟨_, _, _, rfl⟩
      · exact inv.calm rfl rfl
      · exact inv.calm rfl rfl
  | finish sent =>
      obtain ⟨kind, second, result, here, rfl⟩ := step_finish_eq_some.mp moved
      exact inv.endRequest here settled
  | packet id data answers =>
      obtain ⟨-, rfl⟩ := receiving_eq_some.mp moved
      exact inv.receivePacket settled
  | noticeLoss =>
      obtain ⟨-, rfl⟩ := receiving_eq_some.mp moved
      unfold Service.noticeLoss
      split
      · exact inv_of_clear rfl
      · exact inv
  | leaveLost =>
      obtain ⟨seen, here, rfl⟩ := Option.map_eq_some_iff.mp moved
      exact inv.leaveLost here settled
  | inactivityTimeout =>
      obtain ⟨-, rfl⟩ := receiving_eq_some.mp moved
      unfold Service.onInactivityTimeout
      split
      · exact inv
      · exact inv.calm rfl rfl
  | p2pFailed =>
      cases moved
      exact inv.calm rfl rfl

/-- In every run of settled steps the flag agrees with the LDN state between calls. -/
theorem flagAgrees_of_settled {useP2pProxy : Bool} {s : Service} {actions : List Action}
    (steps : run (guarded Settled step) (.init useP2pProxy) actions = some s) : FlagAgrees s := by
  refine (run_invariant Inv ?_ steps (inv_init useP2pProxy)).flagAgrees
  intro s action t moved inv
  obtain ⟨settled, moved⟩ := guarded_eq_some.mp moved
  exact inv.step settled moved

def joining : List Action :=
  [.startUp, .openStation .handshaken, .request .connect true, .send true, .wait .timeout,
    .wait .timeout, .wait .timeout]

def joinAndLeave : List Action :=
  joining ++ [.packet .connected (List.replicate 0x480 0) 1, .wait .response, .wait .response,
    .finish true, .disconnect, .closeStation]

theorem flagAgrees_of_settled_left : ∃ s,
    run (guarded Settled step) (.init true) joinAndLeave = some s ∧ FlagAgrees s := by
  have evaluated : (run (guarded Settled step) (.init true) joinAndLeave).isSome = true := by
    decide +kernel
  obtain ⟨s, ran⟩ := Option.isSome_iff_exists.mp evaluated
  exact ⟨s, ran, flagAgrees_of_settled ran⟩

def joinTooLate : List Action :=
  joining ++ [.wait .timeout, .wait .timeout, .finish true,
    .packet .connected (List.replicate 0x480 0) 1]

theorem joinTooLate_not_flagAgrees :
    ∃ s, run step (.init true) joinTooLate = some s ∧ ¬ FlagAgrees s := by
  have evaluated : (run step (.init true) joinTooLate).any
      (fun s => s.call = .idle ∧ s.networkConnected = true ∧ s.commState = .station) = true := by
    decide +kernel
  obtain ⟨s, ran, facts⟩ := (Option.any_eq_true _ _).mp evaluated
  obtain ⟨idle, set, station⟩ := of_decide_eq_true facts
  refine ⟨s, ran, ?_⟩
  intro agrees
  have active := agrees idle set
  rw [station] at active
  cases active

end RyuLdn.LdnNetworkFlag
