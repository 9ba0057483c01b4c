import RyuLdn.LdnService
import RyuLdn.TransitionSystem

/-! Requests and their `Connected`. `WaitForResponse` asks for the connection flag and
for the last response, and nothing resets either of them when a request is sent; a
wait is answered by its own request only if both were clear by then. -/
namespace RyuLdn.LdnResponses

open ProtocolCodec LdnStateMachine LdnService TransitionSystem

/-- The number of requests sent, and whether a `Connected` that answers the last of
them was handled since. -/
def progress (log : List Entry) : Nat × Bool :=
  log.foldl
    (fun p entry =>
      match entry with
      | .requestSent => (p.1 + 1, false)
      | .connectedHandled answers => (p.1, p.2 || answers = p.1)
      | .waitEnded _ => p)
    (0, false)

/-- Every wait that returned true was answered after its request had been sent, and
not by the answer to an earlier request. -/
def Matched (log : List Entry) : Prop :=
  ∀ before after, log = before ++ .waitEnded true :: after → (progress before).2 = true

/-- The condition on a step: a request is sent when neither the flag nor the last
response speaks of a `Connected`; a `Connected` that arrives during a wait answers the
request that waits. -/
def Fresh (s : Service) : Action → Bool
  | .send sent => !sent || (!s.networkConnected && s.lastResponseId ≠ .connected)
  | .finish sent =>
      match s.call with
      | .ended kind second false =>
          !(s.fallsBack kind second && sent) ||
            (!s.networkConnected && s.lastResponseId ≠ .connected)
      | _ => true
  | .packet id _ answers =>
      match s.call with
      | .waiting _ _ _ => id ≠ .connected || answers = (progress s.log).1
      | _ => true
  | _ => true

theorem progress_append (log : List Entry) (entry : Entry) :
    progress (log ++ [entry]) =
      match entry with
      | .requestSent => ((progress log).1 + 1, false)
      | .connectedHandled answers =>
          ((progress log).1, (progress log).2 || answers = (progress log).1)
      | .waitEnded _ => progress log := by
  rw [progress, List.foldl_append]
  rfl

theorem matched_nil : Matched [] := by
  intro before after split
  exact absurd split (by simp)

theorem Matched.append {log : List Entry} (matched : Matched log) {entry : Entry}
    (answered : entry = .waitEnded true → (progress log).2 = true) :
    Matched (log ++ [entry]) := by
  intro before after split
  rcases List.eq_nil_or_concat after with rfl | ⟨rest, last, rfl⟩
  · obtain ⟨same, rfl⟩ := List.append_singleton_inj.mp split
    exact same ▸ answered rfl
  · rw [List.concat_eq_append, ← List.cons_append, ← List.append_assoc] at split
    exact matched before rest (List.append_singleton_inj.mp split).1

/-- What `WaitForResponse` would take for an answer, is one. -/
def Answered (s : Service) : Prop :=
  s.networkConnected = true ∨ s.lastResponseId = .connected → (progress s.log).2 = true

structure Inv (s : Service) : Prop where
  matched : Matched s.log
  answered : ∀ kind second stage, s.call = .waiting kind second stage → Answered s

theorem inv_init (useP2pProxy : Bool) : Inv (.init useP2pProxy) :=
  ⟨matched_nil, fun _ _ _ waiting => by cases waiting⟩

theorem Inv.quiet {s t : Service} (inv : Inv s) (log : t.log = s.log)
    (away : ∀ kind second stage, t.call ≠ .waiting kind second stage) : Inv t := by
  refine ⟨log ▸ inv.matched, ?_⟩
  intro kind second stage waiting
  exact absurd waiting (away kind second stage)

theorem Inv.calm {s t : Service} (inv : Inv s) (log : t.log = s.log) (call : t.call = s.call)
    (flag : t.networkConnected = true → s.networkConnected = true)
    (last : t.lastResponseId = .connected → s.lastResponseId = .connected) : Inv t := by
  refine ⟨log ▸ inv.matched, ?_⟩
  intro kind second stage waiting stale
  rw [log]
  exact inv.answered kind second stage (call ▸ waiting) (stale.imp flag last)

theorem Inv.sendRequest {s : Service} (inv : Inv s) (kind : Kind) (second sent : Bool)
    (fresh : sent = true → s.networkConnected = false ∧ s.lastResponseId ≠ .connected) :
    Inv (s.sendRequest kind second sent) := by
  cases sent with
  | false => exact inv.quiet rfl (by simp [Service.sendRequest, Service.rollback])
  | true =>
      obtain ⟨flag, last⟩ := fresh rfl
      refine ⟨inv.matched.append (by simp), ?_⟩
      intro _ _ _ _ stale
      simp [Service.sendRequest, flag, last] at stale

theorem Inv.endWait {s : Service} (inv : Inv s) (kind : Kind) (second result : Bool)
    (answered : result = true → (progress s.log).2 = true) : Inv (s.endWait kind second result) :=
  ⟨inv.matched.append (by simpa using answered), fun _ _ _ waiting => by cases waiting⟩

theorem Inv.waitForResponse {s t : Service} (inv : Inv s) {kind : Kind} {second : Bool}
    {signal : Signal} {stage : Stage} (here : s.call = .waiting kind second stage)
    (moved : s.waitForResponse kind second signal stage = some t) : Inv t := by
  have answered := inv.answered kind second stage here
  rcases Service.waitForResponse_cases moved with ⟨result, rfl, found⟩ | ⟨_, _, _, rfl⟩
  · exact inv.endWait kind second result fun ended => answered (found ended)
  · exact ⟨inv.matched, fun _ _ _ _ => answered⟩

theorem Inv.receivePacket {s : Service} (inv : Inv s) {id : PacketId} {data : List UInt8}
    {answers : Nat} (fresh : Fresh s (.packet id data answers) = true) :
    Inv (s.receivePacket id data answers) := by
  obtain ⟨call, -, log⟩ := s.handleServerPacket_frame id data
  unfold Service.receivePacket
  by_cases connected : id = .connected
  · rw [if_pos connected]
    refine ⟨?_, ?_⟩
    · rw [log]
      exact inv.matched.append (by simp)
    · intro kind second stage waiting _
      have awaited : answers = (progress s.log).1 := by
        simpa [Fresh, call ▸ waiting, connected] using fresh
      rw [log, progress_append]
      simp [awaited]
  · rw [if_neg connected]
    refine inv.calm log call ?_ ?_
    · intro set
      exact (Service.handleServerPacket_flag set).resolve_right fun own => connected own.1
    · intro set
      exact (Service.handleServerPacket_last set).resolve_right connected

theorem Inv.endRequest {s : Service} (inv : Inv s) {kind : Kind} {second result sent : Bool}
    (here : s.call = .ended kind second result) (fresh : Fresh s (.finish sent) = true) :
    Inv (s.endRequest kind second result sent) := by
  unfold Service.endRequest
  cases result with
  | true => exact inv.quiet rfl (by simp)
  | false =>
      rw [if_neg (by simp)]
      by_cases again : s.fallsBack kind second = true
      · rw [if_pos again]
        refine (inv.calm (t := { s with errorEvent := false }) rfl rfl id id).sendRequest _ _ _ ?_
        rintro rfl
        simpa [Fresh, here, again] using fresh
      · rw [if_neg again]
        exact inv.quiet rfl (by simp [Service.rollback])

theorem Inv.idle {s t : Service} (inv : Inv s) (idle : s.call = .idle) (log : t.log = s.log)
    (call : t.call = s.call) : Inv t :=
  inv.quiet log (by simp [call, idle])

theorem Inv.moveBy {s : Service} (inv : Inv s) (idle : s.call = .idle)
    (transition : CommState → StateTransitionResult × CommState) : Inv (s.moveBy transition) := by
  rcases s.moveBy_cases transition with same | ⟨_, -, same⟩ <;> rw [same]
  · exact inv
  · exact inv.idle idle rfl rfl

theorem Inv.leaveNetwork {s : Service} (inv : Inv s) (idle : s.call = .idle)
    (leave : CommState → StateTransitionResult × CommState) : Inv (s.leaveNetwork leave) := by
  rcases s.leaveNetwork_cases leave with same | ⟨_, same⟩ <;> rw [same]
  · exact inv
  · exact inv.idle idle rfl rfl

theorem Inv.openMode {s : Service} (inv : Inv s) (idle : s.call = .idle)
    (openTo closeTo : CommState → StateTransitionResult × CommState)
    (answer : Service.ServerAnswer) : Inv (s.openMode openTo closeTo answer) := by
  rcases s.openMode_cases openTo closeTo answer with same | ⟨_, _, _, _, -, same⟩ <;> rw [same]
  · exact inv
  · exact inv.idle idle rfl rfl

theorem Inv.beginRequest {s : Service} (inv : Inv s) (kind : Kind) (ready : Bool) :
    Inv (s.beginRequest kind ready) := by
  rcases s.beginRequest_cases kind ready with same | ⟨_, -, same⟩ <;> rw [same]
  · exact inv
  · exact inv.quiet rfl (by simp)

theorem Inv.disconnectFromServer {s : Service} (inv : Inv s) : Inv s.disconnectFromServer :=
  inv.calm rfl rfl id id

theorem Inv.step {s t : Service} {action : Action} (inv : Inv s) (fresh : Fresh s action = true)
    (moved : step s action = some t) : Inv t := by
  cases action with
  | startUp =>
      obtain ⟨idle, rfl⟩ := start_eq_some.mp moved
      exact inv.moveBy idle CommState.startUp
  | finalize =>
      obtain ⟨idle, rfl⟩ := start_eq_some.mp moved
      exact inv.idle idle rfl rfl
  | openAccessPoint answer =>
      obtain ⟨idle, rfl⟩ := start_eq_some.mp moved
      exact inv.openMode idle _ _ answer
  | closeAccessPoint =>
      obtain ⟨idle, rfl⟩ := start_eq_some.mp moved
      exact inv.disconnectFromServer.leaveNetwork idle _
  | destroyNetwork =>
      obtain ⟨idle, rfl⟩ := start_eq_some.mp moved
      exact inv.leaveNetwork idle CommState.destroyNetwork
  | openStation answer =>
      obtain ⟨idle, rfl⟩ := start_eq_some.mp moved
      exact inv.openMode idle _ _ answer
  | closeStation =>
      obtain ⟨idle, rfl⟩ := start_eq_some.mp moved
      exact inv.moveBy idle CommState.closeStation
  | disconnect =>
      obtain ⟨idle, rfl⟩ := start_eq_some.mp moved
      exact inv.leaveNetwork idle CommState.disconnect
  | request kind ready =>
      obtain ⟨-, rfl⟩ := start_eq_some.mp moved
      exact inv.beginRequest kind ready
  | send sent =>
      obtain ⟨kind, -, rfl⟩ := step_send_eq_some.mp moved
      refine inv.sendRequest kind false sent ?_
      rintro rfl
      simpa [Fresh] using fresh
  | wait signal =>
      obtain ⟨kind, second, stage, here, moved⟩ := step_wait_eq_some.mp moved
      exact inv.waitForResponse here moved
  | finish sent =>
      obtain ⟨kind, second, result, here, rfl⟩ := step_finish_eq_some.mp moved
      exact inv.endRequest here fresh
  | packet id data answers =>
      obtain ⟨-, rfl⟩ := receiving_eq_some.mp moved
      exact inv.receivePacket fresh
  | noticeLoss =>
      obtain ⟨-, rfl⟩ := receiving_eq_some.mp moved
      unfold Service.noticeLoss
      split
      · exact inv.calm rfl rfl (by simp) id
      · exact inv
  | leaveLost =>
      obtain ⟨seen, -, rfl⟩ := Option.map_eq_some_iff.mp moved
      exact inv.calm rfl rfl id id
  | inactivityTimeout =>
      obtain ⟨-, rfl⟩ := receiving_eq_some.mp moved
      unfold Service.onInactivityTimeout
      split
      · exact inv
      · exact inv.disconnectFromServer
  | p2pFailed =>
      cases moved
      exact inv.calm rfl rfl id id

/-- In every run of fresh steps each wait is answered by its own request. -/
theorem matched_of_fresh {useP2pProxy : Bool} {s : Service} {actions : List Action}
    (steps : run (guarded Fresh step) (.init useP2pProxy) actions = some s) : Matched s.log := by
  refine (run_invariant Inv ?_ steps (inv_init useP2pProxy)).matched
  intro s action t moved inv
  obtain ⟨fresh, moved⟩ := guarded_eq_some.mp moved
  exact inv.step fresh moved

def askToConnect : List Action :=
  [.request .connect true, .send true, .wait .timeout, .wait .timeout, .wait .timeout]

/-- `Connected` comes while the call is blocked. -/
def answeredConnect : List Action :=
  [.startUp, .openStation .handshaken] ++ askToConnect ++
    [.packet .connected (List.replicate 0x480 0) 1, .wait .response, .wait .response, .finish true]

theorem matched_of_fresh_answered : ∃ s,
    run (guarded Fresh step) (.init true) answeredConnect = some s ∧
      s.log = [.requestSent, .connectedHandled 1, .waitEnded true] ∧ Matched s.log := by
  have evaluated : (run (guarded Fresh step) (.init true) answeredConnect).any
      (·.log = [.requestSent, .connectedHandled 1, .waitEnded true]) = true := by
    decide +kernel
  obtain ⟨s, ran, log⟩ := (Option.any_eq_true _ _).mp evaluated
  exact ⟨s, ran, by simpa using log, matched_of_fresh ran⟩

def lateConnect : List Action :=
  [.startUp, .openStation .handshaken] ++ askToConnect ++
    [.wait .timeout, .wait .timeout, .finish true, .packet .connected (List.replicate 0x480 0) 1,
      .request .connect true, .send true, .wait .timeout]

theorem lateConnect_not_matched :
    ∃ s, run step (.init true) lateConnect = some s ∧ ¬ Matched s.log := by
  have evaluated : (run step (.init true) lateConnect).any
      (·.log = [.requestSent, .waitEnded false, .connectedHandled 1, .requestSent,
        .waitEnded true]) = true := by
    decide +kernel
  obtain ⟨s, ran, log⟩ := (Option.any_eq_true _ _).mp evaluated
  refine ⟨s, ran, ?_⟩
  intro matched
  have split : s.log = [.requestSent, .waitEnded false, .connectedHandled 1, .requestSent] ++
      .waitEnded true :: [] := by simpa using log
  exact absurd (matched _ _ split) (by decide)

end RyuLdn.LdnResponses
