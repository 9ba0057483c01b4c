import RyuLdn.NetworkInfo
import RyuLdn.ProtocolTypes
import RyuLdn.TransitionSystem

/-! `LdnSessionHandler` of `ldn_session_handler.cpp` under any sequence of packets and
calls. Its callbacks only report and are left out. -/
namespace RyuLdn

open ProtocolTypes (Octets)
open TransitionSystem

inductive LdnSessionState where
  | none | initialized | station | stationConnected | accessPoint | accessPointCreated | error
  deriving DecidableEq, Repr

structure LdnSessionHandler where
  state : LdnSessionState
  isHost : Bool
  localNodeId : Int8
  lastPingId : UInt8
  sessionId : Octets 16
  macAddress : Octets 6
  networkInfo : NetworkInfo
  acceptPolicy : UInt8
  deriving DecidableEq

namespace LdnSessionHandler

def acceptAll : UInt8 := 0

def new : LdnSessionHandler where
  state := .none
  isHost := false
  localNodeId := -1
  lastPingId := 0
  sessionId := default
  macAddress := default
  networkInfo := .zero
  acceptPolicy := acceptAll

def isInSession (handler : LdnSessionHandler) : Bool :=
  handler.state = .station || handler.state = .stationConnected ||
    handler.state = .accessPoint || handler.state = .accessPointCreated

/-- Only the handlers below and `leave_session` change the state. -/
def setState (handler : LdnSessionHandler) (state : LdnSessionState) : LdnSessionHandler :=
  { handler with state := state }

def handleInitialize (handler : LdnSessionHandler) (id : Octets 16) (macAddress : Octets 6) :
    LdnSessionHandler :=
  { handler with sessionId := id, macAddress := macAddress }.setState .initialized

def handleConnected (handler : LdnSessionHandler) (info : NetworkInfo) : LdnSessionHandler :=
  { handler with networkInfo := info, isHost := false }.setState .station

def handleSyncNetwork (handler : LdnSessionHandler) (info : NetworkInfo) : LdnSessionHandler :=
  let stored := { handler with networkInfo := info }
  let hosting : LdnSessionHandler :=
    if stored.localNodeId = 0 then
      let host := { stored with isHost := true }
      if host.state = .initialized then host.setState .accessPoint else host
    else stored
  if hosting.state = .initialized ∧ hosting.isHost = true then hosting.setState .accessPoint
  else hosting

def handlePing (handler : LdnSessionHandler) (requester id : UInt8) : Bool × LdnSessionHandler :=
  (requester == 0, { handler with lastPingId := id })

def leaveSession (handler : LdnSessionHandler) : LdnSessionHandler :=
  if handler.isInSession = false ∧ handler.state ≠ .initialized then handler
  else
    { handler with isHost := false, localNodeId := -1, networkInfo := .zero }.setState .initialized

/-- `static_cast<int8_t>(req.node_id) == m_local_node_id`. -/
def isRejected (handler : LdnSessionHandler) (nodeId : UInt32) : Bool :=
  nodeId.toUInt8.toInt8 == handler.localNodeId

def handleReject (handler : LdnSessionHandler) (nodeId : UInt32) : LdnSessionHandler :=
  if handler.isRejected nodeId then handler.leaveSession else handler

def handleSetAcceptPolicy (handler : LdnSessionHandler) (policy : UInt8) : LdnSessionHandler :=
  { handler with acceptPolicy := policy }

def setLocalNodeId (handler : LdnSessionHandler) (nodeId : Int8) : LdnSessionHandler :=
  let assigned : LdnSessionHandler := { handler with localNodeId := nodeId }
  if nodeId = 0 ∧ assigned.isInSession = true then { assigned with isHost := true } else assigned

def reset (_ : LdnSessionHandler) : LdnSessionHandler := new

/-- The packets and calls, with what the handler reads of them. -/
inductive Action where
  | initializeMessage (id : Octets 16) (macAddress : Octets 6)
  | connected (info : NetworkInfo)
  | syncNetwork (info : NetworkInfo)
  | ping (requester id : UInt8)
  | reject (nodeId : UInt32)
  | setAcceptPolicy (policy : UInt8)
  | onlyReported
  | setLocalNodeId (nodeId : Int8)
  | leaveSession
  | reset

def handle (handler : LdnSessionHandler) : Action → LdnSessionHandler
  | .initializeMessage id macAddress => handler.handleInitialize id macAddress
  | .connected info => handler.handleConnected info
  | .syncNetwork info => handler.handleSyncNetwork info
  | .ping requester id => (handler.handlePing requester id).2
  | .reject nodeId => handler.handleReject nodeId
  | .setAcceptPolicy policy => handler.handleSetAcceptPolicy policy
  | .onlyReported => handler
  | .setLocalNodeId nodeId => handler.setLocalNodeId nodeId
  | .leaveSession => handler.leaveSession
  | .reset => handler.reset

structure Rejection where
  nodeId : UInt32
  localNodeId : Int8
  endedSession : Bool

def Rejection.ForUs (nodeId : UInt32) (localNodeId : Int8) : Prop :=
  0 ≤ localNodeId.toInt ∧ localNodeId.toInt ≤ 7 ∧ (nodeId.toNat : Int) = localNodeId.toInt

/-- A handler with what its past says: whether a session has ended, and its rejections. -/
structure History where
  handler : LdnSessionHandler
  ended : Bool
  rejections : List Rejection

namespace History

def start : History := ⟨new, false, []⟩

def step (h : History) (a : Action) : History :=
  let after := h.handler.handle a
  let ends := h.handler.isInSession && !after.isInSession
  { handler := after
    ended := h.ended || ends
    rejections := match a with
      | .reject nodeId =>
          if h.handler.isInSession then
            h.rejections ++ [⟨nodeId, h.handler.localNodeId, ends⟩]
          else h.rejections
      | _ => h.rejections }

structure Hygienic (h : History) : Prop where
  not_host : h.handler.isInSession = false → h.handler.isHost = false
  cleared : h.handler.isInSession = false → h.ended = true →
    h.handler.localNodeId = -1 ∧ h.handler.networkInfo = .zero
  rejected : ∀ rejection ∈ h.rejections, rejection.endedSession = true ↔
    Rejection.ForUs rejection.nodeId rejection.localNodeId

/-- The steps that leave the handler clean: no Initialize in a session that left traces,
no SyncNetwork outside one that would, no node id assigned after one, and no Reject whose
low byte alone is ours. -/
def Keeps (h : History) : Action → Prop
  | .initializeMessage _ _ => h.handler.isInSession = true →
      h.handler.isHost = false ∧ h.handler.localNodeId = -1 ∧ h.handler.networkInfo = .zero
  | .syncNetwork info => h.handler.isInSession = true ∨
      (h.handler.state = .initialized ∧ h.handler.localNodeId = 0) ∨
      (h.handler.localNodeId ≠ 0 ∧ (h.ended = true → info = .zero))
  | .setLocalNodeId nodeId => h.handler.isInSession = true ∨ (h.ended = true → nodeId = -1)
  | .reject nodeId => h.handler.isInSession = true → h.handler.isRejected nodeId = true →
      Rejection.ForUs nodeId h.handler.localNodeId
  | _ => True

end History

theorem handleSyncNetwork_eq (handler : LdnSessionHandler) (info : NetworkInfo) :
    handler.handleSyncNetwork info =
      { handler with
        networkInfo := info
        isHost := handler.isHost || handler.localNodeId == 0
        state := if handler.state = .initialized ∧
            (handler.isHost = true ∨ handler.localNodeId = 0) then .accessPoint
          else handler.state } := by
  unfold handleSyncNetwork setState
  by_cases host : handler.localNodeId = 0
  · by_cases idle : handler.state = .initialized <;> simp [host, idle]
  · by_cases idle : handler.state = .initialized <;>
      cases handler.isHost <;> simp [host, idle]

theorem isInSession_leaveSession (handler : LdnSessionHandler) :
    handler.leaveSession.isInSession = false := by
  unfold leaveSession
  split
  · rename_i idle
    exact idle.1
  · rfl

theorem leaveSession_clean {handler : LdnSessionHandler} (inside : handler.isInSession = true) :
    handler.leaveSession.isHost = false ∧ handler.leaveSession.localNodeId = -1 ∧
      handler.leaveSession.networkInfo = .zero := by
  have leaves : ¬ (handler.isInSession = false ∧ handler.state ≠ .initialized) := by simp [inside]
  unfold leaveSession
  rw [if_neg leaves]
  exact ⟨rfl, rfl, rfl⟩

theorem leaveSession_outside (handler : LdnSessionHandler) :
    handler.leaveSession = handler ∨ handler.leaveSession.isHost = false ∧
      handler.leaveSession.localNodeId = -1 ∧ handler.leaveSession.networkInfo = .zero := by
  unfold leaveSession
  split
  · exact Or.inl rfl
  · exact Or.inr ⟨rfl, rfl, rfl⟩

namespace History

theorem hygienic_iff {h : History} (clean : h.Hygienic) {a : Action}
    (same : (h.step a).rejections = h.rejections) :
    (h.step a).Hygienic ↔ ((h.handler.handle a).isInSession = false →
      (h.handler.handle a).isHost = false ∧ ((h.step a).ended = true →
        (h.handler.handle a).localNodeId = -1 ∧ (h.handler.handle a).networkInfo = .zero)) := by
  constructor
  · intro after outside
    exact ⟨after.not_host outside, after.cleared outside⟩
  · intro fields
    refine ⟨fun outside => (fields outside).1, fun outside => (fields outside).2, ?_⟩
    rw [same]
    exact clean.rejected

theorem ended_step (h : History) (a : Action) : (h.step a).ended =
    (h.ended || (h.handler.isInSession && !(h.handler.handle a).isInSession)) := rfl

theorem hygienic_initialize_iff {h : History} (clean : h.Hygienic) (id : Octets 16)
    (macAddress : Octets 6) : (h.step (.initializeMessage id macAddress)).Hygienic ↔
      h.Keeps (.initializeMessage id macAddress) := by
  have outside : (h.handler.handle (.initializeMessage id macAddress)).isInSession = false := rfl
  rw [hygienic_iff clean rfl, ended_step, outside]
  simp only [handle, handleInitialize, setState, Keeps, forall_const, Bool.not_false, Bool.and_true,
    Bool.or_eq_true]
  by_cases inside : h.handler.isInSession = true
  · simp [inside]
  · have idle : h.handler.isInSession = false := by simpa using inside
    have host := clean.not_host idle
    have cleared := clean.cleared idle
    simpa [idle, host] using cleared

theorem hygienic_syncNetwork_iff {h : History} (clean : h.Hygienic) (info : NetworkInfo) :
    (h.step (.syncNetwork info)).Hygienic ↔ h.Keeps (.syncNetwork info) := by
  rw [hygienic_iff clean rfl, ended_step]
  simp only [handle, handleSyncNetwork_eq, Keeps]
  by_cases inside : h.handler.isInSession = true
  · have busy : h.handler.state ≠ .initialized := by
      intro idle
      simp [isInSession, idle] at inside
    have stays : LdnSessionHandler.isInSession
        { h.handler with
          networkInfo := info
          isHost := h.handler.isHost || h.handler.localNodeId == 0 } = true := inside
    simp [busy, inside, stays]
  · have idle : h.handler.isInSession = false := by simpa using inside
    have host := clean.not_host idle
    have cleared := clean.cleared idle
    by_cases starts : h.handler.state = .initialized ∧ h.handler.localNodeId = 0
    · simp [isInSession, starts]
    · have unmoved : ¬ (h.handler.state = .initialized ∧
          (h.handler.isHost = true ∨ h.handler.localNodeId = 0)) := by
        simpa [host] using starts
      have stays : LdnSessionHandler.isInSession
          { h.handler with
            networkInfo := info
            isHost := h.handler.localNodeId == 0 } = false := idle
      rw [if_neg unmoved]
      simp only [host, stays, idle, starts, forall_const, Bool.false_or, Bool.false_and,
        Bool.or_false, beq_eq_false_iff_ne, Bool.false_eq_true, false_or]
      constructor
      · rintro ⟨ours, kept⟩
        exact ⟨ours, fun ended => (kept ended).2⟩
      · rintro ⟨ours, kept⟩
        exact ⟨ours, fun ended => ⟨(cleared ended).1, kept ended⟩⟩

theorem hygienic_setLocalNodeId_iff {h : History} (clean : h.Hygienic) (nodeId : Int8) :
    (h.step (.setLocalNodeId nodeId)).Hygienic ↔ h.Keeps (.setLocalNodeId nodeId) := by
  have stays : (h.handler.setLocalNodeId nodeId).isInSession = h.handler.isInSession := by
    unfold setLocalNodeId
    dsimp only
    split <;> rfl
  rw [hygienic_iff clean rfl, ended_step]
  simp only [handle, stays, Keeps]
  by_cases inside : h.handler.isInSession = true
  · simp [inside]
  · have idle : h.handler.isInSession = false := by simpa using inside
    have host := clean.not_host idle
    have cleared := clean.cleared idle
    have unhosted : ¬ (nodeId = 0 ∧ LdnSessionHandler.isInSession
        { h.handler with localNodeId := nodeId } = true) := fun both => inside both.2
    unfold setLocalNodeId
    dsimp only
    rw [if_neg unhosted]
    simp only [idle, host, forall_const, Bool.false_and, Bool.or_false, true_and,
      Bool.false_eq_true, false_or]
    constructor
    · intro kept ended
      exact (kept ended).1
    · intro kept ended
      exact ⟨kept ended, (cleared ended).2⟩

theorem left_clean {h : History} (clean : h.Hygienic)  :
    h.handler.leaveSession.isHost = false ∧
      (h.ended = true ∨ h.handler.isInSession = true →
        h.handler.leaveSession.localNodeId = -1 ∧
          h.handler.leaveSession.networkInfo = .zero) := by
  by_cases inside : h.handler.isInSession = true
  · have ⟨host, nodeId, info⟩ := leaveSession_clean inside
    exact ⟨host, fun _ => ⟨nodeId, info⟩⟩
  · have idle : h.handler.isInSession = false := by simpa using inside
    rcases h.handler.leaveSession_outside with same | ⟨host, nodeId, info⟩
    · rw [same]
      refine ⟨clean.not_host idle, ?_⟩
      rintro (ended | busy)
      · exact clean.cleared idle ended
      · exact absurd busy inside
    · exact ⟨host, fun _ => ⟨nodeId, info⟩⟩

theorem hygienic_leaveSession {h : History} (clean : h.Hygienic) :
    (h.step .leaveSession).Hygienic := by
  have ⟨host, cleared⟩ := left_clean clean
  rw [hygienic_iff clean rfl, ended_step]
  intro _
  refine ⟨host, fun ended => cleared ?_⟩
  simp only [Bool.or_eq_true, Bool.and_eq_true] at ended
  exact ended.imp id And.left

theorem ended_reject (h : History) (nodeId : UInt32) :
    (h.handler.isInSession && !(h.handler.handle (.reject nodeId)).isInSession) =
      (h.handler.isInSession && h.handler.isRejected nodeId) := by
  simp only [handle, handleReject]
  cases rejected : h.handler.isRejected nodeId with
  | true => simp [isInSession_leaveSession]
  | false => cases inside : h.handler.isInSession <;> simp [inside]

theorem isRejected_of_forUs {handler : LdnSessionHandler} {nodeId : UInt32}
    (ours : Rejection.ForUs nodeId handler.localNodeId) : handler.isRejected nodeId = true := by
  obtain ⟨-, -, same⟩ := ours
  have low : nodeId.toUInt8.toInt8 = Int8.ofNat nodeId.toNat := rfl
  have whole : handler.localNodeId = Int8.ofNat nodeId.toNat := by
    rw [← Int8.ofInt_toInt handler.localNodeId, ← same]
    exact Int8.ofInt_eq_ofNat
  unfold isRejected
  rw [low, whole]
  exact beq_self_eq_true _

theorem hygienic_reject_iff {h : History} (clean : h.Hygienic) (nodeId : UInt32) :
    (h.step (.reject nodeId)).Hygienic ↔ h.Keeps (.reject nodeId) := by
  have ends := ended_reject h nodeId
  have ⟨host, cleared⟩ := left_clean clean
  have fields : (h.handler.handle (.reject nodeId)).isInSession = false →
      (h.handler.handle (.reject nodeId)).isHost = false ∧
        ((h.step (.reject nodeId)).ended = true →
          (h.handler.handle (.reject nodeId)).localNodeId = -1 ∧
            (h.handler.handle (.reject nodeId)).networkInfo = .zero) := by
    intro outside
    rw [ended_step, ends]
    simp only [handle, handleReject] at outside ⊢
    cases rejected : h.handler.isRejected nodeId with
    | true => simpa using ⟨host, cleared⟩
    | false =>
        rw [rejected] at outside
        simpa using ⟨clean.not_host outside, clean.cleared outside⟩
  by_cases inside : h.handler.isInSession = true
  · have log : (h.step (.reject nodeId)).rejections = h.rejections ++
        [⟨nodeId, h.handler.localNodeId, h.handler.isRejected nodeId⟩] := by
      unfold step
      simp only [ends]
      simp only [inside, if_true, Bool.true_and]
    have only : (h.step (.reject nodeId)).Hygienic ↔ (h.handler.isRejected nodeId = true ↔
        Rejection.ForUs nodeId h.handler.localNodeId) := by
      constructor
      · intro after
        apply after.rejected ⟨nodeId, h.handler.localNodeId, h.handler.isRejected nodeId⟩
        rw [log]
        simp
      · intro agrees
        refine ⟨fun outside => (fields outside).1, fun outside => (fields outside).2, ?_⟩
        rw [log]
        intro rejection member
        rcases List.mem_append.mp member with old | new
        · exact clean.rejected rejection old
        · rw [List.mem_singleton.mp new]
          exact agrees
    rw [only]
    simp only [Keeps, inside, forall_const]
    exact ⟨Iff.mp, fun kept => ⟨kept, isRejected_of_forUs⟩⟩
  · have same : (h.step (.reject nodeId)).rejections = h.rejections := by
      unfold step
      simp [inside]
    rw [hygienic_iff clean same]
    simp only [Keeps, inside, Bool.false_eq_true, false_implies, iff_true]
    exact fields

theorem hygienic_step_iff {h : History} (clean : h.Hygienic) (a : Action) :
    (h.step a).Hygienic ↔ h.Keeps a := by
  have quiet : ∀ {b : Action}, (h.step b).rejections = h.rejections →
      (h.handler.handle b).state = h.handler.state →
      (h.handler.handle b).isHost = h.handler.isHost →
      (h.handler.handle b).localNodeId = h.handler.localNodeId →
      (h.handler.handle b).networkInfo = h.handler.networkInfo → (h.step b).Hygienic := by
    intro b same state host nodeId info
    have session : (h.handler.handle b).isInSession = h.handler.isInSession := by
      unfold isInSession
      rw [state]
    rw [hygienic_iff clean same, ended_step, session, host, nodeId, info]
    intro outside
    refine ⟨clean.not_host outside, fun ended => clean.cleared outside ?_⟩
    simpa [outside] using ended
  cases a with
  | initializeMessage id macAddress => exact hygienic_initialize_iff clean id macAddress
  | connected info =>
      have inside : (h.handler.handle (.connected info)).isInSession = true := rfl
      rw [hygienic_iff clean rfl, inside]
      simp [Keeps]
  | syncNetwork info => exact hygienic_syncNetwork_iff clean info
  | ping requester id => exact iff_of_true (quiet rfl rfl rfl rfl rfl) trivial
  | reject nodeId => exact hygienic_reject_iff clean nodeId
  | setAcceptPolicy policy => exact iff_of_true (quiet rfl rfl rfl rfl rfl) trivial
  | onlyReported => exact iff_of_true (quiet rfl rfl rfl rfl rfl) trivial
  | setLocalNodeId nodeId => exact hygienic_setLocalNodeId_iff clean nodeId
  | leaveSession => exact iff_of_true (hygienic_leaveSession clean) trivial
  | reset =>
      rw [hygienic_iff clean rfl]
      exact iff_of_true (fun _ => ⟨rfl, fun _ => ⟨rfl, rfl⟩⟩) trivial

/-- A run of packets and calls stays clean exactly if each of its steps keeps it so. -/
theorem visited_hygienic_iff (actions : List Action) :
    (∀ h ∈ visited step start actions, h.Hygienic) ↔ StepsMeet step Keeps start actions := by
  apply visited_iff_stepsMeet
  · exact fun h a clean => hygienic_step_iff clean a
  · exact ⟨fun _ => rfl, fun _ => (by decide), by simp [start]⟩

/-- The host of a session is told to initialize again. -/
theorem initialize_in_session :
    ¬ ∀ h ∈ visited step start [.initializeMessage default default, .setLocalNodeId 0,
      .syncNetwork .zero, .initializeMessage default default], h.Hygienic := by
  intro clean
  have reached := clean _ (foldl_mem_visited start _)
  have host := reached.not_host rfl
  exact absurd host (by decide)

end History

end LdnSessionHandler

end RyuLdn
