import RyuLdn.LdnService

/-! `CreateNetwork` and `CreateNetworkPrivate` of `ICommunicationService`, with the P2P
server, the advertised data and the inactivity timeout. Between the statements of a call
the receive thread and the P2P worker take turns. What the server client answers, what
the start of the P2P server and the wait for the response come to, are arguments. -/
namespace RyuLdn

open LdnService (Service)
open LdnStateMachine ProtocolCodec

/-- `NetworkTimeout` of `ldn_network_timeout.cpp`, with the default duration. -/
structure NetworkTimeout where
  startMs : UInt64
  active : Bool
  deriving DecidableEq

namespace NetworkTimeout

def idleTimeoutMs : UInt64 := 60000

def refreshTimeout (now : UInt64) : NetworkTimeout := ⟨now, true⟩

def disableTimeout : NetworkTimeout := ⟨0, false⟩

def checkTimeout (timeout : NetworkTimeout) (now : UInt64) : Bool × NetworkTimeout :=
  if timeout.active = true ∧ now ≥ timeout.startMs + idleTimeoutMs then
    (true, { timeout with active := false })
  else (false, timeout)

end NetworkTimeout

structure LdnHosting where
  service : Service
  p2pServer : Option UInt16
  /-- The first `m_advertise_data_size` bytes of `m_advertise_data`. -/
  advertiseData : List UInt8
  timeout : NetworkTimeout

namespace LdnHosting

inductive Failure where
  | refused | notConnected | sendFailed | responseTimeout
  deriving DecidableEq, Repr

def setCommState (h : LdnHosting) (commState : CommState) : LdnHosting :=
  { h with service := { h.service with commState := commState } }

def stopP2pProxyServer (h : LdnHosting) : LdnHosting := { h with p2pServer := none }

/-- `port` is the port of the started server, if it starts. -/
def startP2pProxyServer (h : LdnHosting) (port : Option UInt16) : LdnHosting :=
  if h.service.useP2pProxy then { h.stopP2pProxyServer with p2pServer := port }
  else h.stopP2pProxyServer

def destroyNetwork (h : LdnHosting) (now : UInt64) : LdnHosting :=
  match CommState.destroyNetwork h.service.commState with
  | (.success, commState) =>
      { h.stopP2pProxyServer with
        service := { h.service with commState := commState, networkConnected := false }
        timeout := .refreshTimeout now }
  | _ => h.stopP2pProxyServer

inductive Turn where
  | packet (id : PacketId) (data : List UInt8) (answers : Nat)
  | noticeLoss
  | leaveLost
  | checkTimeout (now : UInt64)
  | p2pFailed

/-- A turn that is about the service alone; one that cannot be taken is none. -/
def serviceTurn (h : LdnHosting) (a : LdnService.Action) : LdnHosting :=
  { h with service := (LdnService.step h.service a).getD h.service }

def onInactivityTimeout (h : LdnHosting) : LdnHosting :=
  if h.service.networkConnected then h
  else { h.stopP2pProxyServer with service := h.service.disconnectFromServer }

def checkTimeout (h : LdnHosting) (now : UInt64) : LdnHosting :=
  if h.service.losing = none ∧ (h.timeout.checkTimeout now).1 = true then
    { h with timeout := (h.timeout.checkTimeout now).2 }.onInactivityTimeout
  else h

def turn (h : LdnHosting) : Turn → LdnHosting
  | .packet id data answers => h.serviceTurn (.packet id data answers)
  | .noticeLoss => h.serviceTurn .noticeLoss
  | .leaveLost => h.serviceTurn .leaveLost
  | .checkTimeout now => h.checkTimeout now
  | .p2pFailed => h.serviceTurn .p2pFailed

def turns (h : LdnHosting) (others : List Turn) : LdnHosting := others.foldl turn h

/-- What a call meets: the answers it gets, and the turns of the other threads after
each of its statements. -/
structure World where
  ready : Bool
  afterCheck : List Turn
  afterDisable : List Turn
  afterTransition : List Turn
  port : Option UInt16
  afterStart : List Turn
  sent : Bool
  afterSend : List Turn
  answered : Bool

/-- Both calls; only `CreateNetwork` hosts a P2P server. -/
inductive Kind where
  | createNetwork | createNetworkPrivate
  deriving DecidableEq, Repr

def prepare (kind : Kind) (h : LdnHosting) (w : World) : LdnHosting :=
  let created := h.turns w.afterTransition
  let started :=
    if kind = .createNetwork ∧ created.service.useP2pProxy = true then
      created.startP2pProxyServer w.port
    else created
  started.turns w.afterStart

def rollback (kind : Kind) (h : LdnHosting) : LdnHosting :=
  let stopped := if kind = .createNetwork then h.stopP2pProxyServer else h
  stopped.setCommState (CommState.destroyNetwork stopped.service.commState).2

def complete (kind : Kind) (h : LdnHosting) : LdnHosting :=
  match kind with
  | .createNetwork =>
      let hosted := if h.service.useP2pProxy then h else h.stopP2pProxyServer
      { hosted with
        service := { hosted.service with networkConnected := true }
        timeout := .disableTimeout }
  | .createNetworkPrivate => h

def request (kind : Kind) (h : LdnHosting) (w : World) : Option Failure × LdnHosting :=
  let prepared := prepare kind h w
  if w.sent = false then (some .sendFailed, prepared.rollback kind)
  else
    let waited := prepared.turns w.afterSend
    if w.answered = false then (some .responseTimeout, waited.rollback kind)
    else (none, waited.complete kind)

def disableTimeout (h : LdnHosting) : LdnHosting := { h with timeout := .disableTimeout }

def create (kind : Kind) (h : LdnHosting) (w : World) : Option Failure × LdnHosting :=
  if (h.service.serverConnected && w.ready) = false then (some .notConnected, h)
  else
    let disabled := (h.turns w.afterCheck).disableTimeout.turns w.afterDisable
    match CommState.createNetwork disabled.service.commState with
    | (.success, commState) => request kind (disabled.setCommState commState) w
    | _ => (some .refused, disabled)

def createNetwork (h : LdnHosting) (w : World) : Option Failure × LdnHosting :=
  create .createNetwork h w

def createNetworkPrivate (h : LdnHosting) (w : World) : Option Failure × LdnHosting :=
  create .createNetworkPrivate h w

structure RolledBack (before after : LdnHosting) : Prop where
  commState : after.service.commState = before.service.commState
  p2pServer : after.p2pServer = before.p2pServer
  advertiseData : after.advertiseData = before.advertiseData
  timeout : after.timeout.active = before.timeout.active

/-- The states in which `CreateNetwork` is admitted or under way. -/
def Hosts (h : LdnHosting) : Prop :=
  h.service.commState = .accessPoint ∨ h.service.commState = .accessPointCreated

theorem commState_turn (h : LdnHosting) (a : Turn) :
    (h.turn a).service.commState = h.service.commState ∨
      (h.turn a).service.commState = (CommState.destroyNetwork h.service.commState).2 ∨
      (h.turn a).service.commState = (CommState.disconnect h.service.commState).2 := by
  cases a with
  | packet id data answers =>
      have ⟨_, kept, _⟩ := h.service.handleServerPacket_frame id data
      left
      simp only [turn, serviceTurn, LdnService.step, LdnService.receiving]
      split
      · simp only [Option.getD_some, Service.receivePacket]
        split <;> exact kept
      · rfl
  | noticeLoss =>
      left
      simp only [turn, serviceTurn, LdnService.step, LdnService.receiving]
      split
      · simp only [Option.getD_some, Service.noticeLoss]
        split <;> rfl
      · rfl
  | leaveLost =>
      simp only [turn, serviceTurn, LdnService.step]
      cases h.service.losing with
      | none => exact Or.inl rfl
      | some seen =>
          simp only [Option.map_some, Option.getD_some, Service.leaveLost]
          split
          · exact Or.inr (Or.inr rfl)
          · exact Or.inr (Or.inl rfl)
  | checkTimeout now =>
      left
      simp only [turn, checkTimeout]
      split
      · simp only [onInactivityTimeout]
        split <;> rfl
      · rfl
  | p2pFailed => exact Or.inl rfl

theorem hosts_turn {h : LdnHosting} (hosts : h.Hosts) (a : Turn) : (h.turn a).Hosts := by
  unfold Hosts
  rcases h.commState_turn a with same | destroyed | left
  · rw [same]
    exact hosts
  · rw [destroyed]
    rcases hosts with opened | created
    · exact Or.inl (by rw [opened]; rfl)
    · exact Or.inl (by rw [created]; rfl)
  · rw [left]
    rcases hosts with opened | created
    · exact Or.inl (by rw [opened]; rfl)
    · exact Or.inr (by rw [created]; rfl)

theorem advertiseData_turn (h : LdnHosting) (a : Turn) :
    (h.turn a).advertiseData = h.advertiseData := by
  cases a with
  | checkTimeout now =>
      simp only [turn, checkTimeout]
      split
      · simp only [onInactivityTimeout]
        split <;> rfl
      · rfl
  | _ => rfl

theorem turn_of_inactive {h : LdnHosting} (off : h.timeout.active = false) (a : Turn) :
    (h.turn a).timeout.active = false ∧ (h.turn a).p2pServer = h.p2pServer := by
  cases a with
  | checkTimeout now =>
      have silent : h.timeout.checkTimeout now = (false, h.timeout) := by
        unfold NetworkTimeout.checkTimeout
        rw [if_neg (by simp [off])]
      simp only [turn, checkTimeout, silent, Bool.false_eq_true, and_false, if_false]
      exact ⟨off, trivial⟩
  | _ => exact ⟨off, rfl⟩

theorem turns_keep {P : LdnHosting → Prop}
    (keep : ∀ {h : LdnHosting} (a : Turn), P h → P (h.turn a)) {h : LdnHosting} (start : P h) (others : List Turn) : P (h.turns others) := by
  induction others generalizing h with
  | nil => exact start
  | cons a others ih => exact ih (keep a start)

structure Entering (before h : LdnHosting) : Prop where
  opened : h.service.commState = .accessPoint
  advertiseData : h.advertiseData = before.advertiseData
  off : before.timeout.active = false → h.timeout.active = false ∧ h.p2pServer = before.p2pServer

theorem entering_turn {before h : LdnHosting} (a : Turn) (entering : Entering before h) :
    Entering before (h.turn a) := by
  refine ⟨?_, (h.advertiseData_turn a).trans entering.advertiseData, ?_⟩
  · rcases h.commState_turn a with same | destroyed | left
    · rw [same, entering.opened]
    · rw [destroyed, entering.opened]
      rfl
    · rw [left, entering.opened]
      rfl
  · intro quiet
    have ⟨off, server⟩ := entering.off quiet
    have ⟨still, same⟩ := turn_of_inactive off a
    exact ⟨still, same.trans server⟩

/-- From the transition on: the timeout is off, and only `CreateNetwork` touches the server. -/
structure Requesting (kind : Kind) (before h : LdnHosting) : Prop where
  hosts : h.Hosts
  advertiseData : h.advertiseData = before.advertiseData
  off : h.timeout.active = false
  p2pServer : kind = .createNetworkPrivate → before.timeout.active = false →
    h.p2pServer = before.p2pServer

theorem requesting_turn {kind : Kind} {before h : LdnHosting} (a : Turn)
    (requesting : Requesting kind before h) : Requesting kind before (h.turn a) := by
  have ⟨still, same⟩ := turn_of_inactive requesting.off a
  refine ⟨hosts_turn requesting.hosts a, ?_, still, ?_⟩
  · exact (h.advertiseData_turn a).trans requesting.advertiseData
  · intro isPrivate quiet
    rw [same]
    exact requesting.p2pServer isPrivate quiet

theorem requesting_prepare {kind : Kind} {before h : LdnHosting}
    (requesting : Requesting kind before h) (w : World) :
    Requesting kind before (prepare kind h w) := by
  have created := turns_keep requesting_turn requesting w.afterTransition
  unfold prepare
  dsimp only
  apply turns_keep requesting_turn
  split
  · rename_i hosted
    unfold startP2pProxyServer
    split <;> exact ⟨created.hosts, created.advertiseData, created.off, by simp [hosted.1]⟩
  · exact created

theorem rolledBack_rollback_iff {kind : Kind} {before h : LdnHosting}
    (admitted : before.service.commState = .accessPoint) (requesting : Requesting kind before h) :
    RolledBack before (h.rollback kind) ↔
      before.timeout.active = false ∧ (kind = .createNetwork → before.p2pServer = none) := by
  have commState : (h.rollback kind).service.commState = before.service.commState := by
    rw [admitted]
    unfold rollback setCommState stopP2pProxyServer
    rcases requesting.hosts with opened | created <;> cases kind <;>
      simp [CommState.destroyNetwork, CommState.transition, *]
  have advertiseData : (h.rollback kind).advertiseData = before.advertiseData := by
    rw [← requesting.advertiseData]
    cases kind <;> rfl
  have timeout : (h.rollback kind).timeout.active = false := by
    rw [← requesting.off]
    cases kind <;> rfl
  constructor
  · intro rolledBack
    refine ⟨rolledBack.timeout.symm.trans timeout, ?_⟩
    intro hosted
    subst hosted
    exact rolledBack.p2pServer.symm
  · rintro ⟨off, none⟩
    refine ⟨commState, ?_, advertiseData, timeout.trans off.symm⟩
    cases kind with
    | createNetwork => exact (none rfl).symm
    | createNetworkPrivate => exact requesting.p2pServer rfl off

theorem request_rolledBack_iff {kind : Kind} {before h : LdnHosting} {w : World}
    (admitted : before.service.commState = .accessPoint) (requesting : Requesting kind before h)
    (failed : (request kind h w).1 ≠ none) : RolledBack before (request kind h w).2 ↔
      before.timeout.active = false ∧ (kind = .createNetwork → before.p2pServer = none) := by
  have prepared := requesting_prepare requesting w
  have waited := turns_keep requesting_turn prepared w.afterSend
  unfold request at failed ⊢
  dsimp only at failed ⊢
  split
  · exact rolledBack_rollback_iff admitted prepared
  · split
    · exact rolledBack_rollback_iff admitted waited
    · rename_i sent answered
      rw [if_neg sent, if_neg answered] at failed
      contradiction

theorem create_rolledBack_iff {kind : Kind} {h : LdnHosting} {w : World}
    (admitted : h.service.commState = .accessPoint) (failed : (create kind h w).1 ≠ none) :
    RolledBack h (create kind h w).2 ↔ (h.service.serverConnected && w.ready) = false ∨
      (h.timeout.active = false ∧ (kind = .createNetwork → h.p2pServer = none)) := by
  by_cases link : (h.service.serverConnected && w.ready) = false
  · have same : (create kind h w).2 = h := by
      unfold create
      rw [if_pos link]
    rw [same]
    simp only [link, true_or, iff_true]
    exact ⟨rfl, rfl, rfl, rfl⟩
  · have checked : Entering h (h.turns w.afterCheck) :=
      turns_keep entering_turn ⟨admitted, rfl, fun off => ⟨off, rfl⟩⟩ w.afterCheck
    have off : (h.turns w.afterCheck).disableTimeout.timeout.active = false := rfl
    have entering : Entering h ((h.turns w.afterCheck).disableTimeout.turns w.afterDisable) :=
      turns_keep entering_turn
        ⟨checked.opened, checked.advertiseData, fun quiet => ⟨off, (checked.off quiet).2⟩⟩
        w.afterDisable
    have disabled : ((h.turns w.afterCheck).disableTimeout.turns
        w.afterDisable).timeout.active = false :=
      turns_keep (P := fun h => h.timeout.active = false)
        (fun a off => (turn_of_inactive off a).1) off w.afterDisable
    have moved : create kind h w = request kind
        (((h.turns w.afterCheck).disableTimeout.turns w.afterDisable).setCommState
          .accessPointCreated) w := by
      unfold create
      rw [if_neg link]
      dsimp only
      rw [entering.opened]
      rfl
    rw [moved] at failed ⊢
    rw [or_iff_right link]
    apply request_rolledBack_iff admitted _ failed
    exact ⟨Or.inr rfl, entering.advertiseData, disabled, fun _ quiet => (entering.off quiet).2⟩

/-- A failed call is rolled back exactly if the server was not reachable, or the
inactivity timeout was off and, for the public form, no P2P server was left over. -/
theorem failed_create_rolledBack_iff {h : LdnHosting}
    (admitted : h.service.commState = .accessPoint) (w : World) :
    ((createNetwork h w).1 ≠ none → (RolledBack h (createNetwork h w).2 ↔
      (h.service.serverConnected && w.ready) = false ∨
        (h.timeout.active = false ∧ h.p2pServer = none))) ∧
    ((createNetworkPrivate h w).1 ≠ none → (RolledBack h (createNetworkPrivate h w).2 ↔
      (h.service.serverConnected && w.ready) = false ∨ h.timeout.active = false)) := by
  unfold createNetwork createNetworkPrivate
  constructor
  · intro failed
    rw [create_rolledBack_iff admitted failed]
    simp
  · intro failed
    rw [create_rolledBack_iff admitted failed]
    simp

def opened : LdnHosting where
  service := { Service.init false with commState := .accessPoint, serverConnected := true }
  p2pServer := none
  advertiseData := []
  timeout := .disableTimeout

def unsent : World := ⟨true, [], [], [], none, [], false, [], false⟩

theorem failed_create_rolledBack_iff_opened :
    RolledBack opened (createNetwork opened unsent).2 ∧
      RolledBack opened (createNetworkPrivate opened unsent).2 := by
  have admitted : opened.service.commState = .accessPoint := rfl
  have ⟨hosted, isPrivate⟩ := failed_create_rolledBack_iff admitted unsent
  have quiet : opened.timeout.active = false := rfl
  exact ⟨(hosted (by decide)).mpr (Or.inr ⟨quiet, rfl⟩),
    (isPrivate (by decide)).mpr (Or.inr quiet)⟩

def reopened : LdnHosting := (opened.setCommState .accessPointCreated).destroyNetwork 1000

/-- The timeout the game's leaving has started is off after the failed call. -/
theorem timeout_lost : reopened.service.commState = .accessPoint ∧
    (createNetwork reopened unsent).1 = some .sendFailed ∧
    ¬ RolledBack reopened (createNetwork reopened unsent).2 := by
  refine ⟨rfl, by decide, ?_⟩
  intro rolledBack
  have before : reopened.timeout.active = true := rfl
  have after : (createNetwork reopened unsent).2.timeout.active = false := by decide
  have same := rolledBack.timeout
  rw [before, after] at same
  contradiction

end LdnHosting

end RyuLdn
