import RyuLdn.NetworkInfo
import RyuLdn.TransitionSystem
import Mathlib.Logic.Function.Basic

/-! `GetNetworkInfoLatestUpdate` of `ldn_icommunication.cpp` among the packets that write
`m_network_info`. The lock covers the snapshot only: the comparison reads the live nodes,
one slot after the other, and a packet may come between any two. -/
namespace RyuLdn

open TransitionSystem

inductive NodeStateChange where
  | none | connect | disconnect | disconnectAndConnect
  deriving DecidableEq, Repr

/-- The members of `ICommunicationService` that the packet handlers and the call share. -/
structure LdnNodeUpdates where
  networkInfo : NetworkInfo
  expectedSceneId : UInt16
  localCommunicationId : UInt64
  prevNodeConnected : Fin 8 → Bool

namespace LdnNodeUpdates

def nodeCountMax : Nat := 8

def new : LdnNodeUpdates := ⟨.zero, 0, 0, fun _ => false⟩

def fixSceneId (s : LdnNodeUpdates) (info : NetworkInfo) : NetworkInfo :=
  if s.expectedSceneId ≠ 0 ∧ info.sceneId ≠ s.expectedSceneId then
    info.put 10 (LittleEndian.bytes 2 s.expectedSceneId.toNat) (by
      rw [LittleEndian.bytes_length]
      decide)
  else info

def fixLocalCommunicationId (s : LdnNodeUpdates) (info : NetworkInfo) : NetworkInfo :=
  if s.localCommunicationId ≠ 0 ∧ info.localCommunicationId ≠ s.localCommunicationId then
    info.put 0 (LittleEndian.bytes 8 s.localCommunicationId.toNat) (by
      rw [LittleEndian.bytes_length]
      decide)
  else info

def fixIds (s : LdnNodeUpdates) (info : NetworkInfo) : NetworkInfo :=
  s.fixLocalCommunicationId (s.fixSceneId info)

def fixChannel (info : NetworkInfo) : NetworkInfo :=
  if info.channel = 0 then info.put 72 [6, 0] (by decide) else info

def handleConnectedPacket (s : LdnNodeUpdates) (data : List UInt8) : LdnNodeUpdates :=
  match NetworkInfo.ofData data with
  | some info => { s with networkInfo := fixChannel (s.fixIds info) }
  | none => s

def handleSyncNetworkPacket (s : LdnNodeUpdates) (data : List UInt8) : LdnNodeUpdates :=
  match NetworkInfo.ofData data with
  | some info => { s with networkInfo := s.fixIds info }
  | none => s

/-- The `memset` of `CloseAccessPoint`, `DestroyNetwork`, `CloseStation` and `Disconnect`. -/
def clearNetworkInfo (s : LdnNodeUpdates) : LdnNodeUpdates := { s with networkInfo := .zero }

def cleanupSessionResources (s : LdnNodeUpdates) : LdnNodeUpdates :=
  { s with networkInfo := .zero, prevNodeConnected := fun _ => false }

def stateChange (current prev : Bool) : NodeStateChange :=
  if current && !prev then .connect
  else if !current && prev then .disconnect
  else .none

def compareNode (s : LdnNodeUpdates) (slot : Fin 8) : NodeStateChange × LdnNodeUpdates :=
  let current := s.networkInfo.isConnected slot
  (stateChange current (s.prevNodeConnected slot),
    { s with prevNodeConnected := Function.update s.prevNodeConnected slot current })

def due (before freed now : Bool) : NodeStateChange :=
  match before, now with
  | false, true => .connect
  | true, false => .disconnect
  | true, true => if freed then .disconnectAndConnect else .none
  | false, false => .none

/-- A call: the two buffers it answers with, and what its slots were before. -/
structure Call where
  size : Nat
  snapshot : NetworkInfo
  updates : List NodeStateChange
  before : Fin 8 → Bool
  freed : Fin 8 → Bool

namespace Call

def due (call : Call) (slot : Fin 8) : NodeStateChange :=
  LdnNodeUpdates.due (call.before slot) (call.freed slot) (call.snapshot.isConnected slot)

/-- Every slot reported is reported as its snapshot has it. -/
def Truthful (call : Call) : Prop :=
  ∀ slot : Fin 8, ∀ change, call.updates[slot.val]? = some change → change = call.due slot

def zeroRest (call : Call) : Call :=
  { call with
    updates := call.updates ++ List.replicate (call.size - min call.size nodeCountMax) .none }

end Call

/-- The service with the call it is in, beside what the calls and packets alone tell of
the slots: those the last update listed, those of the last snapshot, those listed free
since, and those that were listed when their last turn came. -/
structure History where
  service : LdnNodeUpdates
  call : Option Call
  returned : List Call
  listed : Fin 8 → Bool
  occupied : Fin 8 → Bool
  freed : Fin 8 → Bool
  met : Fin 8 → Bool

namespace History

def start : History :=
  ⟨new, none, [], fun _ => false, fun _ => false, fun _ => false, fun _ => false⟩

/-- The game's calls, a packet of the receive thread, and the next turn of the call the
game is in. -/
inductive Action where
  | setLocalCommunicationId (programId : UInt64)
  | scan (sceneId : UInt16)
  | clear
  | cleanup
  | connectedPacket (data : List UInt8)
  | syncNetworkPacket (data : List UInt8)
  | getNetworkInfoLatestUpdate (size : Nat)
  | proceed

def listing (data : List UInt8) (old : Fin 8 → Bool) : Fin 8 → Bool :=
  match NetworkInfo.ofData data with
  | some info => fun slot => info.isConnected slot
  | none => old

def update (h : History) (service : LdnNodeUpdates) (listed : Fin 8 → Bool) : History :=
  { h with
    service := service
    listed := listed
    freed := fun slot => h.freed slot || !listed slot }

def enter (h : History) (size : Nat) : History :=
  { h with
    call := some ⟨size, h.service.networkInfo, [], h.occupied, h.freed⟩
    occupied := h.listed
    freed := fun _ => false }

def compare (h : History) (call : Call) (slot : Fin 8) : History :=
  { h with
    service := (h.service.compareNode slot).2
    call := some { call with updates := call.updates ++ [(h.service.compareNode slot).1] }
    met := Function.update h.met slot (h.listed slot) }

def proceed (h : History) (call : Call) : History :=
  if turn : call.updates.length < min call.size nodeCountMax then
    h.compare call ⟨call.updates.length, (Nat.lt_min.mp turn).2⟩
  else { h with call := none, returned := h.returned ++ [call.zeroRest] }

def step (h : History) (a : Action) : History :=
  match a, h.call with
  | .connectedPacket data, _ =>
      h.update (h.service.handleConnectedPacket data) (listing data h.listed)
  | .syncNetworkPacket data, _ =>
      h.update (h.service.handleSyncNetworkPacket data) (listing data h.listed)
  | .proceed, some call => h.proceed call
  | .setLocalCommunicationId programId, none =>
      { h with service := { h.service with localCommunicationId := programId } }
  | .scan sceneId, none => { h with service := { h.service with expectedSceneId := sceneId } }
  | .clear, none => h.update h.service.clearNetworkInfo fun _ => false
  | .cleanup, none =>
      { h with
        service := h.service.cleanupSessionResources
        listed := fun _ => false
        occupied := fun _ => false
        freed := fun _ => false
        met := fun _ => false }
  | .getNetworkInfoLatestUpdate size, none => h.enter size
  | _, _ => h

def Truthful (h : History) : Prop := ∀ call ∈ h.call.toList ++ h.returned, call.Truthful

def Retaken (h : History) (call : Call) (slot : Fin 8) : Prop :=
  call.before slot = true ∧ call.freed slot = true ∧ h.occupied slot = true

/-- Nothing got between the two snapshots and the turns of the slot: it is still listed
as in this call's snapshot and was met as in the previous one's, or it is listed as it
was met and the snapshots agree. -/
def Undisturbed (h : History) (call : Call) (slot : Fin 8) : Prop :=
  ¬ h.Retaken call slot ∧
    ((h.listed slot = h.occupied slot ∧ h.met slot = call.before slot) ∨
      (h.listed slot = h.met slot ∧ h.occupied slot = call.before slot))

def Keeps (h : History) (a : Action) : Prop :=
  match a, h.call with
  | .proceed, some call => ∀ turn : call.updates.length < min call.size nodeCountMax,
      h.Undisturbed call ⟨call.updates.length, (Nat.lt_min.mp turn).2⟩
  | _, _ => True

end History

theorem stateChange_eq_due_iff (current prev before freed now : Bool) :
    stateChange current prev = due before freed now ↔
      ¬ (before = true ∧ freed = true ∧ now = true) ∧
        ((current = now ∧ prev = before) ∨ (current = prev ∧ now = before)) := by
  revert current prev before freed now
  decide

theorem isConnected_fixIds (s : LdnNodeUpdates) (info : NetworkInfo) (slot : Nat) :
    (s.fixIds info).isConnected slot = info.isConnected slot := by
  have scene : (s.fixSceneId info).isConnected slot = info.isConnected slot := by
    unfold fixSceneId
    split
    · exact NetworkInfo.isConnected_put (by simp) slot
    · rfl
  unfold fixIds fixLocalCommunicationId
  split
  · rw [NetworkInfo.isConnected_put (by simp), scene]
  · exact scene

theorem isConnected_fixChannel (info : NetworkInfo) (slot : Nat) :
    (fixChannel info).isConnected slot = info.isConnected slot := by
  unfold fixChannel
  split
  · exact NetworkInfo.isConnected_put (by simp) slot
  · rfl

theorem isConnected_handlePacket {s : LdnNodeUpdates} {listed : Fin 8 → Bool}
    (old : ∀ slot : Fin 8, s.networkInfo.isConnected slot = listed slot) (data : List UInt8)
    (slot : Fin 8) :
    (s.handleConnectedPacket data).networkInfo.isConnected slot =
        History.listing data listed slot ∧
      (s.handleSyncNetworkPacket data).networkInfo.isConnected slot =
        History.listing data listed slot := by
  unfold handleConnectedPacket handleSyncNetworkPacket History.listing
  cases NetworkInfo.ofData data with
  | none => exact ⟨old slot, old slot⟩
  | some info =>
      constructor
      · dsimp only
        rw [isConnected_fixChannel, isConnected_fixIds]
      · dsimp only
        rw [isConnected_fixIds]

theorem handlePacket_prevNodeConnected (s : LdnNodeUpdates) (data : List UInt8) :
    (s.handleConnectedPacket data).prevNodeConnected = s.prevNodeConnected ∧
      (s.handleSyncNetworkPacket data).prevNodeConnected = s.prevNodeConnected := by
  unfold handleConnectedPacket handleSyncNetworkPacket
  cases NetworkInfo.ofData data <;> exact ⟨rfl, rfl⟩

namespace Call

theorem truthful_report_iff {call : Call} (truthful : call.Truthful)
    (turn : call.updates.length < 8) (change : NodeStateChange) :
    Truthful { call with updates := call.updates ++ [change] } ↔
      change = call.due ⟨call.updates.length, turn⟩ := by
  constructor
  · intro after
    have reported := after ⟨call.updates.length, turn⟩ change
    rw [List.getElem?_append_right (le_refl _), Nat.sub_self] at reported
    exact reported rfl
  · intro right slot other reported
    by_cases old : slot.val < call.updates.length
    · rw [List.getElem?_append_left old] at reported
      exact truthful slot other reported
    · have bound := (List.getElem?_eq_some_iff.mp reported).1
      rw [List.length_append, List.length_singleton] at bound
      have here : slot.val = call.updates.length := by omega
      have place : slot = ⟨call.updates.length, turn⟩ := Fin.ext here
      rw [here, List.getElem?_append_right (le_refl _), Nat.sub_self] at reported
      have same : change = other := by simpa using reported
      rw [← same, right, place]
      rfl

theorem truthful_zeroRest {call : Call} (truthful : call.Truthful)
    (done : ¬ call.updates.length < min call.size nodeCountMax) : call.zeroRest.Truthful := by
  intro slot change reported
  have eight : nodeCountMax = 8 := rfl
  unfold zeroRest at reported
  by_cases old : slot.val < call.updates.length
  · rw [List.getElem?_append_left old] at reported
    exact truthful slot change reported
  · have bound := (List.getElem?_eq_some_iff.mp reported).1
    rw [List.length_append, List.length_replicate] at bound
    omega

end Call

namespace History

/-- The service is where the calls and packets have brought it: `m_prev_node_connected`
holds what each slot's last turn met. -/
structure Sound (h : History) : Prop where
  listed : ∀ slot : Fin 8, h.service.networkInfo.isConnected slot = h.listed slot
  met : h.service.prevNodeConnected = h.met
  snapshot : ∀ call, h.call = some call → ∀ slot : Fin 8,
    call.snapshot.isConnected slot = h.occupied slot

theorem sound_start : start.Sound where
  listed slot := NetworkInfo.isConnected_zero slot
  met := rfl
  snapshot call entered := by
    unfold start at entered
    cases entered

theorem sound_of_idle {h : History} (idle : h.call = none)
    (listed : ∀ slot : Fin 8, h.service.networkInfo.isConnected slot = h.listed slot)
    (met : h.service.prevNodeConnected = h.met) : h.Sound := by
  refine ⟨listed, met, ?_⟩
  intro call entered
  rw [idle] at entered
  cases entered

theorem sound_compare {h : History} (sound : h.Sound) {call : Call} (entered : h.call = some call)
    (slot : Fin 8) : (h.compare call slot).Sound := by
  refine ⟨sound.listed, ?_, ?_⟩
  · unfold compare compareNode
    dsimp only
    rw [sound.met, sound.listed]
  · intro other reported
    unfold compare at reported
    cases reported
    exact sound.snapshot call entered

theorem sound_proceed {h : History} (sound : h.Sound) {call : Call} (entered : h.call = some call) :
    (h.proceed call).Sound := by
  unfold proceed
  split
  · exact sound_compare sound entered _
  · exact sound_of_idle rfl sound.listed sound.met

theorem sound_enter {h : History} (sound : h.Sound) (size : Nat) : (h.enter size).Sound := by
  refine ⟨sound.listed, sound.met, ?_⟩
  intro call enters
  unfold enter at enters
  cases enters
  exact sound.listed

theorem sound_call {h after : History} (sound : h.Sound) (idle : h.call = none → after.Sound)
    (busy : ∀ call, h.call = some call → after = h) : after.Sound := by
  cases entered : h.call with
  | none => exact idle entered
  | some call =>
      rw [busy call entered]
      exact sound

theorem sound_step (h : History) (a : Action) (sound : h.Sound) : (h.step a).Sound := by
  cases a with
  | connectedPacket data =>
      refine ⟨?_, ?_, sound.snapshot⟩
      · exact fun slot => (isConnected_handlePacket sound.listed data slot).1
      · exact (handlePacket_prevNodeConnected h.service data).1.trans sound.met
  | syncNetworkPacket data =>
      refine ⟨?_, ?_, sound.snapshot⟩
      · exact fun slot => (isConnected_handlePacket sound.listed data slot).2
      · exact (handlePacket_prevNodeConnected h.service data).2.trans sound.met
  | proceed =>
      cases entered : h.call with
      | none =>
          simp only [step, entered]
          exact sound
      | some call =>
          simp only [step, entered]
          exact sound_proceed sound entered
  | setLocalCommunicationId programId =>
      apply sound_call sound
      · intro idle
        simp only [step, idle]
        exact sound_of_idle rfl sound.listed sound.met
      · intro call entered
        simp only [step, entered]
  | scan sceneId =>
      apply sound_call sound
      · intro idle
        simp only [step, idle]
        exact sound_of_idle rfl sound.listed sound.met
      · intro call entered
        simp only [step, entered]
  | clear =>
      apply sound_call sound
      · intro idle
        simp only [step, idle]
        exact sound_of_idle idle (fun slot => NetworkInfo.isConnected_zero slot) sound.met
      · intro call entered
        simp only [step, entered]
  | cleanup =>
      apply sound_call sound
      · intro idle
        simp only [step, idle]
        exact sound_of_idle rfl (fun slot => NetworkInfo.isConnected_zero slot) rfl
      · intro call entered
        simp only [step, entered]
  | getNetworkInfoLatestUpdate size =>
      apply sound_call sound
      · intro idle
        simp only [step, idle]
        exact sound_enter sound size
      · intro call entered
        simp only [step, entered]

theorem truthful_of_calls {h after : History} (truthful : h.Truthful) (same : after.call = h.call)
    (log : after.returned = h.returned) : after.Truthful := by
  unfold Truthful
  rw [same, log]
  exact truthful

theorem truthful_compare_iff {h : History} {call : Call} (sound : h.Sound) (truthful : h.Truthful)
    (entered : h.call = some call) (turn : call.updates.length < 8) :
    (h.compare call ⟨call.updates.length, turn⟩).Truthful ↔
      h.Undisturbed call ⟨call.updates.length, turn⟩ := by
  have old : call.Truthful := truthful call (by simp [entered])
  have rest : ∀ done ∈ h.returned, done.Truthful :=
    fun done member => truthful done (by simp [member])
  let slot : Fin 8 := ⟨call.updates.length, turn⟩
  have next := Call.truthful_report_iff old turn (h.service.compareNode slot).1
  have report : (h.service.compareNode slot).1 = stateChange (h.listed slot) (h.met slot) := by
    unfold compareNode
    dsimp only
    rw [sound.listed, sound.met]
  have owed : call.due slot = due (call.before slot) (call.freed slot) (h.occupied slot) := by
    unfold Call.due
    rw [sound.snapshot call entered]
  have exact := stateChange_eq_due_iff (h.listed slot) (h.met slot) (call.before slot)
    (call.freed slot) (h.occupied slot)
  unfold Truthful compare
  simp only [Option.toList_some, List.singleton_append, List.forall_mem_cons]
  rw [next, and_iff_left rest, report, owed]
  exact exact

theorem truthful_proceed_iff {h : History} {call : Call} (sound : h.Sound) (truthful : h.Truthful)
    (entered : h.call = some call) : (h.proceed call).Truthful ↔ h.Keeps .proceed := by
  have keeps : h.Keeps .proceed ↔ ∀ turn : call.updates.length < min call.size nodeCountMax,
      h.Undisturbed call ⟨call.updates.length, (Nat.lt_min.mp turn).2⟩ := by
    unfold Keeps
    rw [entered]
  rw [keeps]
  unfold proceed
  by_cases turn : call.updates.length < min call.size nodeCountMax
  · have exact := truthful_compare_iff sound truthful entered (Nat.lt_min.mp turn).2
    rw [dif_pos turn, exact]
    simp [turn]
  · rw [dif_neg turn]
    have old : call.Truthful := truthful call (by simp [entered])
    have ended : call.zeroRest.Truthful := Call.truthful_zeroRest old turn
    have after : Truthful { h with call := none, returned := h.returned ++ [call.zeroRest] } := by
      intro done member
      rw [Option.toList_none, List.nil_append, List.mem_append, List.mem_singleton] at member
      rcases member with before | last
      · exact truthful done (List.mem_append_right _ before)
      · rw [last]
        exact ended
    simp [after, turn]

theorem truthful_enter {h : History} (truthful : h.Truthful) (size : Nat) :
    (h.enter size).Truthful := by
  intro call member
  unfold enter at member
  rw [Option.toList_some, List.singleton_append, List.mem_cons] at member
  rcases member with entered | before
  · intro slot change reported
    rw [entered] at reported
    simp at reported
  · exact truthful call (List.mem_append_right _ before)

theorem calls_step (h : History) (a : Action) :
    ((h.step a).call = h.call ∧ (h.step a).returned = h.returned) ∨ a = .proceed ∨
      ∃ size, a = .getNetworkInfoLatestUpdate size ∧ h.step a = h.enter size := by
  cases entered : h.call <;> cases a <;> simp [step, update, entered]

theorem truthful_step_iff (h : History) (a : Action) (sound : h.Sound) (truthful : h.Truthful) :
    (h.step a).Truthful ↔ h.Keeps a := by
  by_cases turn : a = .proceed
  · subst turn
    rcases entered : h.call with _ | call
    · simp [step, Keeps, entered, truthful]
    · have moved : h.step .proceed = h.proceed call := by simp only [step, entered]
      rw [moved]
      exact truthful_proceed_iff sound truthful entered
  · have keeps : h.Keeps a := by
      unfold Keeps
      split
      · contradiction
      · trivial
    rw [iff_true_right keeps]
    rcases h.calls_step a with ⟨same, log⟩ | proceeds | ⟨size, _, enters⟩
    · exact truthful_of_calls truthful same log
    · contradiction
    · rw [enters]
      exact truthful_enter truthful size

/-- Every change reported in a run is the one its slot went through, and is that of the
snapshot it is returned with, exactly when the calls and packets disturb no turn of a
comparison. -/
theorem visited_truthful_iff (actions : List Action) :
    (∀ h ∈ visited step start actions, h.Truthful) ↔ StepsMeet step Keeps start actions := by
  apply visited_iff_stepsMeet_inv sound_step truthful_step_iff sound_start
  intro call member
  simp [start] at member

def oneNode : List UInt8 := (NetworkInfo.zero.put 115 [1] (by decide)).bytes

def replaced : List Action :=
  [.syncNetworkPacket oneNode, .getNetworkInfoLatestUpdate 1, .proceed, .proceed,
    .syncNetworkPacket NetworkInfo.zero.bytes, .syncNetworkPacket oneNode,
    .getNetworkInfoLatestUpdate 1, .proceed]

/-- The second call reports no change. -/
theorem replacement_missed : ¬ ∀ h ∈ visited step start replaced, h.Truthful := by
  intro all
  have last := all _ (foldl_mem_visited start replaced)
  have reported : (replaced.foldl step start).call.map (fun call => (call.updates, call.due 0)) =
      some ([.none], .disconnectAndConnect) := by decide +kernel
  generalize replaced.foldl step start = h at last reported
  obtain ⟨call, entered, pair⟩ := Option.map_eq_some_iff.mp reported
  obtain ⟨updates, due⟩ := Prod.mk.inj pair
  have same := last call (by simp [entered]) 0 .none (by simp [updates])
  rw [due] at same
  contradiction

end History

end LdnNodeUpdates

end RyuLdn
