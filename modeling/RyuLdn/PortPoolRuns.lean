import Mathlib.Data.Set.Card
import RyuLdn.EphemeralPortPool
import RyuLdn.TransitionSystem

/-! The port pool over whole runs. A history keeps the log of the calls with their
answers next to the pool; which ports are allocated is read off the log alone and
compared with the bits. The mutex makes the calls of several threads one sequence. -/
namespace RyuLdn.PortPoolRuns

open BsdTypes EphemeralPortPool TransitionSystem

inductive Operation where
  | allocatePort (protocol : ProtocolType)
  | allocateSpecificPort (port : UInt16) (protocol : ProtocolType)
  | releasePort (port : UInt16) (protocol : ProtocolType)
  | releaseAll
  deriving DecidableEq, Repr

inductive Event where
  | allocated (protocol : ProtocolType) (port : UInt16)
  | reserved (port : UInt16) (protocol : ProtocolType) (granted : Bool)
  | released (port : UInt16) (protocol : ProtocolType)
  | releasedAll
  deriving DecidableEq, Repr

def Operation.protocol : Operation → Option ProtocolType
  | .allocatePort protocol => some protocol
  | .allocateSpecificPort _ protocol => some protocol
  | .releasePort _ protocol => some protocol
  | .releaseAll => none

def Event.HandsOut (q : UInt16) (which : Bitset) : Event → Prop
  | .allocated protocol port => port ≠ 0 ∧ q = port ∧ which = getBitset protocol
  | .reserved port protocol granted =>
      granted = true ∧ 49152 ≤ port.toNat ∧ q = port ∧ which = getBitset protocol
  | .released _ _ => False
  | .releasedAll => False

def Event.GivesUp (q : UInt16) (which : Bitset) : Event → Prop
  | .allocated _ _ => False
  | .reserved _ _ _ => False
  | .released port protocol => q = port ∧ which = getBitset protocol
  | .releasedAll => True

def Outstanding (events : List Event) (port : UInt16) (which : Bitset) : Prop :=
  Since (Event.HandsOut port which) (Event.GivesUp port which) events

def perform (pool : Pool) : Operation → Event × Pool
  | .allocatePort protocol =>
      (.allocated protocol (pool.allocatePort protocol).1, (pool.allocatePort protocol).2)
  | .allocateSpecificPort port protocol =>
      (.reserved port protocol (pool.allocateSpecificPort port protocol).1,
        (pool.allocateSpecificPort port protocol).2)
  | .releasePort port protocol => (.released port protocol, pool.releasePort port protocol)
  | .releaseAll => (.releasedAll, pool.releaseAll)

structure History where
  pool : Pool
  events : List Event

namespace History

def init : History := ⟨Pool.init, []⟩

def step (h : History) (operation : Operation) : History :=
  ⟨(perform h.pool operation).2, h.events ++ [(perform h.pool operation).1]⟩

def run (operations : List Operation) : History := operations.foldl step init

end History

theorem isEphemeral_iff (port : UInt16) : Pool.IsEphemeral port ↔ 49152 ≤ port.toNat := by
  have size := port.toNat_lt
  unfold Pool.IsEphemeral portToIndex
  split <;> simp only [portCount, portMin] at * <;> omega

theorem indexToPort_portToIndex {port : UInt16} (inside : Pool.IsEphemeral port) :
    indexToPort (portToIndex port) = port :=
  Pool.portToIndex_inj (by rwa [Pool.portToIndex_indexToPort inside])
    (Pool.portToIndex_indexToPort inside)

theorem indexToPort_ne_zero {index : Nat} (inside : index < portCount) : indexToPort index ≠ 0 := by
  intro zero
  have back := Pool.portToIndex_indexToPort inside
  rw [zero] at back
  have outside : portToIndex 0 = portCount := rfl
  omega

theorem allocated_eq_image (pool : Pool) (which : Bitset) :
    {port | pool.isPortAllocated port which = true} =
      indexToPort '' {index | index < portCount ∧ pool.bits which index = true} := by
  ext port
  simp only [Pool.isPortAllocated, Bool.and_eq_true, decide_eq_true_eq, Set.mem_ofPred_eq,
    Set.mem_image]
  constructor
  · intro allocated
    exact ⟨portToIndex port, allocated, indexToPort_portToIndex allocated.1⟩
  · rintro ⟨index, inside, rfl⟩
    rwa [Pool.portToIndex_indexToPort inside.1]

theorem ncard_allocated (pool : Pool) (which : Bitset) :
    {port | pool.isPortAllocated port which = true}.ncard =
      (List.range portCount).countP (pool.bits which) := by
  have injective : Set.InjOn indexToPort
      {index | index < portCount ∧ pool.bits which index = true} := by
    intro i first j second same
    rw [← Pool.portToIndex_indexToPort first.1, same, Pool.portToIndex_indexToPort second.1]
  have finite : {index | index < portCount ∧ pool.bits which index = true} =
      (((Finset.range portCount).filter fun index => pool.bits which index = true : Finset Nat) :
        Set Nat) := by
    ext index
    simp
  rw [allocated_eq_image, injective.ncard_image, finite, Set.ncard_coe_finset]
  simp [Finset.card, Finset.filter, Finset.range_val, Multiset.range,
    List.countP_eq_length_filter]

theorem isPortAllocated_init (port : UInt16) (which : Bitset) :
    Pool.init.isPortAllocated port which = false := by
  simp [Pool.isPortAllocated, Pool.init]

theorem allocatePort_eq_zero_iff (pool : Pool) (protocol : ProtocolType) :
    (pool.allocatePort protocol).1 = 0 ↔
      ∀ port : UInt16, 49152 ≤ port.toNat →
        pool.isPortAllocated port (getBitset protocol) = true := by
  have full : (∀ port : UInt16, 49152 ≤ port.toNat →
      pool.isPortAllocated port (getBitset protocol) = true) ↔
      ∀ index < portCount, pool.bits (getBitset protocol) index = true := by
    constructor
    · intro all index inside
      have back := Pool.portToIndex_indexToPort inside
      have range : Pool.IsEphemeral (indexToPort index) := by
        unfold Pool.IsEphemeral
        rwa [back]
      have allocated := all _ ((isEphemeral_iff _).mp range)
      rw [Pool.isPortAllocated, back] at allocated
      exact (Bool.and_eq_true_iff.mp allocated).2
    · intro all port range
      have inside : portToIndex port < portCount := (isEphemeral_iff port).mpr range
      simp [Pool.isPortAllocated, inside, all _ inside]
  have search : Pool.findFree (pool.bits (getBitset protocol)) (pool.hint (getBitset protocol))
      portCount 0 = none ↔ ∀ index < portCount, pool.bits (getBitset protocol) index = true :=
    Pool.findFree_all_eq_none
  rw [full, ← search, Pool.allocatePort]
  cases found : Pool.findFree (pool.bits (getBitset protocol)) (pool.hint (getBitset protocol))
    portCount 0 with
  | none => simp
  | some index => simp [indexToPort_ne_zero (Pool.findFree_some found).1]

theorem isPortAllocated_perform (pool : Pool) (operation : Operation) (q : UInt16)
    (which : Bitset) :
    (perform pool operation).2.isPortAllocated q which = true ↔
      (perform pool operation).1.HandsOut q which ∨
        pool.isPortAllocated q which = true ∧ ¬ (perform pool operation).1.GivesUp q which := by
  cases operation with
  | allocatePort protocol =>
      rcases pool.allocatePort_cases protocol with failed | ⟨port, after, given, nonzero, -, -, bits⟩
      · simp [perform, failed, Event.HandsOut, Event.GivesUp]
      · simp only [perform, given, Event.HandsOut, Event.GivesUp, bits]
        by_cases here : q = port ∧ which = getBitset protocol <;> simp [here, nonzero]
  | allocateSpecificPort port protocol =>
      have range := isEphemeral_iff port
      rcases pool.allocateSpecificPort_cases port protocol with
        ⟨outside, granted⟩ | ⟨taken, refused⟩ | ⟨inside, -, after, granted, bits⟩
      · rw [range] at outside
        simp [perform, granted, Event.HandsOut, Event.GivesUp, outside]
      · simp [perform, refused, Event.HandsOut, Event.GivesUp]
      · rw [range] at inside
        simp only [perform, granted, Event.HandsOut, Event.GivesUp, bits, inside]
        by_cases here : q = port ∧ which = getBitset protocol <;> simp [here]
  | releasePort port protocol =>
      simp only [perform, Event.HandsOut, Event.GivesUp, Pool.isPortAllocated_releasePort]
      by_cases here : q = port ∧ which = getBitset protocol <;> simp [here]
  | releaseAll =>
      simp [perform, Event.HandsOut, Event.GivesUp, Pool.isPortAllocated_releaseAll]

theorem free_of_handsOut {pool : Pool} {operation : Operation} {q : UInt16} {which : Bitset}
    (out : (perform pool operation).1.HandsOut q which) :
    Pool.IsEphemeral q ∧ pool.isPortAllocated q which = false := by
  cases operation with
  | allocatePort protocol =>
      rcases pool.allocatePort_cases protocol with failed | ⟨port, after, given, -, range, free, -⟩
      · simp [perform, failed, Event.HandsOut] at out
      · simp only [perform, given, Event.HandsOut] at out
        rw [out.2.1, out.2.2]
        exact ⟨range, free⟩
  | allocateSpecificPort port protocol =>
      rcases pool.allocateSpecificPort_cases port protocol with
        ⟨outside, granted⟩ | ⟨taken, refused⟩ | ⟨inside, free, after, granted, bits⟩
      · simp only [perform, Event.HandsOut] at out
        exact absurd ((isEphemeral_iff port).mpr out.2.1) outside
      · simp [perform, refused, Event.HandsOut] at out
      · simp only [perform, Event.HandsOut] at out
        rw [out.2.2.1, out.2.2.2]
        exact ⟨inside, free⟩
  | releasePort port protocol => exact out.elim
  | releaseAll => exact out.elim

theorem bits_perform_apart (pool : Pool) {operation : Operation} {protocol : ProtocolType}
    (named : operation.protocol = some protocol) {which : Bitset}
    (apart : which ≠ getBitset protocol) :
    (perform pool operation).2.bits which = pool.bits which := by
  cases operation with
  | allocatePort p =>
      cases named
      simp only [perform, Pool.allocatePort]
      split <;> simp [Pool.put, apart]
  | allocateSpecificPort port p =>
      cases named
      simp only [perform, Pool.allocateSpecificPort]
      split
      · rfl
      · split <;> simp [Pool.put, apart]
  | releasePort port p =>
      cases named
      simp only [perform, Pool.releasePort]
      split <;> simp [Pool.put, apart]
  | releaseAll => cases named

namespace History

/-- The bits are the log, and every port was free when it was handed out. -/
structure Tracked (h : History) : Prop where
  bits : ∀ port which, h.pool.isPortAllocated port which = true ↔ Outstanding h.events port which
  fresh : ∀ before e after port which, h.events = before ++ e :: after →
    e.HandsOut port which → ¬ Outstanding before port which

theorem init_tracked : init.Tracked where
  bits port which := by
    have none : ¬ Outstanding [] port which := not_since_nil
    simp [init, isPortAllocated_init, none]
  fresh before e after port which same := by
    simp [init] at same

theorem Tracked.step {h : History} (tracked : h.Tracked) (operation : Operation) :
    (h.step operation).Tracked where
  bits port which := by
    unfold History.step Outstanding
    dsimp only
    rw [since_append_singleton, isPortAllocated_perform, tracked.bits port which]
    rfl
  fresh before e after port which same out := by
    unfold History.step at same
    dsimp only at same
    rcases append_singleton_split same with ⟨-, rfl, rfl⟩ | ⟨front, -, log⟩
    · have free := (free_of_handsOut out).2
      rw [← tracked.bits port which, free]
      exact Bool.false_ne_true
    · exact tracked.fresh before e front port which log out

theorem run_tracked (operations : List Operation) : (run operations).Tracked := by
  have keep : ∀ h : History, h.Tracked → (operations.foldl History.step h).Tracked := by
    induction operations with
    | nil => exact fun _ tracked => tracked
    | cons operation operations ih => exact fun h tracked => ih _ (tracked.step operation)
  exact keep init init_tracked

structure HandsOutOnce (h : History) : Prop where
  once : ∀ before e between e' after port which,
    h.events = before ++ e :: (between ++ e' :: after) →
      e.HandsOut port which → e'.HandsOut port which →
      ∃ later ∈ between, later.GivesUp port which
  allocates : ∀ protocol, (h.pool.allocatePort protocol).1 ≠ 0 →
    49152 ≤ (h.pool.allocatePort protocol).1.toNat ∧
      (h.pool.allocatePort protocol).1.toNat ≤ 65535 ∧
      ¬ Outstanding h.events (h.pool.allocatePort protocol).1 (getBitset protocol) ∧
      (h.pool.allocatePort protocol).2.isPortAllocated (h.pool.allocatePort protocol).1
        (getBitset protocol) = true
  exhausted : ∀ protocol, (h.pool.allocatePort protocol).1 = 0 ↔
    ∀ port : UInt16, 49152 ≤ port.toNat → Outstanding h.events port (getBitset protocol)
  refuses : ∀ port protocol, 49152 ≤ port.toNat →
    ((h.pool.allocateSpecificPort port protocol).1 = false ↔
      Outstanding h.events port (getBitset protocol))
  apart : ∀ operation protocol which, operation.protocol = some protocol →
    which ≠ getBitset protocol →
    ∀ port, (perform h.pool operation).2.isPortAllocated port which =
      h.pool.isPortAllocated port which
  reflects : ∀ port protocol, h.pool.isPortAllocated port (getBitset protocol) = true ↔
    Outstanding h.events port (getBitset protocol)
  available : ∀ protocol, h.pool.getAvailableCount protocol +
    {port | Outstanding h.events port (getBitset protocol)}.ncard = 16384

theorem Tracked.once {h : History} (tracked : h.Tracked) {before between after : List Event}
    {e e' : Event} {port : UInt16} {which : Bitset}
    (log : h.events = before ++ e :: (between ++ e' :: after)) (first : e.HandsOut port which)
    (second : e'.HandsOut port which) : ∃ later ∈ between, later.GivesUp port which := by
  by_contra quiet
  have regroup : before ++ e :: (between ++ e' :: after) =
      (before ++ e :: between) ++ e' :: after := by simp
  rw [regroup] at log
  refine tracked.fresh _ e' after port which log second ⟨before, e, between, rfl, first, ?_⟩
  intro later member gives
  exact quiet ⟨later, member, gives⟩

theorem Tracked.refuses {h : History} (tracked : h.Tracked) {port : UInt16}
    (protocol : ProtocolType) (range : 49152 ≤ port.toNat) :
    (h.pool.allocateSpecificPort port protocol).1 = false ↔
      Outstanding h.events port (getBitset protocol) := by
  rw [← tracked.bits port (getBitset protocol)]
  rcases h.pool.allocateSpecificPort_cases port protocol with
    ⟨outside, -⟩ | ⟨taken, refused⟩ | ⟨-, free, after, granted, -⟩
  · exact absurd ((isEphemeral_iff port).mpr range) outside
  · simp [taken, refused]
  · simp [free, granted]

theorem Tracked.available {h : History} (tracked : h.Tracked) (protocol : ProtocolType) :
    h.pool.getAvailableCount protocol +
      {port | Outstanding h.events port (getBitset protocol)}.ncard = 16384 := by
  have same : {port | Outstanding h.events port (getBitset protocol)} =
      {port | h.pool.isPortAllocated port (getBitset protocol) = true} := by
    ext port
    exact (tracked.bits port (getBitset protocol)).symm
  have bound : (List.range portCount).countP (h.pool.bits (getBitset protocol)) ≤ portCount := by
    have size := List.countP_le_length (p := h.pool.bits (getBitset protocol))
      (l := List.range portCount)
    rwa [List.length_range] at size
  have total : portCount = 16384 := rfl
  rw [same, ncard_allocated, Pool.getAvailableCount]
  omega

theorem run_handsOutOnce (operations : List Operation) : (run operations).HandsOutOnce := by
  have tracked := run_tracked operations
  refine ⟨?_, ?_, ?_, ?_, ?_, ?_, ?_⟩
  · intro before e between e' after port which log first second
    exact tracked.once log first second
  · intro protocol given
    rcases Pool.allocatePort_cases (run operations).pool protocol with
      failed | ⟨port, after, answer, -, range, free, bits⟩
    · simp [failed] at given
    · rw [answer]
      refine ⟨(isEphemeral_iff port).mp range, ?_, ?_, by simp [bits]⟩
      · have size := port.toNat_lt
        dsimp only
        omega
      · rw [← tracked.bits, free]
        exact Bool.false_ne_true
  · intro protocol
    rw [allocatePort_eq_zero_iff]
    simp only [tracked.bits]
  · intro port protocol range
    exact tracked.refuses protocol range
  · intro operation protocol which named apart port
    unfold Pool.isPortAllocated
    rw [bits_perform_apart _ named apart]
  · intro port protocol
    exact tracked.bits port (getBitset protocol)
  · intro protocol
    exact tracked.available protocol

end History

end RyuLdn.PortPoolRuns
