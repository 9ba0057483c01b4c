import Mathlib.Logic.Function.Basic
import RyuLdn.BsdTypes

/-! `EphemeralPortPool`: one bitset for UDP and one for TCP over the ports from
49152 on. A bitset is the function that tests its bits. -/
namespace RyuLdn.EphemeralPortPool

open BsdTypes

def portMin : Nat := 49152
def portCount : Nat := 65535 - portMin + 1

inductive Bitset where
  | udp | tcp
  deriving DecidableEq, Repr

/-- `GetBitset`: every protocol but TCP shares the UDP bits. -/
def getBitset : ProtocolType → Bitset
  | .tcp => .tcp
  | _ => .udp

structure Pool where
  bits : Bitset → Nat → Bool
  hint : Bitset → Nat

def Pool.init : Pool := ⟨fun _ _ => false, fun _ => 0⟩

def portToIndex (port : UInt16) : Nat :=
  if port.toNat < portMin then portCount else port.toNat - portMin

def indexToPort (index : Nat) : UInt16 := UInt16.ofNat (portMin + index)

namespace Pool

/-- `bitset.set(index)` and `bitset.reset(index)`. -/
def put (pool : Pool) (which : Bitset) (index : Nat) (value : Bool) : Pool :=
  { pool with
    bits := Function.update pool.bits which (Function.update (pool.bits which) index value) }

/-- The search of `AllocatePort`, round-robin from the hint. -/
def findFree (bits : Nat → Bool) (hint : Nat) : (remaining i : Nat) → Option Nat
  | 0, _ => none
  | remaining + 1, i =>
      if bits ((hint + i) % portCount) then findFree bits hint remaining (i + 1)
      else some ((hint + i) % portCount)

def allocatePort (pool : Pool) (protocol : ProtocolType) : UInt16 × Pool :=
  let which := getBitset protocol
  match findFree (pool.bits which) (pool.hint which) portCount 0 with
  | some index =>
      (indexToPort index,
        { pool.put which index true with
          hint := Function.update pool.hint which ((index + 1) % portCount) })
  | none => (0, pool)

def allocateSpecificPort (pool : Pool) (port : UInt16) (protocol : ProtocolType) : Bool × Pool :=
  let index := portToIndex port
  if index ≥ portCount then (true, pool)
  else if pool.bits (getBitset protocol) index then (false, pool)
  else (true, pool.put (getBitset protocol) index true)

def releasePort (pool : Pool) (port : UInt16) (protocol : ProtocolType) : Pool :=
  let index := portToIndex port
  if index ≥ portCount then pool else pool.put (getBitset protocol) index false

def releaseAll (_ : Pool) : Pool := init

def isPortAllocated (pool : Pool) (port : UInt16) (which : Bitset) : Bool :=
  portToIndex port < portCount && pool.bits which (portToIndex port)

/-- `GetAvailableCount`, with the loop of `bitset.count()`. -/
def getAvailableCount (pool : Pool) (protocol : ProtocolType) : Nat :=
  portCount - (List.range portCount).countP (pool.bits (getBitset protocol))

theorem portToIndex_indexToPort {index : Nat} (inside : index < portCount) :
    portToIndex (indexToPort index) = index := by
  have size : (indexToPort index).toNat = portMin + index := by
    unfold indexToPort
    rw [UInt16.toNat_ofNat']
    simp only [portCount, portMin] at inside ⊢
    omega
  unfold portToIndex
  rw [size, if_neg (by omega)]
  omega

theorem portToIndex_inj {p q : UInt16} (first : portToIndex p < portCount)
    (same : portToIndex p = portToIndex q) : p = q := by
  apply UInt16.toNat_inj.mp
  by_cases low : p.toNat < portMin
  · rw [portToIndex, if_pos low] at first
    omega
  · rw [portToIndex, if_neg low] at first same
    by_cases low' : q.toNat < portMin
    · rw [portToIndex, if_pos low'] at same
      omega
    · rw [portToIndex, if_neg low'] at same
      omega

def IsEphemeral (port : UInt16) : Prop := portToIndex port < portCount

instance (port : UInt16) : Decidable (IsEphemeral port) :=
  inferInstanceAs (Decidable (portToIndex port < portCount))

theorem isPortAllocated_put (pool : Pool) {port : UInt16} (inside : IsEphemeral port)
    (which : Bitset) (value : Bool) (q : UInt16) (other : Bitset) :
    (pool.put which (portToIndex port) value).isPortAllocated q other =
      if q = port ∧ other = which then value else pool.isPortAllocated q other := by
  unfold isPortAllocated put
  dsimp only
  by_cases same : q = port ∧ other = which
  · obtain ⟨rfl, rfl⟩ := same
    have bound : portToIndex q < portCount := inside
    simp [bound]
  · rw [if_neg same]
    by_cases kind : other = which
    · subst kind
      by_cases bound : portToIndex q < portCount
      · have apart : portToIndex q ≠ portToIndex port :=
          fun equal => same ⟨portToIndex_inj bound equal, rfl⟩
        simp [apart]
      · simp [bound]
    · simp [kind]

theorem findFree_some {bits : Nat → Bool} {hint remaining i index : Nat}
    (found : findFree bits hint remaining i = some index) :
    index < portCount ∧ bits index = false := by
  induction remaining generalizing i with
  | zero => cases found
  | succ remaining ih =>
      rw [findFree] at found
      split at found
      · exact ih found
      · rename_i free
        cases found
        exact ⟨Nat.mod_lt _ (by decide), by simpa using free⟩

theorem findFree_eq_none {bits : Nat → Bool} {hint remaining i : Nat} :
    findFree bits hint remaining i = none ↔
      ∀ k < remaining, bits ((hint + i + k) % portCount) = true := by
  induction remaining generalizing i with
  | zero => simp [findFree]
  | succ remaining ih =>
      rw [findFree, Nat.forall_lt_succ_left']
      by_cases taken : bits ((hint + i) % portCount) = true
      · rw [if_pos taken, ih]
        have shift : ∀ k, hint + i + (k + 1) = hint + (i + 1) + k := by omega
        simp [taken, shift]
      · simp [taken]

theorem findFree_all_eq_none {bits : Nat → Bool} {hint : Nat} :
    findFree bits hint portCount 0 = none ↔ ∀ index < portCount, bits index = true := by
  rw [findFree_eq_none]
  constructor
  · intro all index inside
    have bound : (index + portCount - hint % portCount) % portCount < portCount :=
      Nat.mod_lt _ (by decide)
    have visited := all _ bound
    have here : (hint + 0 + (index + portCount - hint % portCount) % portCount) % portCount =
        index := by
      simp only [portCount, portMin] at inside ⊢
      omega
    rwa [here] at visited
  · intro all k _
    exact all _ (Nat.mod_lt _ (by decide))

theorem allocatePort_cases (pool : Pool) (protocol : ProtocolType) :
    pool.allocatePort protocol = (0, pool) ∨
      ∃ port pool', pool.allocatePort protocol = (port, pool') ∧ port ≠ 0 ∧ IsEphemeral port ∧
        pool.isPortAllocated port (getBitset protocol) = false ∧
        ∀ q which, pool'.isPortAllocated q which =
          if q = port ∧ which = getBitset protocol then true
          else pool.isPortAllocated q which := by
  unfold allocatePort
  dsimp only
  split
  · rename_i index found
    obtain ⟨inside, free⟩ := findFree_some found
    have index_eq := portToIndex_indexToPort inside
    have ephemeral : IsEphemeral (indexToPort index) := by
      unfold IsEphemeral
      rw [index_eq]
      exact inside
    refine Or.inr ⟨_, _, rfl, ?_, ephemeral, ?_, ?_⟩
    · intro zero
      rw [zero] at ephemeral
      exact absurd ephemeral (by decide)
    · simp [isPortAllocated, index_eq, free]
    · intro q which
      have marked := isPortAllocated_put pool ephemeral (getBitset protocol) true q which
      rw [index_eq] at marked
      exact marked
  · exact Or.inl rfl

theorem isPortAllocated_releasePort (pool : Pool) (port : UInt16) (protocol : ProtocolType)
    (q : UInt16) (which : Bitset) :
    (pool.releasePort port protocol).isPortAllocated q which =
      if q = port ∧ which = getBitset protocol then false else pool.isPortAllocated q which := by
  unfold releasePort
  dsimp only
  by_cases outside : portToIndex port ≥ portCount
  · rw [if_pos outside]
    split
    · rename_i same
      rw [same.1]
      simp [isPortAllocated, outside]
    · rfl
  · rw [if_neg outside]
    exact isPortAllocated_put pool (Nat.lt_of_not_le outside) _ _ _ _

theorem isPortAllocated_releaseAll (pool : Pool) (q : UInt16) (which : Bitset) :
    pool.releaseAll.isPortAllocated q which = false := by
  simp [isPortAllocated, releaseAll, init]

theorem allocateSpecificPort_cases (pool : Pool) (port : UInt16) (protocol : ProtocolType) :
    (¬ IsEphemeral port ∧ pool.allocateSpecificPort port protocol = (true, pool)) ∨
      (pool.isPortAllocated port (getBitset protocol) = true ∧
        pool.allocateSpecificPort port protocol = (false, pool)) ∨
      (IsEphemeral port ∧ pool.isPortAllocated port (getBitset protocol) = false ∧
        ∃ pool', pool.allocateSpecificPort port protocol = (true, pool') ∧
          ∀ q which, pool'.isPortAllocated q which =
            if q = port ∧ which = getBitset protocol then true
            else pool.isPortAllocated q which) := by
  unfold allocateSpecificPort
  dsimp only
  by_cases outside : portToIndex port ≥ portCount
  · exact Or.inl ⟨Nat.not_lt_of_le outside, if_pos outside⟩
  · have inside : IsEphemeral port := Nat.lt_of_not_le outside
    rw [if_neg outside]
    by_cases taken : pool.bits (getBitset protocol) (portToIndex port) = true
    · right
      left
      rw [if_pos taken]
      refine ⟨?_, rfl⟩
      have bound : portToIndex port < portCount := inside
      simp [isPortAllocated, bound, taken]
    · right
      right
      rw [if_neg taken]
      exact ⟨inside, by simp [isPortAllocated, taken], _, rfl,
        fun q which => isPortAllocated_put pool inside _ _ q which⟩

end Pool

end RyuLdn.EphemeralPortPool
