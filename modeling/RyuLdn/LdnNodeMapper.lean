import RyuLdn.NetworkInfo
import Mathlib.Data.List.Induction
import Mathlib.Logic.Function.Basic

/-! `LdnNodeMapper` of `ldn_node_mapper.cpp`: which node ids are connected and at which
address. The table is indexed by the node id of the packet, a signed byte, so an update
answers the indices it writes as well. -/
namespace RyuLdn

structure NodeEntry where
  nodeId : UInt32
  ipv4Address : UInt32
  isConnected : Bool
  deriving DecidableEq

structure LdnNodeMapper where
  nodes : Fin 8 → NodeEntry
  localNodeId : UInt8

namespace LdnNodeMapper

def maxNodes : Nat := 8

def broadcastNodeId : UInt32 := 0xFFFFFFFF

def emptyEntry (index : Fin 8) : NodeEntry := ⟨.ofNat index.val, 0, false⟩

def new : LdnNodeMapper := ⟨emptyEntry, 0xFF⟩

/-- An assignment to fields of `m_nodes[index]`; outside the table it hits other memory. -/
def assign (mapper : LdnNodeMapper) (index : Int) (change : NodeEntry → NodeEntry) :
    LdnNodeMapper :=
  if inTable : 0 ≤ index ∧ index < 8 then
    let place : Fin 8 := ⟨index.toNat, by omega⟩
    { mapper with nodes := Function.update mapper.nodes place (change (mapper.nodes place)) }
  else mapper

def isNodeConnected (mapper : LdnNodeMapper) (nodeId : UInt32) : Bool :=
  if inTable : nodeId.toNat < maxNodes then (mapper.nodes ⟨nodeId.toNat, inTable⟩).isConnected
  else false

def getNodeIp (mapper : LdnNodeMapper) (nodeId : UInt32) : UInt32 :=
  if inTable : nodeId.toNat < maxNodes then (mapper.nodes ⟨nodeId.toNat, inTable⟩).ipv4Address
  else 0

def disconnectAll (mapper : LdnNodeMapper) : LdnNodeMapper :=
  { mapper with
    nodes := fun index => { mapper.nodes index with ipv4Address := 0, isConnected := false } }

/-- The entries the loop of `UpdateFromNetworkInfo` goes through. -/
def listed (info : NetworkInfo) : List NodeInfo :=
  (List.range (min info.nodeCount.toNat maxNodes)).map info.node

def addListed (state : LdnNodeMapper × List Int) (node : NodeInfo) : LdnNodeMapper × List Int :=
  if node.isConnected ≠ 0 then
    (state.1.assign node.nodeId.toInt fun entry =>
      { entry with ipv4Address := node.ipv4Address, isConnected := true },
      state.2 ++ [node.nodeId.toInt])
  else state

/-- `UpdateFromNetworkInfo`, with all indices of `m_nodes` it writes. -/
def updateFromNetworkInfo (mapper : LdnNodeMapper) (info : NetworkInfo) :
    LdnNodeMapper × List Int :=
  (listed info).foldl addListed (mapper.disconnectAll, (List.range maxNodes).map Int.ofNat)

def shouldRouteToNode (mapper : LdnNodeMapper) (destNodeId sourceNodeId targetNodeId : UInt32) :
    Bool :=
  if inTable : targetNodeId.toNat < maxNodes then
    if (mapper.nodes ⟨targetNodeId.toNat, inTable⟩).isConnected = false then false
    else if destNodeId = broadcastNodeId then targetNodeId != sourceNodeId
    else destNodeId == targetNodeId
  else false

def IsAt (id : Nat) (node : NodeInfo) : Prop := node.isConnected ≠ 0 ∧ node.nodeId.toInt = id

instance (id : Nat) (node : NodeInfo) : Decidable (IsAt id node) :=
  inferInstanceAs (Decidable (_ ∧ _))

/-- The map after an update says what the first entries of the list say. -/
structure Mirrors (info : NetworkInfo) (mapper : LdnNodeMapper) (written : List Int) : Prop where
  in_table : ∀ index ∈ written, 0 ≤ index ∧ index < 8
  connected : ∀ id : UInt32, id.toNat < 8 →
    (mapper.isNodeConnected id = true ↔ ∃ node ∈ listed info, IsAt id.toNat node)
  address : ∀ id : UInt32, id.toNat < 8 → mapper.getNodeIp id =
    (((listed info).filter (IsAt id.toNat ·)).getLast?.map NodeInfo.ipv4Address).getD 0
  broadcast : ∀ source target : UInt32,
    mapper.shouldRouteToNode broadcastNodeId source target = true ↔
      mapper.isNodeConnected target = true ∧ target ≠ source

theorem nodes_assign (mapper : LdnNodeMapper) (index : Int) (change : NodeEntry → NodeEntry)
    (place : Fin 8) : (mapper.assign index change).nodes place =
      if index = place.val then change (mapper.nodes place) else mapper.nodes place := by
  unfold assign
  by_cases inTable : 0 ≤ index ∧ index < 8
  · rw [dif_pos inTable]
    by_cases here : index = place.val
    · have same : (⟨index.toNat, by omega⟩ : Fin 8) = place := Fin.ext (by simp [here])
      rw [if_pos here]
      simp only [same, Function.update_self]
    · have other : place ≠ (⟨index.toNat, by omega⟩ : Fin 8) := by
        intro same
        apply here
        rw [same]
        simp only [Int.toNat_of_nonneg inTable.1]
      rw [if_neg here]
      exact Function.update_of_ne other ..
  · have other : index ≠ place.val := by omega
    rw [dif_neg inTable, if_neg other]

theorem nodes_foldl_addListed (mapper : LdnNodeMapper) (written : List Int) (place : Fin 8)
    (nodes : List NodeInfo) :
    ((nodes.foldl addListed (mapper, written)).1.nodes place).isConnected =
        ((mapper.nodes place).isConnected || decide (∃ node ∈ nodes, IsAt place.val node)) ∧
      ((nodes.foldl addListed (mapper, written)).1.nodes place).ipv4Address =
        ((nodes.filter (IsAt place.val ·)).getLast?.map NodeInfo.ipv4Address).getD
          (mapper.nodes place).ipv4Address := by
  induction nodes using List.reverseRecOn with
  | nil => simp
  | append_singleton nodes node ih =>
      obtain ⟨connected, address⟩ := ih
      rw [List.foldl_append, List.filter_append]
      generalize nodes.foldl addListed (mapper, written) = state at connected address
      by_cases here : IsAt place.val node
      · have last : [node].filter (IsAt place.val ·) = [node] := by simp [here]
        have entry : (List.foldl addListed state [node]).1.nodes place =
            { state.1.nodes place with
              ipv4Address := node.ipv4Address, isConnected := true } := by
          simp only [List.foldl_cons, List.foldl_nil, addListed]
          rw [if_pos here.1, nodes_assign, if_pos here.2]
        rw [entry, last]
        simp [here]
      · have none : [node].filter (IsAt place.val ·) = [] := by simp [here]
        have entry : (List.foldl addListed state [node]).1.nodes place = state.1.nodes place := by
          simp only [List.foldl_cons, List.foldl_nil, addListed]
          split
          · rename_i connected
            rw [nodes_assign, if_neg fun same => here ⟨connected, same⟩]
          · rfl
        rw [entry, none, List.append_nil]
        refine ⟨?_, address⟩
        rw [connected]
        simp [here]

theorem written_foldl_addListed (state : LdnNodeMapper × List Int) (nodes : List NodeInfo) :
    (nodes.foldl addListed state).2 =
      state.2 ++ (nodes.filter (·.isConnected ≠ 0)).map (·.nodeId.toInt) := by
  induction nodes generalizing state with
  | nil => simp
  | cons node nodes ih =>
      rw [List.foldl_cons, ih]
      unfold addListed
      split <;> simp [*]

/-- The update mirrors the server's list exactly when no listed entry is connected under
an id outside the table. -/
theorem updateFromNetworkInfo_mirrors_iff (mapper : LdnNodeMapper) (info : NetworkInfo) :
    Mirrors info (mapper.updateFromNetworkInfo info).1 (mapper.updateFromNetworkInfo info).2 ↔
      ∀ node ∈ listed info, node.isConnected ≠ 0 →
        0 ≤ node.nodeId.toInt ∧ node.nodeId.toInt < 8 := by
  have written := written_foldl_addListed
    (mapper.disconnectAll, (List.range maxNodes).map Int.ofNat) (listed info)
  constructor
  · intro mirrors node member connected
    apply mirrors.in_table
    unfold updateFromNetworkInfo
    rw [written]
    apply List.mem_append_right
    rw [List.mem_map]
    exact ⟨node, by simp [member, connected], rfl⟩
  · intro inTable
    have entries (place : Fin 8) := nodes_foldl_addListed mapper.disconnectAll
      ((List.range maxNodes).map Int.ofNat) place (listed info)
    refine ⟨?_, ?_, ?_, ?_⟩
    · intro index member
      unfold updateFromNetworkInfo at member
      rw [written, List.mem_append] at member
      rcases member with cleared | added
      · obtain ⟨place, range, rfl⟩ := List.mem_map.mp cleared
        have bound := List.mem_range.mp range
        unfold maxNodes at bound
        simp only [Int.ofNat_eq_natCast]
        omega
      · obtain ⟨node, kept, rfl⟩ := List.mem_map.mp added
        have ⟨listed, connected⟩ := List.mem_filter.mp kept
        exact inTable node listed (by simpa using connected)
    · intro id bound
      have ⟨connected, _⟩ := entries ⟨id.toNat, bound⟩
      unfold isNodeConnected updateFromNetworkInfo
      rw [dif_pos (show id.toNat < maxNodes from bound), connected]
      simp [disconnectAll]
    · intro id bound
      have ⟨_, address⟩ := entries ⟨id.toNat, bound⟩
      unfold getNodeIp updateFromNetworkInfo
      rw [dif_pos (show id.toNat < maxNodes from bound), address]
      rfl
    · intro source target
      unfold shouldRouteToNode isNodeConnected
      split
      · rename_i bound
        cases ((mapper.updateFromNetworkInfo info).1.nodes ⟨target.toNat, bound⟩).isConnected <;>
          simp
      · simp

def strayInfo : NetworkInfo := (NetworkInfo.zero.put 103 [1] (by decide)).put 114 [8, 1] (by decide)

/-- The ninth entry is written. -/
theorem stray_node_written :
    ¬ Mirrors strayInfo (new.updateFromNetworkInfo strayInfo).1
      (new.updateFromNetworkInfo strayInfo).2 := by
  intro mirrors
  have stray : (8 : Int) ∈ (new.updateFromNetworkInfo strayInfo).2 := by decide +kernel
  have bound := mirrors.in_table 8 stray
  exact absurd bound.2 (by decide)

end LdnNodeMapper

end RyuLdn
