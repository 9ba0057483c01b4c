import Mathlib.Data.List.Basic

/-! `LdnStateMachine`: the states of the local-wireless service and the transitions
between them. Each transition names its target and the states it may start from. -/
namespace RyuLdn.LdnStateMachine

inductive CommState where
  | none | initialized | accessPoint | accessPointCreated | station | stationConnected | error
  deriving DecidableEq, Repr

inductive StateTransitionResult where
  | success | invalidTransition | alreadyInState
  deriving DecidableEq, Repr

namespace CommState

def isNetworkActive (s : CommState) : Bool := s = .accessPointCreated || s = .stationConnected

theorem isNetworkActive_iff {s : CommState} :
    s.isNetworkActive = true ↔ s = .accessPointCreated ∨ s = .stationConnected := by
  simp [isNetworkActive]

abbrev Active : Type := { s : CommState // s.isNetworkActive = true }

def transition (sources : List CommState) (target s : CommState) :
    StateTransitionResult × CommState :=
  if s = target then (.alreadyInState, s)
  else if s ∈ sources then (.success, target)
  else (.invalidTransition, s)

/-- `Initialize`. -/
def startUp : CommState → StateTransitionResult × CommState := transition [.none] .initialized

def openAccessPoint : CommState → StateTransitionResult × CommState :=
  transition [.initialized] .accessPoint

def closeAccessPoint : CommState → StateTransitionResult × CommState :=
  transition [.accessPoint, .accessPointCreated] .initialized

def createNetwork : CommState → StateTransitionResult × CommState :=
  transition [.accessPoint] .accessPointCreated

def destroyNetwork : CommState → StateTransitionResult × CommState :=
  transition [.accessPointCreated] .accessPoint

def openStation : CommState → StateTransitionResult × CommState :=
  transition [.initialized] .station

def closeStation : CommState → StateTransitionResult × CommState :=
  transition [.station, .stationConnected] .initialized

def connect : CommState → StateTransitionResult × CommState :=
  transition [.station] .stationConnected

def disconnect : CommState → StateTransitionResult × CommState :=
  transition [.stationConnected] .station

def finalize (s : CommState) : StateTransitionResult × CommState :=
  if s = .none then (.alreadyInState, s) else (.success, .none)

theorem transition_success {sources : List CommState} {target s t : CommState}
    (moved : transition sources target s = (.success, t)) : s ∈ sources ∧ t = target := by
  unfold transition at moved
  split at moved
  · cases moved
  · split at moved
    · rename_i source
      cases moved
      exact ⟨source, rfl⟩
    · cases moved

end CommState

end RyuLdn.LdnStateMachine
