import RyuLdn.TransitionSystem
import Mathlib.Logic.Function.Basic
import Mathlib.Tactic.Ring

/-! The port mapping of the P2P host: `NatPunch`, the lease renewal thread and
`ReleaseNatPunch`. The router keeps, for each public port, the millisecond at which our
mapping ends; what it answers, and how much time goes by, are arguments of the actions.
A step of the renewal thread is what it does between two sleeps or requests.

`attempts`, `attemptedAt` and `abandoned` are not in the source: they record the router's
answers about the mapping in use, when the last of them came, and the ports whose
deletion was refused. -/
namespace RyuLdn.UpnpLease

open TransitionSystem

def publicPortBase : Nat := 39990
def publicPortRange : Nat := 10
def portLeaseLength : Nat := 60 * 1000
/-- `total_ms` of the renewal loop. -/
def portLeaseRenew : Nat := 50 * 1000
def chunkMs : Nat := 250

inductive LeaseThread where
  | absent
  /-- In `SleepThread` since this moment; `waited` is the loop variable. -/
  | sleeping (waited since : Nat)
  | renewing (since : Nat)
  | exited
  deriving DecidableEq

/-- Where the service thread is that calls `NatPunch` and `ReleaseNatPunch`. -/
inductive Caller where
  | idle
  /-- The mapping is made; `GetExternalIPAddress` and `StartLeaseRenewal` are to come. -/
  | punched (since : Nat)
  | joining
  | deleting
  deriving DecidableEq

structure State where
  now : Nat
  publicPort : Nat
  leaseThreadRunning : Bool
  disposed : Bool
  thread : LeaseThread
  caller : Caller
  router : Nat → Option Nat
  attempts : List Bool
  attemptedAt : Nat
  abandoned : List Nat

def init : State where
  now := 0
  publicPort := 0
  leaseThreadRunning := false
  disposed := false
  thread := .absent
  caller := .idle
  router := fun _ => none
  attempts := []
  attemptedAt := 0
  abandoned := []

inductive Action where
  | elapse (ms : Nat)
  | natPunch (discovered : Bool) (answers : List Bool)
  | startLeaseRenewal (threadCreated : Bool)
  | wake
  | renew (answer : Bool)
  | release
  | joined
  | delete (answer : Bool)
  | dispose
  deriving DecidableEq

def mappedPort (answers : List Bool) : Option Nat :=
  ((answers.take publicPortRange).findIdx? id).map (publicPortBase + ·)

def State.goesOn (st : State) : Bool := st.leaseThreadRunning && !st.disposed

def State.wakeUp (st : State) (waited : Nat) : LeaseThread :=
  if st.goesOn then
    if waited + chunkMs < portLeaseRenew then .sleeping (waited + chunkMs) st.now
    else .renewing st.now
  else .exited

/-- `AddPortMapping` with the lease of one minute, for the port in use. -/
def State.attempt (st : State) (answer : Bool) : State :=
  { st with
    router :=
      if answer then Function.update st.router st.publicPort (some (st.now + portLeaseLength))
      else st.router
    attempts := st.attempts ++ [answer]
    attemptedAt := st.now }

def step (st : State) : Action → Option State
  | .elapse ms => some { st with now := st.now + ms }
  | .natPunch discovered answers =>
      if st.caller = .idle then
        match (if discovered then mappedPort answers else none) with
        | some port =>
            some { State.attempt { st with publicPort := port, attempts := [] } true with
              caller := .punched st.now }
        | none => some st
      else none
  | .startLeaseRenewal threadCreated =>
      match st.caller with
      | .punched _ =>
          if st.leaseThreadRunning then some { st with caller := .idle }
          else if threadCreated then
            some { st with
              leaseThreadRunning := true
              thread := if st.disposed then .exited else .sleeping 0 st.now
              caller := .idle }
          else some { st with caller := .idle }
      | _ => none
  | .wake =>
      match st.thread with
      | .sleeping waited since =>
          if since + chunkMs ≤ st.now then some { st with thread := st.wakeUp waited } else none
      | _ => none
  | .renew answer =>
      match st.thread with
      | .renewing _ =>
          some { st.attempt answer with
            thread := if st.goesOn then .sleeping 0 st.now else .exited }
      | _ => none
  | .release =>
      if st.caller = .idle then
        if st.leaseThreadRunning then
          some { st with leaseThreadRunning := false, caller := .joining }
        else some { st with caller := .deleting }
      else none
  | .joined =>
      if st.caller = .joining ∧ st.thread = .exited then
        some { st with thread := .absent, caller := .deleting }
      else none
  | .delete answer =>
      if st.caller = .deleting then
        if st.publicPort = 0 then some { st with caller := .idle }
        else
          some { st with
            router := if answer then Function.update st.router st.publicPort none else st.router
            abandoned := if answer then st.abandoned else st.publicPort :: st.abandoned
            publicPort := 0
            caller := .idle }
      else none
  | .dispose => if st.caller = .idle then some { st with disposed := true } else none

/-- How long a sleep of 250 ms and a request to the router may take at most. -/
structure Timing where
  slice : Nat
  call : Nat

/-- Nobody is kept waiting for longer than that; a mapping is only asked for while
there is none, which is what the owner of the server does. -/
def orderly (timing : Timing) (st : State) : Action → Bool
  | .elapse ms =>
      (match st.thread with
        | .sleeping _ since => st.now + ms ≤ since + timing.slice
        | .renewing since => st.now + ms ≤ since + timing.call
        | _ => true) &&
      (match st.caller with
        | .punched since => st.now + ms ≤ since + timing.call
        | _ => true)
  | .natPunch .. => st.publicPort = 0
  | _ => true

abbrev run (timing : Timing) (st : State) (actions : List Action) : Option State :=
  TransitionSystem.run (guarded (orderly timing) step) st actions

def Alive (st : State) : Prop := ∃ e, st.router st.publicPort = some e ∧ st.now < e

structure Clock (timing : Timing) (st : State) : Prop where
  punched : ∀ since, st.caller = .punched since →
    st.publicPort ≠ 0 ∧ st.attemptedAt = since ∧ since ≤ st.now ∧ st.now ≤ since + timing.call ∧
      st.thread = .absent ∧ st.leaseThreadRunning = false
  sleeping : ∀ waited since, st.thread = .sleeping waited since →
    st.publicPort ≠ 0 ∧ since ≤ st.now ∧ st.now ≤ since + timing.slice ∧
      ∃ n, n < 200 ∧ waited = n * chunkMs ∧ st.attemptedAt + waited ≤ since ∧
        since ≤ st.attemptedAt + timing.call + n * timing.slice
  renewing : ∀ since, st.thread = .renewing since →
    st.publicPort ≠ 0 ∧ since ≤ st.now ∧ st.now ≤ since + timing.call ∧
      st.attemptedAt + portLeaseRenew ≤ since ∧
        since ≤ st.attemptedAt + timing.call + 200 * timing.slice
  stopped : st.caller ≠ .joining → st.leaseThreadRunning = false → st.thread = .absent
  joining : st.caller = .joining → st.leaseThreadRunning = false
  deleting : st.caller = .deleting → st.thread = .absent ∧ st.leaseThreadRunning = false
  unused : st.publicPort = 0 → st.leaseThreadRunning = false ∧ st.thread = .absent
  granted : st.publicPort ≠ 0 → st.attempts.getLast? = some true →
    st.router st.publicPort = some (st.attemptedAt + portLeaseLength)
  refused : st.publicPort ≠ 0 → st.attempts.getLast? = some false →
    ∀ e, st.router st.publicPort = some e → e + portLeaseRenew ≤ st.attemptedAt + portLeaseLength
  attempted : st.publicPort ≠ 0 → st.attempts ≠ []
  ours : ∀ port, (st.router port).isSome = true →
    port = st.publicPort ∧ st.publicPort ≠ 0 ∨ port ∈ st.abandoned

theorem clock_init (timing : Timing) : Clock timing init := by
  constructor <;> simp [init]

theorem mappedPort_ne_zero {answers : List Bool} {port : Nat}
    (mapped : mappedPort answers = some port) : port ≠ 0 := by
  obtain ⟨i, _, rfl⟩ := Option.map_eq_some_iff.mp mapped
  simp [publicPortBase]

namespace Clock

variable {timing : Timing} {st : State}

theorem elapse (clock : Clock timing st) {ms : Nat}
    (prompt : orderly timing st (.elapse ms) = true) :
    Clock timing { st with now := st.now + ms } := by
  obtain ⟨punched, sleeping, renewing, stopped, joining, deleting, unused, granted, refused,
    attempted, ours⟩ := clock
  simp only [orderly, Bool.and_eq_true] at prompt
  obtain ⟨thread, caller⟩ := prompt
  refine ⟨?_, ?_, ?_, stopped, joining, deleting, unused, granted, refused, attempted, ours⟩
  · intro since (here : st.caller = .punched since)
    simp only [here, decide_eq_true_eq] at caller
    have before := punched since here
    exact ⟨before.1, before.2.1, Nat.le_add_right_of_le (by omega), caller, before.2.2.2.2⟩
  · intro waited since (here : st.thread = .sleeping waited since)
    simp only [here, decide_eq_true_eq] at thread
    have before := sleeping waited since here
    exact ⟨before.1, Nat.le_add_right_of_le (by omega), thread, before.2.2.2⟩
  · intro since (here : st.thread = .renewing since)
    simp only [here, decide_eq_true_eq] at thread
    have before := renewing since here
    exact ⟨before.1, Nat.le_add_right_of_le (by omega), thread, before.2.2.2⟩

theorem natPunch (clock : Clock timing st) (free : st.publicPort = 0) {port : Nat} (mapped : port ≠ 0) :
    Clock timing { State.attempt { st with publicPort := port, attempts := [] } true with
      caller := .punched st.now } := by
  obtain ⟨running, absent⟩ := clock.unused free
  refine ⟨?_, ?_, ?_, ?_, ?_, ?_, ?_, ?_, ?_, ?_, ?_⟩ <;>
    simp only [State.attempt, List.nil_append, if_true]
  · rintro since here
    cases here
    exact ⟨mapped, rfl, le_refl _, by omega, absent, running⟩
  · simp [absent]
  · simp [absent]
  · exact fun _ _ => absent
  · simp
  · simp
  · exact fun zero => absurd zero mapped
  · simp
  · simp
  · simp
  · intro p some
    by_cases here : p = port
    · exact Or.inl ⟨here, mapped⟩
    · rw [Function.update_of_ne here] at some
      rcases clock.ours p some with ⟨_, taken⟩ | left
      · exact absurd free taken
      · exact Or.inr left

theorem startLeaseRenewal (clock : Clock timing st) {since : Nat} (here : st.caller = .punched since) :
    Clock timing { st with
      leaseThreadRunning := true
      thread := if st.disposed then .exited else .sleeping 0 st.now
      caller := .idle } := by
  obtain ⟨port, attempted, _, late, _, _⟩ := clock.punched since here
  refine ⟨?_, ?_, ?_, ?_, ?_, ?_, ?_, clock.granted, clock.refused, clock.attempted, clock.ours⟩
  · simp
  · intro waited since' now
    dsimp only at now
    split at now <;> cases now
    refine ⟨port, le_refl _, by dsimp only; omega, 0, by omega, by omega, ?_, ?_⟩ <;>
      dsimp only <;> omega
  · intro since' now
    dsimp only at now
    split at now <;> cases now
  · simp
  · simp
  · simp
  · exact fun zero => absurd zero port

theorem wakeUp_cases (st : State) (waited : Nat) :
    st.wakeUp waited = .sleeping (waited + chunkMs) st.now ∧ waited + chunkMs < portLeaseRenew ∨
      st.wakeUp waited = .renewing st.now ∧ portLeaseRenew ≤ waited + chunkMs ∨
      st.wakeUp waited = .exited := by
  rw [State.wakeUp]
  by_cases on : st.goesOn = true
  · by_cases more : waited + chunkMs < portLeaseRenew
    · exact Or.inl ⟨by rw [if_pos on, if_pos more], more⟩
    · exact Or.inr (Or.inl ⟨by rw [if_pos on, if_neg more], by omega⟩)
  · exact Or.inr (Or.inr (if_neg on))

theorem wake (clock : Clock timing st) {waited since : Nat} (here : st.thread = .sleeping waited since)
    (elapsed : since + chunkMs ≤ st.now) : Clock timing { st with thread := st.wakeUp waited } := by
  obtain ⟨port, _, late, n, few, chunks, early, latest⟩ := clock.sleeping waited since here
  have succ : (n + 1) * timing.slice = n * timing.slice + timing.slice := Nat.succ_mul _ _
  have awake : st.thread ≠ .absent := by simp [here]
  have woken := wakeUp_cases st waited
  simp only [chunkMs, portLeaseRenew] at woken elapsed chunks
  refine ⟨?_, ?_, ?_, fun other running => absurd (clock.stopped other running) awake,
    clock.joining, fun deleting => absurd (clock.deleting deleting).1 awake,
    fun zero => absurd zero port, clock.granted, clock.refused, clock.attempted, clock.ours⟩
  · intro since' punched
    exact absurd (clock.punched since' punched).2.2.2.2.1 awake
  · intro waited' since' now
    dsimp only at now ⊢
    rcases woken with ⟨asleep, more⟩ | ⟨up, _⟩ | out
    · rw [asleep] at now
      injection now with waits starts
      refine ⟨port, by omega, by omega, n + 1, by omega, ?_, by omega, by omega⟩
      rw [chunkMs]
      omega
    · rw [up] at now
      cases now
    · rw [out] at now
      cases now
  · intro since' now
    dsimp only at now ⊢
    rcases woken with ⟨asleep, _⟩ | ⟨up, enough⟩ | out
    · rw [asleep] at now
      cases now
    · rw [up] at now
      cases now
      have most : (n + 1) * timing.slice ≤ 200 * timing.slice := Nat.mul_le_mul_right _ few
      exact ⟨port, le_refl _, by omega, by simp only [portLeaseRenew]; omega, by omega⟩
    · rw [out] at now
      cases now

theorem renew (clock : Clock timing st) {since : Nat} (here : st.thread = .renewing since)
    (answer : Bool) :
    Clock timing { st.attempt answer with
      thread := if st.goesOn then .sleeping 0 st.now else .exited } := by
  obtain ⟨port, reached, late, early, latest⟩ := clock.renewing since here
  refine ⟨?_, ?_, ?_, ?_, clock.joining, ?_, ?_, ?_, ?_, ?_, ?_⟩ <;> simp only [State.attempt]
  · intro since' punched
    have absent := (clock.punched since' punched).2.2.2.2.1
    rw [here] at absent
    cases absent
  · intro waited' since' now
    split at now <;> cases now
    exact ⟨port, le_refl _, by omega, 0, by omega, by omega, by omega, by omega⟩
  · intro since' now
    split at now <;> cases now
  · intro other running
    have absent := clock.stopped other running
    rw [here] at absent
    cases absent
  · intro deleting
    have absent := (clock.deleting deleting).1
    rw [here] at absent
    cases absent
  · exact fun zero => absurd zero port
  · intro _ last
    simp only [List.getLast?_concat, Option.some.injEq] at last
    simp [last]
  · intro _ last e mapped
    simp only [List.getLast?_concat, Option.some.injEq] at last
    simp only [last, Bool.false_eq_true, if_false] at mapped
    simp only [portLeaseRenew, portLeaseLength] at *
    cases before : st.attempts.getLast? with
    | none => exact absurd (List.getLast?_eq_none_iff.mp before) (clock.attempted port)
    | some granted =>
        cases granted with
        | true =>
            rw [clock.granted port before] at mapped
            simp only [portLeaseLength, Option.some.injEq] at mapped
            omega
        | false =>
            have old := clock.refused port before e mapped
            simp only [portLeaseRenew, portLeaseLength] at old
            omega
  · simp
  · intro p some
    split at some
    · by_cases here : p = st.publicPort
      · exact Or.inl ⟨here, port⟩
      · rw [Function.update_of_ne here] at some
        exact clock.ours p some
    · exact clock.ours p some

theorem release (clock : Clock timing st) :
    Clock timing { st with leaseThreadRunning := false, caller := .joining } := by
  refine ⟨by simp, clock.sleeping, clock.renewing, by simp, by simp, by simp, ?_, clock.granted,
    clock.refused, clock.attempted, clock.ours⟩
  intro zero
  exact ⟨rfl, (clock.unused zero).2⟩

theorem joined (clock : Clock timing st) (here : st.caller = .joining) :
    Clock timing { st with thread := .absent, caller := .deleting } := by
  have running := clock.joining here
  exact ⟨by simp, by simp, by simp, by simp, by simp, fun _ => ⟨rfl, running⟩,
    fun _ => ⟨running, rfl⟩, clock.granted, clock.refused, clock.attempted, clock.ours⟩

theorem delete (clock : Clock timing st) (here : st.caller = .deleting) (answer : Bool) :
    Clock timing { st with
      router := if answer then Function.update st.router st.publicPort none else st.router
      abandoned := if answer then st.abandoned else st.publicPort :: st.abandoned
      publicPort := 0
      caller := .idle } := by
  obtain ⟨absent, running⟩ := clock.deleting here
  refine ⟨by simp, by simp [absent], by simp [absent], fun _ _ => absent, by simp, by simp,
    fun _ => ⟨running, absent⟩, by simp, by simp, by simp, ?_⟩
  intro p some
  right
  cases answer with
  | true =>
      simp only [if_true] at some ⊢
      by_cases here : p = st.publicPort
      · rw [here, Function.update_self] at some
        cases some
      · rw [Function.update_of_ne here] at some
        rcases clock.ours p some with ⟨same, _⟩ | left
        · exact absurd same here
        · exact left
  | false =>
      simp only [Bool.false_eq_true, if_false] at some ⊢
      rcases clock.ours p some with ⟨same, _⟩ | left
      · exact List.mem_cons.mpr (Or.inl same)
      · exact List.mem_cons_of_mem _ left

theorem step {next : State} {a : Action} (clock : Clock timing st)
    (prompt : orderly timing st a = true) (taken : UpnpLease.step st a = some next) :
    Clock timing next := by
  cases a <;> simp only [UpnpLease.step, Option.some.injEq, Option.ite_none_right_eq_some] at taken
  case elapse ms =>
    subst taken
    exact clock.elapse prompt
  case natPunch discovered answers =>
    obtain ⟨idle, taken⟩ := taken
    split at taken <;> cases taken
    · rename_i port mapped
      refine clock.natPunch (of_decide_eq_true prompt) ?_
      split at mapped
      · exact mappedPort_ne_zero mapped
      · cases mapped
    · exact clock
  case startLeaseRenewal threadCreated =>
    split at taken
    · rename_i since here
      have calm : Clock timing { st with caller := .idle } :=
        { clock with
          punched := by simp
          stopped := fun _ _ => (clock.punched since here).2.2.2.2.1
          joining := by simp
          deleting := by simp }
      split at taken
      · cases taken
        exact calm
      · split at taken <;> cases taken
        · exact clock.startLeaseRenewal here
        · exact calm
    · cases taken
  case wake =>
    split at taken
    · rename_i waited since here
      simp only [Option.ite_none_right_eq_some, Option.some.injEq] at taken
      obtain ⟨elapsed, rfl⟩ := taken
      exact clock.wake here elapsed
    · cases taken
  case renew answer =>
    split at taken <;> cases taken
    rename_i since here
    exact clock.renew here answer
  case release =>
    obtain ⟨idle, taken⟩ := taken
    split at taken <;> cases taken
    · exact clock.release
    · rename_i running
      have absent := clock.stopped (by simp [idle]) (by simpa using running)
      exact { clock with
        punched := by simp
        stopped := fun _ _ => absent
        joining := by simp
        deleting := fun _ => ⟨absent, by simpa using running⟩ }
  case joined =>
    obtain ⟨⟨here, _⟩, rfl⟩ := taken
    exact clock.joined here
  case delete answer =>
    obtain ⟨here, taken⟩ := taken
    split at taken <;> cases taken
    · obtain ⟨absent, running⟩ := clock.deleting here
      exact { clock with
        punched := by simp
        stopped := fun _ _ => absent
        joining := by simp
        deleting := by simp }
    · exact clock.delete here answer
  case dispose =>
    obtain ⟨idle, rfl⟩ := taken
    exact { clock with }

end Clock

theorem clock_run {timing : Timing} {actions : List Action} {st : State}
    (steps : run timing init actions = some st) : Clock timing st := by
  refine run_invariant (Clock timing) ?_ steps (clock_init timing)
  intro here a after taken clock
  obtain ⟨prompt, taken⟩ := guarded_eq_some.mp taken
  exact clock.step prompt taken

structure LeaseKept (st : State) : Prop where
  /-- Each request of the renewal thread finds the mapping in place exactly when the one
  before it, `NatPunch` included, was granted. -/
  renewing : ∀ since, st.thread = .renewing since →
    (Alive st ↔ st.attempts.getLast? = some true)
  sleeping : ∀ waited since, st.thread = .sleeping waited since →
    st.attempts.getLast? = some true → Alive st
  refused : st.publicPort ≠ 0 → st.attempts.getLast? = some false →
    st.attemptedAt + 10 * 1000 ≤ st.now → ¬ Alive st

theorem Clock.alive {timing : Timing} {st : State} (clock : Clock timing st)
    (port : st.publicPort ≠ 0) (last : st.attempts.getLast? = some true)
    (early : st.now < st.attemptedAt + portLeaseLength) : Alive st :=
  ⟨_, clock.granted port last, early⟩

theorem Clock.leaseKept {timing : Timing} {st : State} (clock : Clock timing st)
    (short : 200 * timing.slice + 2 * timing.call < portLeaseLength) : LeaseKept st where
  renewing := by
    intro since here
    obtain ⟨port, reached, late, early, latest⟩ := clock.renewing since here
    constructor
    · rintro ⟨e, mapped, open_⟩
      cases last : st.attempts.getLast? with
      | none => exact absurd (List.getLast?_eq_none_iff.mp last) (clock.attempted port)
      | some granted =>
          cases granted with
          | true => rfl
          | false =>
              have lapsed := clock.refused port last e mapped
              simp only [portLeaseRenew, portLeaseLength] at *
              omega
    · intro last
      exact clock.alive port last (by omega)
  refused := by
    rintro port last lapsed ⟨e, mapped, open_⟩
    have early := clock.refused port last e mapped
    simp only [portLeaseRenew, portLeaseLength] at early
    omega
  sleeping := by
    intro waited since here last
    obtain ⟨port, _, late, n, few, _, _, latest⟩ := clock.sleeping waited since here
    refine clock.alive port last ?_
    have most : n * timing.slice + timing.slice ≤ 200 * timing.slice := by
      rw [← Nat.succ_mul]
      exact Nat.mul_le_mul_right _ few
    omega

/-- As long as 200 sleeps and two requests stay below the minute of the lease, the mapping
outlives every wait behind a granted request; behind a refused one it is gone before the
next attempt, ten seconds after the refusal at the latest. -/
theorem lease_kept {timing : Timing} {actions : List Action} {st : State}
    (short : 200 * timing.slice + 2 * timing.call < portLeaseLength)
    (steps : run timing init actions = some st) : LeaseKept st :=
  (clock_run steps).leaseKept short

structure Released (st : State) : Prop where
  ours : ∀ port, (st.router port).isSome = true →
    port = st.publicPort ∧ st.publicPort ≠ 0 ∨ port ∈ st.abandoned
  renewing : ∀ since, st.thread = .renewing since → st.publicPort ≠ 0 ∧ st.caller ≠ .deleting
  /-- Between the join and the next `NatPunch` there is no renewal thread. -/
  quiet : st.publicPort = 0 ∨ st.caller = .deleting → st.thread = .absent

/-- Whatever the router answers and however the calls and the renewal thread interleave, as
long as `NatPunch` comes with no port in use, `ReleaseNatPunch` leaves nothing behind that the router was ready to delete, and nothing is
mapped again after it. -/
theorem released_run {timing : Timing} {actions : List Action} {st : State}
    (steps : run timing init actions = some st) : Released st := by
  have clock := clock_run steps
  refine ⟨clock.ours, ?_, ?_⟩
  · intro since here
    refine ⟨(clock.renewing since here).1, ?_⟩
    intro deleting
    rw [(clock.deleting deleting).1] at here
    cases here
  · rintro (zero | deleting)
    · exact (clock.unused zero).2
    · exact (clock.deleting deleting).1

def oneRenewal : List Action :=
  [.natPunch true [false, false, true], .elapse 40, .startLeaseRenewal true] ++
    (List.replicate 200 [Action.elapse 250, .wake]).flatten ++
    [.elapse 30, .renew true, .elapse 250, .wake]

theorem lease_kept_oneRenewal : LeaseKept ((run ⟨255, 100⟩ init oneRenewal).get (by decide +kernel)) :=
  @lease_kept ⟨255, 100⟩ _ _ (by decide) (Option.some_get _).symm

theorem released_run_oneRenewal :
    Released ((run ⟨255, 100⟩ init oneRenewal).get (by decide +kernel)) :=
  released_run (Option.some_get _).symm

end RyuLdn.UpnpLease
