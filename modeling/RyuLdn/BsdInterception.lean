import RyuLdn.TransitionSystem
import Mathlib.Data.List.Basic
import Mathlib.Logic.Function.Basic
import Mathlib.Tactic.Ring

/-! Which BSD sessions are intercepted: `BsdMitmService::ShouldMitm` with the counters of
`g_mitm_pids_mutex`, the LDN process id that the LDN service publishes, and the
constructor and destructor of the intercepted sessions. What `IsGameInWhitelist` says
comes with each question, as it changes when the list is loaded. An absent entry of a map
is the value `operator[]` makes for it.

`sessions`, `queries`, `cleanups` and `emptied` are not in the source: the
`BsdMitmService` objects alive, the questions Atmosphere asked with their answers, the
`CleanupAbandonedServicesForPid` calls of the destructors, and the processes whose last
session went. -/
namespace RyuLdn.BsdInterception

open TransitionSystem

abbrev Pid := UInt64
abbrev ProgramId := UInt64

def ourProgramId : ProgramId := 0x4200000000000010
def albumProgramId : ProgramId := 0x010028600ebda000
def firstApplication : ProgramId := 0x0100000000000000

/-- A question of Atmosphere, with the LDN process and the whitelist's answer at that
time. -/
structure Query where
  pid : Pid
  programId : ProgramId
  ldnPid : Pid
  isWhitelisted : Bool
  deriving DecidableEq

structure State where
  ldnPid : Pid
  mitmPidCount : Pid → UInt32
  pidProgramIds : Pid → ProgramId
  activeInterceptedSessionsCount : Pid → Option UInt32
  sessions : List Pid
  queries : List (Query × Bool)
  cleanups : List Pid
  emptied : List Pid

def init : State where
  ldnPid := 0
  mitmPidCount := fun _ => 0
  pidProgramIds := fun _ => 0
  activeInterceptedSessionsCount := fun _ => none
  sessions := []
  queries := []
  cleanups := []
  emptied := []

/-- `ShouldMitm` up to the counters. -/
def considers (q : Query) : Bool :=
  if q.programId = ourProgramId then false
  else if q.programId < firstApplication then false
  else if q.programId = albumProgramId then false
  else if q.ldnPid ≠ 0 ∧ q.ldnPid ≠ q.pid then false
  else
    let isLdnActiveForThisPid := q.ldnPid ≠ 0 ∧ q.ldnPid = q.pid
    q.isWhitelisted || isLdnActiveForThisPid

def State.countSession (st : State) (pid : Pid) (programId : ProgramId) : Bool × State :=
  let prevProgramId := st.pidProgramIds pid
  let before :=
    if prevProgramId ≠ 0 ∧ prevProgramId ≠ programId then 0 else st.mitmPidCount pid
  let count := before + 1
  (count ≠ 1,
    { st with
      pidProgramIds := Function.update st.pidProgramIds pid programId
      mitmPidCount := Function.update st.mitmPidCount pid count })

def State.shouldMitm (st : State) (q : Query) : Bool × State :=
  if considers q then st.countSession q.pid q.programId else (false, st)

def State.construct (st : State) (pid : Pid) : State :=
  { st with
    sessions := pid :: st.sessions
    activeInterceptedSessionsCount := Function.update st.activeInterceptedSessionsCount pid
      (some ((st.activeInterceptedSessionsCount pid).getD 0 + 1)) }

def release (count : Option UInt32) : Option UInt32 × Bool :=
  match count with
  | some n =>
      let left := if n > 0 then n - 1 else n
      if left = 0 then (none, true) else (some left, false)
  | none => (none, false)

def State.destroy (st : State) (pid : Pid) : State :=
  let (count, isLastSession) := release (st.activeInterceptedSessionsCount pid)
  { st with
    sessions := st.sessions.erase pid
    activeInterceptedSessionsCount := Function.update st.activeInterceptedSessionsCount pid count
    cleanups := if isLastSession then st.cleanups ++ [pid] else st.cleanups
    emptied := if pid ∈ st.sessions.erase pid then st.emptied else st.emptied ++ [pid] }

inductive Action where
  | setLdnPid (pid : Pid)
  | shouldMitm (pid : Pid) (programId : ProgramId) (isWhitelisted : Bool)
  | construct (pid : Pid)
  | destroy (pid : Pid)
  deriving DecidableEq

def step (st : State) : Action → Option State
  | .setLdnPid pid => some { st with ldnPid := pid }
  | .shouldMitm pid programId isWhitelisted =>
      let q := ⟨pid, programId, st.ldnPid, isWhitelisted⟩
      let (answer, next) := st.shouldMitm q
      some { next with queries := next.queries ++ [(q, answer)] }
  | .construct pid =>
      if st.sessions.length + 1 < 2 ^ 32 then some (st.construct pid) else none
  | .destroy pid => if pid ∈ st.sessions then some (st.destroy pid) else none

def considered (pid : Pid) (queries : List Query) : List Query :=
  (queries.filter fun q => q.pid = pid && considers q).reverse

def streak (pid : Pid) (programId : ProgramId)
    (queries : List Query) : Nat :=
  ((considered pid queries).takeWhile fun q => q.programId = programId).length

theorem considered_append (pid : Pid) (queries : List Query) (q : Query) :
    considered pid (queries ++ [q]) =
      if q.pid = pid ∧ considers q = true then
        q :: considered pid queries
      else considered pid queries := by
  unfold considered
  rw [List.filter_append, List.reverse_append]
  by_cases here : q.pid = pid ∧ considers q = true
  · rw [if_pos here]
    simp [here.1, here.2]
  · rw [if_neg here]
    have out : (decide (q.pid = pid) && considers q) = false := by
      by_contra both
      exact here (by simpa using both)
    simp [out]

theorem programId_ne_zero {q : Query} (here : considers q = true) :
    q.programId ≠ 0 := by
  intro zero
  unfold considers at here
  rw [if_neg (by rw [zero]; decide), if_pos (by rw [zero]; decide)] at here
  cases here

structure Counts (st : State) : Prop where
  programId : ∀ pid, st.pidProgramIds pid =
    (((considered pid (st.queries.map (·.1))).head?).map (·.programId)).getD 0
  count : ∀ pid, st.mitmPidCount pid =
    UInt32.ofNat (streak pid (st.pidProgramIds pid) (st.queries.map (·.1)))
  answers : ∀ before q answer after, st.queries = before ++ (q, answer) :: after →
    (answer = true ↔ considers q = true ∧
      ¬ 2 ^ 32 ∣ streak q.pid q.programId (before.map (·.1)))

theorem counts_init : Counts init where
  programId := fun _ => rfl
  count := fun _ => rfl
  answers := by
    intro before q answer after split
    simp [init] at split

theorem ofNat_eq_zero_iff (n : Nat) : UInt32.ofNat n = 0 ↔ 2 ^ 32 ∣ n := by
  rw [← UInt32.toNat_inj, Nat.dvd_iff_mod_eq_zero]
  simp

theorem Counts.before {st : State} (counts : Counts st) (pid : Pid)
    (programId : ProgramId) :
    (if st.pidProgramIds pid ≠ 0 ∧ st.pidProgramIds pid ≠ programId then 0
      else st.mitmPidCount pid) =
        UInt32.ofNat (streak pid programId (st.queries.map (·.1))) := by
  have last := counts.programId pid
  have count := counts.count pid
  cases history : considered pid (st.queries.map (·.1)) with
  | nil =>
      simp only [history, List.head?_nil, Option.map_none, Option.getD_none] at last
      rw [if_neg (by simp [last]), count]
      simp [streak, history]
  | cons q rest =>
      have here : q ∈ considered pid (st.queries.map (·.1)) := by simp [history]
      have nonzero : q.programId ≠ 0 := by
        simp only [considered, List.mem_reverse, List.mem_filter, Bool.and_eq_true] at here
        exact programId_ne_zero here.2.2
      simp only [history, List.head?_cons, Option.map_some, Option.getD_some] at last
      by_cases same : q.programId = programId
      · rw [if_neg (by simp [last, same]), count, last, same]
      · rw [if_pos ⟨by rw [last]; exact nonzero, by rw [last]; exact same⟩]
        simp [streak, history, same]

theorem streak_append_self {q : Query} (queries : List Query)
    (here : considers q = true) :
    streak q.pid q.programId (queries ++ [q]) =
      streak q.pid q.programId queries + 1 := by
  rw [streak, considered_append, if_pos ⟨rfl, here⟩]
  simp [streak]

theorem Counts.answered {st next : State} (counts : Counts st) {q : Query}
    {answer : Bool} (queries : next.queries = st.queries ++ [(q, answer)])
    (right : answer = true ↔ considers q = true ∧
      ¬ 2 ^ 32 ∣ streak q.pid q.programId (st.queries.map (·.1))) :
    ∀ before q answer after, next.queries = before ++ (q, answer) :: after →
      (answer = true ↔ considers q = true ∧
        ¬ 2 ^ 32 ∣ streak q.pid q.programId (before.map (·.1))) := by
  intro before q' answer' after split
  rw [queries] at split
  rcases List.eq_nil_or_concat after with rfl | ⟨rest, last, rfl⟩
  · obtain ⟨same, entry⟩ := List.append_singleton_inj.mp split
    cases entry
    rw [← same]
    exact right
  · rw [List.concat_eq_append, ← List.cons_append, ← List.append_assoc] at split
    exact counts.answers before q' answer' rest (List.append_singleton_inj.mp split).1

theorem Counts.refuse {st : State} (counts : Counts st) {q : Query}
    (out : considers q = false) :
    Counts { st with queries := st.queries ++ [(q, false)] } := by
  have same : ∀ pid, considered pid ((st.queries ++ [(q, false)]).map (·.1)) =
      considered pid (st.queries.map (·.1)) := by
    intro pid
    rw [List.map_append, List.map_singleton, considered_append, if_neg (by simp [out])]
  refine ⟨?_, ?_, counts.answered rfl (by simp [out])⟩
  · intro pid
    dsimp only
    rw [same]
    exact counts.programId pid
  · intro pid
    dsimp only
    rw [streak, same]
    exact counts.count pid

theorem Counts.count_session {st : State} (counts : Counts st) {q : Query}
    (here : considers q = true) :
    Counts { (st.countSession q.pid q.programId).2 with
      queries := st.queries ++ [(q, (st.countSession q.pid q.programId).1)] } := by
  have before := counts.before q.pid q.programId
  have history : ∀ (answer : Bool) (pid : Pid), considered pid
      ((st.queries ++ [(q, answer)]).map (·.1)) =
        if q.pid = pid then q :: considered pid (st.queries.map (·.1))
        else considered pid (st.queries.map (·.1)) := by
    intro answer pid
    rw [List.map_append, List.map_singleton, considered_append]
    simp [here]
  refine ⟨?_, ?_, counts.answered rfl ?_⟩
  · intro pid
    dsimp only [State.countSession]
    by_cases own : pid = q.pid
    · rw [history, own, Function.update_self, if_pos rfl]
      rfl
    · rw [history, Function.update_of_ne own, if_neg (Ne.symm own)]
      exact counts.programId pid
  · intro pid
    dsimp only [State.countSession]
    by_cases own : pid = q.pid
    · rw [own, Function.update_self, Function.update_self, before, List.map_append,
        List.map_singleton, streak_append_self _ here, UInt32.ofNat_add]
      rfl
    · rw [Function.update_of_ne own, Function.update_of_ne own, counts.count pid, streak, streak,
        history, if_neg (Ne.symm own)]
  · simp only [State.countSession, before, here, true_and, ne_eq, decide_not, Bool.not_eq_true',
      decide_eq_false_iff_not]
    rw [← ofNat_eq_zero_iff]
    exact not_congr UInt32.add_eq_right

theorem Counts.step {st next : State} {a : Action} (counts : Counts st)
    (taken : BsdInterception.step st a = some next) : Counts next := by
  cases a <;>
    simp only [BsdInterception.step, Option.some.injEq, Option.ite_none_right_eq_some] at taken
  case setLdnPid pid =>
    subst taken
    exact ⟨counts.programId, counts.count, counts.answers⟩
  case shouldMitm pid programId isWhitelisted =>
    subst taken
    by_cases here : considers ⟨pid, programId, st.ldnPid, isWhitelisted⟩ = true
    · have counted := counts.count_session here
      simp only [State.shouldMitm, if_pos here]
      exact counted
    · have refused := counts.refuse (by simpa using here)
      simp only [State.shouldMitm, if_neg here]
      exact refused
  case construct pid =>
    obtain ⟨_, rfl⟩ := taken
    exact ⟨counts.programId, counts.count, counts.answers⟩
  case destroy pid =>
    obtain ⟨_, rfl⟩ := taken
    exact ⟨counts.programId, counts.count, counts.answers⟩

/-- Whatever else goes on, a session is intercepted exactly when the title may be, the LDN
service is not another process's, and the process has been considered under this title
before without a break: the first session that is considered under a title is left alone,
and only it, up to the 2³² sessions that bring the counter round. Questions that are
refused for the title or the LDN service are not counted. -/
theorem intercepts_iff_earlier_session {actions : List Action} {st : State}
    (steps : run step init actions = some st) {before after : List (Query × Bool)}
    {q : Query} {answer : Bool} (asked : st.queries = before ++ (q, answer) :: after) :
    answer = true ↔ considers q = true ∧
      ¬ 2 ^ 32 ∣ streak q.pid q.programId (before.map (·.1)) := by
  have counts : Counts st :=
    run_invariant (Counts) (fun taken counts => counts.step taken) steps counts_init
  exact counts.answers before q answer after asked

def secondSession : List Action :=
  [.shouldMitm 5 0x0100000000010000 true, .setLdnPid 5,
    .shouldMitm 5 0x0100000000010000 false, .construct 5]

theorem intercepts_iff_earlier_session_secondSession :
    true = true ↔ considers ⟨5, 0x0100000000010000, 5, false⟩ = true ∧
      ¬ 2 ^ 32 ∣ streak 5 0x0100000000010000
        [⟨5, 0x0100000000010000, 0, true⟩] :=
  have steps : run step init secondSession = some _ := rfl
  intercepts_iff_earlier_session steps
    (show _ = [(⟨5, 0x0100000000010000, 0, true⟩, false)] ++ (_, true) :: [] from rfl)

def entry (live : Nat) : Option UInt32 := if live = 0 then none else some (UInt32.ofNat live)

structure Tallies (st : State) : Prop where
  room : st.sessions.length < 2 ^ 32
  count : ∀ pid, st.activeInterceptedSessionsCount pid = entry (st.sessions.count pid)
  cleanups : st.cleanups = st.emptied

theorem tallies_init : Tallies init := ⟨by decide, fun _ => rfl, rfl⟩

theorem Tallies.construct {st : State} (tallies : Tallies st) {pid : Pid}
    (room : st.sessions.length + 1 < 2 ^ 32) : Tallies (st.construct pid) := by
  refine ⟨room, ?_, tallies.cleanups⟩
  intro p
  dsimp only [State.construct]
  by_cases own : p = pid
  · rw [own, Function.update_self, tallies.count pid, List.count_cons_self, entry, entry]
    split <;> simp_all [UInt32.ofNat_add]
  · rw [Function.update_of_ne own, tallies.count p, List.count_cons_of_ne (Ne.symm own)]

theorem ofNat_ne_zero {n : Nat} (some : n ≠ 0) (few : n < 2 ^ 32) : UInt32.ofNat n ≠ 0 := by
  rw [ne_eq, ofNat_eq_zero_iff]
  exact Nat.not_dvd_of_pos_of_lt (by omega) few

theorem release_entry {live : Nat} (some : live ≠ 0) (few : live < 2 ^ 32) :
    release (entry live) = (entry (live - 1), decide (live - 1 = 0)) := by
  have nonzero := ofNat_ne_zero some few
  have positive : UInt32.ofNat live > 0 := UInt32.pos_iff_ne_zero.mpr nonzero
  have less : UInt32.ofNat live - 1 = UInt32.ofNat (live - 1) := by
    rw [← Nat.succ_pred_eq_of_ne_zero some]
    simp [UInt32.ofNat_add]
  simp only [release, entry, if_neg some, if_pos positive, less]
  by_cases last : live - 1 = 0
  · simp [last]
  · have more := ofNat_ne_zero last (by omega)
    simp [last, more]

theorem Tallies.destroy {st : State} (tallies : Tallies st) {pid : Pid} (here : pid ∈ st.sessions) :
    Tallies (st.destroy pid) := by
  have some : st.sessions.count pid ≠ 0 := by
    have positive := List.count_pos_iff.mpr here
    omega
  have few : st.sessions.count pid < 2 ^ 32 := Nat.lt_of_le_of_lt List.count_le_length tallies.room
  have left : (st.sessions.erase pid).count pid = st.sessions.count pid - 1 := List.count_erase_self
  have released := release_entry some few
  rw [← tallies.count pid] at released
  refine ⟨?_, ?_, ?_⟩ <;> simp only [State.destroy, released]
  · exact Nat.lt_of_le_of_lt (List.erase_sublist.length_le) tallies.room
  · intro p
    by_cases own : p = pid
    · rw [own, Function.update_self, left]
    · rw [Function.update_of_ne own, tallies.count p, List.count_erase_of_ne own]
  · rw [← left, tallies.cleanups]
    by_cases last : pid ∈ st.sessions.erase pid
    · have positive := List.count_pos_iff.mpr last
      rw [if_pos last, if_neg (by simp; omega)]
    · rw [if_neg last, if_pos (by simp [List.count_eq_zero_of_not_mem last])]

theorem Tallies.step {st next : State} {a : Action}
    (tallies : Tallies st) (taken : BsdInterception.step st a = some next) :
    Tallies next := by
  cases a <;>
    simp only [BsdInterception.step, Option.some.injEq, Option.ite_none_right_eq_some] at taken
  case setLdnPid pid =>
    subst taken
    exact ⟨tallies.room, tallies.count, tallies.cleanups⟩
  case shouldMitm pid programId isWhitelisted =>
    subst taken
    unfold State.shouldMitm
    split <;> exact ⟨tallies.room, tallies.count, tallies.cleanups⟩
  case construct pid =>
    obtain ⟨room, rfl⟩ := taken
    exact tallies.construct room
  case destroy pid =>
    obtain ⟨here, rfl⟩ := taken
    exact tallies.destroy here

/-- In every state of every run the map holds, for each process, exactly the number of its
live sessions, with no entry where there is none; and the clean-up of a process runs
exactly when the last of its sessions goes, each time it does. -/
theorem sessions_tallied {actions : List Action} {st : State}
    (steps : run step init actions = some st) :
    (∀ pid, st.activeInterceptedSessionsCount pid = entry (st.sessions.count pid)) ∧
      st.cleanups = st.emptied := by
  have tallies : Tallies st :=
    run_invariant Tallies (fun taken tallies => tallies.step taken) steps tallies_init
  exact ⟨tallies.count, tallies.cleanups⟩

theorem sessions_tallied_secondSession :
    let st := (run step init
      (secondSession ++ [.construct 5, .destroy 5, .destroy 5])).get (by decide)
    (∀ pid, st.activeInterceptedSessionsCount pid = entry (st.sessions.count pid)) ∧
      st.cleanups = st.emptied :=
  sessions_tallied (Option.some_get _).symm

end RyuLdn.BsdInterception
