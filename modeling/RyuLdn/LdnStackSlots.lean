import RyuLdn.SlotFlags
import RyuLdn.TransitionSystem

/-! The pool of thread stacks of `ldn_icommunication.cpp`, with constructors and
destructors of services in any order and any overlap. What runs under one hold of a mutex
is one step, so is every other access to a variable that two threads share. -/
namespace RyuLdn.LdnStackSlots

open SlotFlags TransitionSystem

abbrev ServiceId := Nat

def stackCount : Nat := 12

def maxWaitIterations : Nat := 50

/-- `if (index >= 0) { ReleaseLdnStackSlot(index); index = -1; }`, before each step. -/
inductive Release where
  | check
  | read
  | clear (slot : Int)
  | write
  deriving DecidableEq

inductive Making where
  | unborn
  | takingOver (prev : ServiceId) (release : Release)
  | allocating (attempt : Nat)
  | made
  | registered
  deriving DecidableEq

inductive Ending where
  | alive
  | releasing (release : Release)
  | gone
  deriving DecidableEq

structure Pool where
  used : Nat → Bool
  current : Option ServiceId
  index : ServiceId → Int
  making : ServiceId → Making
  ending : ServiceId → Ending
  held : ServiceId → Option Nat

namespace Pool

def init : Pool where
  used := fun _ => false
  current := none
  index := fun _ => -1
  making := fun _ => .unborn
  ending := fun _ => .alive
  held := fun _ => none

def firstFree (s : Pool) : Option Nat := (List.range stackCount).find? fun i => !s.used i

/-- The flag is set and the slot is the service's; a negative answer becomes slot 0. -/
def give (s : Pool) (o : ServiceId) (slot : Int) : Pool :=
  let slot : Nat := (if slot < 0 then 0 else slot).toNat
  { s with
    used := Function.update s.used slot true
    index := Function.update s.index o slot
    held := Function.update s.held o (some slot)
    making := Function.update s.making o .made }

/-- One turn of `AllocateLdnStackSlot`, and the forced slot behind the last one. -/
def allocate (s : Pool) (o : ServiceId) (attempt : Nat) : Pool :=
  if attempt < maxWaitIterations then
    match s.firstFree with
    | some slot => s.give o slot
    | none => { s with making := Function.update s.making o (.allocating (attempt + 1)) }
  else s.give o 0

/-- `ReleaseLdnStackSlot`, called for a service. -/
def releaseSlot (s : Pool) (target : ServiceId) (slot : Int) : Pool :=
  if slot < 0 ∨ slot ≥ stackCount then s
  else
    { s with
      used := Function.update s.used slot.toNat false
      held := if s.held target = some slot.toNat then Function.update s.held target none
        else s.held }

def releaseStep (s : Pool) (target : ServiceId) : Release → Pool × Option Release
  | .check => (s, if s.index target ≥ 0 then some .read else none)
  | .read => (s, some (.clear (s.index target)))
  | .clear slot => (s.releaseSlot target slot, some .write)
  | .write => ({ s with index := Function.update s.index target (-1) }, none)

def construct (s : Pool) (o : ServiceId) : Pool :=
  if s.making o = .unborn then
    match s.current with
    | some prev =>
        { s with
          current := none
          making := Function.update s.making o (.takingOver prev .check) }
    | none => { s with making := Function.update s.making o (.allocating 0) }
  else s

def advance (s : Pool) (o : ServiceId) : Pool :=
  match s.making o with
  | .takingOver prev release =>
      let (after, next) := s.releaseStep prev release
      { after with
        making := Function.update s.making o
          (match next with
          | some release => .takingOver prev release
          | none => .allocating 0) }
  | .allocating attempt => s.allocate o attempt
  | .made => { s with current := some o, making := Function.update s.making o .registered }
  | .unborn | .registered => s

def destroy (s : Pool) (o : ServiceId) : Pool :=
  if s.making o = .registered ∧ s.ending o = .alive then
    { s with
      current := if s.current = some o then none else s.current
      ending := Function.update s.ending o (.releasing .check) }
  else s

def finish (s : Pool) (o : ServiceId) : Pool :=
  match s.ending o with
  | .releasing release =>
      let (after, next) := s.releaseStep o release
      { after with
        ending := Function.update s.ending o
          (match next with
          | some release => .releasing release
          | none => .gone) }
  | .alive | .gone => s

end Pool

inductive Action where
  | construct (o : ServiceId)
  | advance (o : ServiceId)
  | destroy (o : ServiceId)
  | finish (o : ServiceId)

def step (s : Pool) : Action → Pool
  | .construct o => s.construct o
  | .advance o => s.advance o
  | .destroy o => s.destroy o
  | .finish o => s.finish o

def Live (s : Pool) (o : ServiceId) : Prop := s.making o ≠ .unborn ∧ s.ending o ≠ .gone

def Holds (s : Pool) (o : ServiceId) (slot : Nat) : Prop := Live s o ∧ s.held o = some slot

/-- No two live services hold a slot, and the flags say which slots are held. -/
def Unshared (s : Pool) : Prop := Exclusive s.used (Holds s)

def ClearsOwn (s : Pool) (target : ServiceId) : Release → Prop
  | .clear slot => ∀ p, p ≠ target → ∀ k, Holds s p k → slot ≠ k
  | _ => True

/-- The step is not the forced slot while slot 0 is in use, nor a release of a slot that
somebody else holds by now. -/
def Careful (s : Pool) : Action → Prop
  | .advance o =>
      match s.making o with
      | .takingOver prev release => ClearsOwn s prev release
      | .allocating attempt => attempt < maxWaitIterations ∨ s.used 0 = false
      | _ => True
  | .finish o =>
      match s.ending o with
      | .releasing release => ClearsOwn s o release
      | _ => True
  | _ => True

def Release.Allows (release : Release) (held : Option Nat) : Prop :=
  match release with
  | .clear slot => ∀ k : Nat, held = some k → slot = k
  | .write => held = none
  | .check | .read => True

theorem Release.Allows.mono {release : Release} {held held' : Option Nat}
    (shrinks : ∀ k, held' = some k → held = some k) (allowed : release.Allows held) :
    release.Allows held' := by
  cases release with
  | check => trivial
  | read => trivial
  | clear slot => exact fun k here => allowed k (shrinks k here)
  | write =>
      have none : held = none := allowed
      rw [none] at shrinks
      exact Option.eq_none_iff_forall_ne_some.mpr fun k here => by simpa using shrinks k here

structure Consistent (s : Pool) : Prop where
  held_index : ∀ o slot, s.held o = some slot → s.index o = slot ∧ slot < stackCount
  held_made : ∀ o slot, s.held o = some slot → s.making o = .made ∨ s.making o = .registered
  taking : ∀ o t release, s.making o = .takingOver t release →
    s.making t = .registered ∧ release.Allows (s.held t)
  current : ∀ t, s.current = some t → s.making t = .registered
  ended : ∀ o, s.ending o ≠ .alive → s.making o = .registered
  releasing : ∀ o release, s.ending o = .releasing release → release.Allows (s.held o)
  gone : ∀ o, s.ending o = .gone → s.held o = none

theorem consistent_construct {s : Pool} (inv : Consistent s) (o : ServiceId) :
    Consistent (s.construct o) := by
  unfold Pool.construct
  split
  · rename_i unborn
    obtain ⟨heldIndex, heldMade, taking, current, ended, releasing, gone⟩ := inv
    split
    · constructor <;> grind [Function.update_apply, Release.Allows]
    · constructor <;> grind [Function.update_apply]
  · exact inv

theorem consistent_destroy {s : Pool} (inv : Consistent s) (o : ServiceId) :
    Consistent (s.destroy o) := by
  unfold Pool.destroy
  split
  · obtain ⟨heldIndex, heldMade, taking, current, ended, releasing, gone⟩ := inv
    constructor <;> grind [Function.update_apply, Release.Allows]
  · exact inv

structure ReleaseStep (s : Pool) (target : ServiceId) (after : Pool) (next : Option Release) :
    Prop where
  same : after.making = s.making ∧ after.ending = s.ending ∧ after.current = s.current
  others : ∀ p, p ≠ target → after.held p = s.held p ∧ after.index p = s.index p
  shrinks : ∀ slot, after.held target = some slot →
    s.held target = some slot ∧ after.index target = s.index target
  allowed : ∀ release, next = some release → release.Allows (after.held target)
  done : next = none → after.held target = none

theorem ReleaseStep.keeps {s after : Pool} {target : ServiceId} {next : Option Release}
    (spec : ReleaseStep s target after next) (p : ServiceId) {release : Release}
    (allowed : release.Allows (s.held p)) : release.Allows (after.held p) := by
  apply allowed.mono
  intro k here
  by_cases own : p = target
  · rw [own] at here ⊢
    exact (spec.shrinks k here).1
  · rwa [← (spec.others p own).1]

theorem ReleaseStep.empty {s after : Pool} {target : ServiceId} {next : Option Release}
    (spec : ReleaseStep s target after next) (p : ServiceId) (free : s.held p = none) :
    after.held p = none := by
  by_cases own : p = target
  · rw [own] at free ⊢
    refine Option.eq_none_iff_forall_ne_some.mpr fun k here => ?_
    have before := (spec.shrinks k here).1
    rw [free] at before
    contradiction
  · rwa [(spec.others p own).1]

theorem releaseSlot_same (s : Pool) (target : ServiceId) (slot : Int) :
    (s.releaseSlot target slot).index = s.index ∧ (s.releaseSlot target slot).making = s.making ∧
      (s.releaseSlot target slot).ending = s.ending ∧
      (s.releaseSlot target slot).current = s.current := by
  unfold Pool.releaseSlot
  split <;> exact ⟨rfl, rfl, rfl, rfl⟩

theorem held_releaseSlot_of_ne (s : Pool) {target p : ServiceId} (other : p ≠ target)
    (slot : Int) : (s.releaseSlot target slot).held p = s.held p := by
  unfold Pool.releaseSlot
  split
  · rfl
  · dsimp only
    split
    · exact Function.update_of_ne other ..
    · rfl

theorem held_releaseSlot_self {s : Pool} (inv : Consistent s) {target : ServiceId} {slot : Int}
    (allowed : (Release.clear slot).Allows (s.held target)) :
    (s.releaseSlot target slot).held target = none := by
  unfold Pool.releaseSlot
  cases held : s.held target with
  | none =>
      split
      · exact held
      · simp [held]
  | some k =>
      have same := allowed k held
      have ⟨_, bound⟩ := inv.held_index target k held
      have inside : ¬ (slot < 0 ∨ slot ≥ stackCount) := by omega
      have here : slot.toNat = k := by omega
      rw [if_neg inside, here]
      simp

theorem releaseStep_spec {s : Pool} (inv : Consistent s) {target : ServiceId} {release : Release}
    (allowed : release.Allows (s.held target)) :
    ReleaseStep s target (s.releaseStep target release).1 (s.releaseStep target release).2 := by
  have heldIndex := inv.held_index target
  cases release with
  | check =>
      cases held : s.held target <;> constructor <;> grind [Pool.releaseStep, Release.Allows]
  | read =>
      cases held : s.held target <;> constructor <;> grind [Pool.releaseStep, Release.Allows]
  | clear slot =>
      have ⟨index, making, ending, current⟩ := releaseSlot_same s target slot
      have none := held_releaseSlot_self inv allowed
      have others := fun p (other : p ≠ target) => held_releaseSlot_of_ne s other slot
      constructor <;> grind [Pool.releaseStep, Release.Allows]
  | write =>
      have none : s.held target = none := allowed
      refine ⟨⟨rfl, rfl, rfl⟩, fun p other => ⟨rfl, Function.update_of_ne other ..⟩, ?_, ?_,
        fun _ => none⟩
      · intro slot held
        rw [Pool.releaseStep, none] at held
        contradiction
      · intro release next
        contradiction

theorem consistent_give {s : Pool} (inv : Consistent s) {o : ServiceId} {attempt : Nat}
    (waiting : s.making o = .allocating attempt) {slot : Int} (bound : slot < stackCount) :
    Consistent (s.give o slot) := by
  obtain ⟨heldIndex, heldMade, taking, current, ended, releasing, gone⟩ := inv
  have positive : 0 < stackCount := by decide
  have short : (if slot < 0 then 0 else slot).toNat < stackCount := by omega
  unfold Pool.give
  generalize (if slot < 0 then 0 else slot).toNat = given at short
  constructor <;> grind [Function.update_apply, Release.Allows]

theorem firstFree_spec {s : Pool} {slot : Nat} (found : s.firstFree = some slot) :
    slot < stackCount ∧ s.used slot = false := by
  have free := List.find?_some found
  have range := List.mem_of_find?_eq_some found
  exact ⟨List.mem_range.mp range, by simpa using free⟩

theorem consistent_advance {s : Pool} (inv : Consistent s) (o : ServiceId) :
    Consistent (s.advance o) := by
  unfold Pool.advance
  split
  · rename_i prev release taking
    have spec := releaseStep_spec inv (inv.taking o prev release taking).2
    generalize s.releaseStep prev release = result at spec
    obtain ⟨after, next⟩ := result
    have keeps := fun p (release : Release) (allowed : release.Allows _) =>
      spec.keeps p allowed
    have empty := spec.empty
    obtain ⟨⟨making, ending, currentSame⟩, others, shrinks, allowed, done⟩ := spec
    obtain ⟨heldIndex, heldMade, taking, current, ended, releasing, gone⟩ := inv
    simp only at others shrinks allowed done making keeps empty ending currentSame
    constructor <;> grind [Function.update_apply]
  · rename_i attempt waiting
    unfold Pool.allocate
    split
    · split
      · rename_i slot found
        have ⟨bound, _⟩ := firstFree_spec found
        exact consistent_give inv waiting (by omega)
      · obtain ⟨heldIndex, heldMade, taking, current, ended, releasing, gone⟩ := inv
        constructor <;> grind [Function.update_apply, Release.Allows]
    · exact consistent_give inv waiting (by decide)
  · obtain ⟨heldIndex, heldMade, taking, current, ended, releasing, gone⟩ := inv
    constructor <;> grind [Function.update_apply, Release.Allows]
  · exact inv
  · exact inv

theorem consistent_finish {s : Pool} (inv : Consistent s) (o : ServiceId) :
    Consistent (s.finish o) := by
  unfold Pool.finish
  split
  · rename_i release ending
    have spec := releaseStep_spec inv (inv.releasing o release ending)
    generalize s.releaseStep o release = result at spec
    obtain ⟨⟨used, instance', index, made, ends, held⟩, next⟩ := result
    have keeps := fun p (release : Release) (allowed : release.Allows _) =>
      spec.keeps p allowed
    have empty := spec.empty
    obtain ⟨⟨making, endingSame, currentSame⟩, others, shrinks, allowed, done⟩ := spec
    obtain ⟨heldIndex, heldMade, taking, current, ended, releasing, gone⟩ := inv
    simp only at others shrinks allowed done making keeps empty endingSame currentSame
    subst making endingSame currentSame
    constructor <;> grind [Function.update_apply]
  · exact inv
  · exact inv

theorem consistent_step (s : Pool) (a : Action) (inv : Consistent s) : Consistent (step s a) := by
  cases a with
  | construct o => exact consistent_construct inv o
  | advance o => exact consistent_advance inv o
  | destroy o => exact consistent_destroy inv o
  | finish o => exact consistent_finish inv o

theorem consistent_init : Consistent Pool.init := by
  constructor <;> simp [Pool.init]

theorem holds_iff {s : Pool} (inv : Consistent s) (o : ServiceId) (slot : Nat) :
    Holds s o slot ↔ s.held o = some slot := by
  refine ⟨And.right, fun held => ⟨⟨?_, ?_⟩, held⟩⟩
  · intro unborn
    rcases inv.held_made o slot held with made | registered <;> simp_all
  · intro gone
    have none := inv.gone o gone
    simp_all

def HeldBy (s : Pool) (o : ServiceId) (slot : Nat) : Prop := s.held o = some slot

theorem unshared_iff {s : Pool} (inv : Consistent s) :
    Unshared s ↔ Exclusive s.used (HeldBy s) :=
  exclusive_congr (holds_iff inv)

theorem give_exact {s : Pool} (inv : Consistent s) (unshared : Exclusive s.used (HeldBy s))
    {o : ServiceId} {attempt : Nat} (waiting : s.making o = .allocating attempt) (slot : Nat) :
    Exclusive (s.give o slot).used (HeldBy (s.give o slot)) ↔ s.used slot = false := by
  have fresh : ∀ k, ¬ HeldBy s o k := by
    intro k held
    rcases inv.held_made o k held with made | registered <;> simp_all
  have given : (if (slot : Int) < 0 then 0 else (slot : Int)).toNat = slot := by omega
  rw [← take_iff unshared fresh slot]
  have used : (s.give o slot).used = Function.update s.used slot true := by
    unfold Pool.give
    rw [given]
  have held : (s.give o slot).held = Function.update s.held o (some slot) := by
    unfold Pool.give
    rw [given]
  rw [used]
  apply exclusive_congr
  intro p k
  unfold HeldBy
  rw [held, Function.update_apply]
  by_cases own : p = o
  · subst own
    have none := fresh k
    unfold HeldBy at none
    simp [none, eq_comm]
  · simp [own]

theorem releaseSlot_exact {s : Pool} (inv : Consistent s)
    (unshared : Exclusive s.used (HeldBy s)) (target : ServiceId) (slot : Int) :
    Exclusive (s.releaseSlot target slot).used (HeldBy (s.releaseSlot target slot)) ↔
      ClearsOwn s target (.clear slot) := by
  unfold ClearsOwn
  by_cases outside : slot < 0 ∨ slot ≥ stackCount
  · have same : s.releaseSlot target slot = s := if_pos outside
    rw [same]
    refine iff_of_true unshared ?_
    intro p _ k held equal
    have ⟨_, bound⟩ := inv.held_index p k held.2
    omega
  · have used : (s.releaseSlot target slot).used = Function.update s.used slot.toNat false := by
      unfold Pool.releaseSlot
      rw [if_neg outside]
    have held : ∀ p k, HeldBy (s.releaseSlot target slot) p k ↔
        HeldBy s p k ∧ ¬ (p = target ∧ k = slot.toNat) := by
      intro p k
      unfold HeldBy Pool.releaseSlot
      rw [if_neg outside]
      by_cases own : p = target
      · subst own
        by_cases mine : s.held p = some slot.toNat
        · simp [mine, eq_comm]
        · have other : s.held p = some k → k ≠ slot.toNat := fun here same => mine (same ▸ here)
          simp only [if_neg mine]
          grind
      · by_cases mine : s.held target = some slot.toNat
        · simp [mine, own]
        · simp [mine, own]
    rw [used, exclusive_congr held, clear_iff unshared target slot.toNat]
    constructor
    · intro alone p other k here equal
      apply alone p other
      have same : slot.toNat = k := by omega
      rw [same]
      exact here.2
    · intro alone p other here
      apply alone p other slot.toNat ((holds_iff inv p _).mpr here)
      omega

theorem releaseStep_exact {s : Pool} (inv : Consistent s)
    (unshared : Exclusive s.used (HeldBy s)) (target : ServiceId) (release : Release) :
    Exclusive (s.releaseStep target release).1.used (HeldBy (s.releaseStep target release).1) ↔
      ClearsOwn s target release := by
  cases release with
  | check => exact iff_of_true unshared trivial
  | read => exact iff_of_true unshared trivial
  | clear slot => exact releaseSlot_exact inv unshared target slot
  | write => exact iff_of_true unshared trivial

theorem construct_exact {s : Pool} (unshared : Exclusive s.used (HeldBy s)) (o : ServiceId) :
    Exclusive (s.construct o).used (HeldBy (s.construct o)) := by
  unfold Pool.construct
  split
  · split <;> exact unshared
  · exact unshared

theorem destroy_exact {s : Pool} (unshared : Exclusive s.used (HeldBy s)) (o : ServiceId) :
    Exclusive (s.destroy o).used (HeldBy (s.destroy o)) := by
  unfold Pool.destroy
  split <;> exact unshared

theorem allocate_exact {s : Pool} (inv : Consistent s) (unshared : Exclusive s.used (HeldBy s))
    {o : ServiceId} {attempt : Nat} (waiting : s.making o = .allocating attempt) :
    Exclusive (s.allocate o attempt).used (HeldBy (s.allocate o attempt)) ↔
      (attempt < maxWaitIterations ∨ s.used 0 = false) := by
  unfold Pool.allocate
  split
  · rename_i more
    refine iff_of_true ?_ (Or.inl more)
    split
    · rename_i slot found
      exact (give_exact inv unshared waiting slot).mpr (firstFree_spec found).2
    · exact unshared
  · rename_i last
    rw [or_iff_right last]
    exact give_exact inv unshared waiting 0

theorem advance_exact {s : Pool} (inv : Consistent s) (unshared : Exclusive s.used (HeldBy s))
    (o : ServiceId) :
    Exclusive (s.advance o).used (HeldBy (s.advance o)) ↔ Careful s (.advance o) := by
  unfold Pool.advance Careful
  dsimp only
  cases making : s.making o with
  | takingOver prev release => exact releaseStep_exact inv unshared prev release
  | allocating attempt => exact allocate_exact inv unshared making
  | made => exact iff_of_true unshared trivial
  | unborn => exact iff_of_true unshared trivial
  | registered => exact iff_of_true unshared trivial

theorem finish_exact {s : Pool} (inv : Consistent s) (unshared : Exclusive s.used (HeldBy s))
    (o : ServiceId) :
    Exclusive (s.finish o).used (HeldBy (s.finish o)) ↔ Careful s (.finish o) := by
  unfold Pool.finish Careful
  dsimp only
  cases ending : s.ending o with
  | releasing release => exact releaseStep_exact inv unshared o release
  | alive => exact iff_of_true unshared trivial
  | gone => exact iff_of_true unshared trivial

theorem unshared_step_iff {s : Pool} (a : Action) (inv : Consistent s) (unshared : Unshared s) :
    Unshared (step s a) ↔ Careful s a := by
  rw [unshared_iff (consistent_step s a inv)]
  rw [unshared_iff inv] at unshared
  cases a with
  | construct o => exact iff_of_true (construct_exact unshared o) trivial
  | advance o => exact advance_exact inv unshared o
  | destroy o => exact iff_of_true (destroy_exact unshared o) trivial
  | finish o => exact finish_exact inv unshared o

/-- Over any constructions and destructions, stacks are not shared exactly as long as
every step is careful. -/
theorem visited_unshared_iff (actions : List Action) :
    (∀ s ∈ visited step Pool.init actions, Unshared s) ↔
      StepsMeet step Careful Pool.init actions := by
  have start : Unshared Pool.init := by
    constructor
    · intro o p slot held
      exact absurd held.2 (by simp [Pool.init])
    · intro slot
      simp [Pool.init, Holds]
  exact visited_iff_stepsMeet_inv consistent_step (fun s a => unshared_step_iff a) consistent_init
    start actions

def twoReleases : List Action :=
  [.construct 0, .advance 0, .advance 0, .construct 1, .advance 1, .advance 1, .advance 1,
    .destroy 0, .finish 0, .finish 0, .advance 1, .advance 1, .finish 0]

theorem released_twice : ¬ ∀ s ∈ visited step Pool.init twoReleases, Unshared s := by
  intro unshared
  have last := unshared _ (foldl_mem_visited Pool.init twoReleases)
  have held : (twoReleases.foldl step Pool.init).held 1 = some 0 := by decide +kernel
  have live : (twoReleases.foldl step Pool.init).making 1 = .made ∧
      (twoReleases.foldl step Pool.init).ending 1 = .alive := by decide +kernel
  have clear : (twoReleases.foldl step Pool.init).used 0 = false := by decide +kernel
  have set := (last.flagged 0).mpr ⟨1, ⟨by simp [live.1], by simp [live.2]⟩, held⟩
  rw [clear] at set
  exact absurd set (by decide)

end RyuLdn.LdnStackSlots
