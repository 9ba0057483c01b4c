import Mathlib.Data.Option.Basic

/-! Sequential programs over a state that one non-recursive mutex guards. The
mutex is taken by scope, so whether it is held is known where a statement
stands; the only way to stop is to enter a second scope inside the first. -/
namespace RyuLdn.LockedProgram

variable {σ α β : Type}

def Program (σ α : Type) : Type := (held : Bool) → σ → Option (α × σ)

namespace Program

instance : Monad (Program σ) where
  pure a := fun _ s => some (a, s)
  bind p f := fun held s => (p held s).bind fun r => f r.1 held r.2

/-- `std::scoped_lock lock(mutex); body`. -/
def withLock (body : Program σ α) : Program σ α := fun held s => if held then none else body true s

def read (f : σ → α) : Program σ α := fun _ s => some (f s, s)

def update (f : σ → σ) : Program σ Unit := fun _ s => some ((), f s)

def discard (p : Program σ α) : Program σ Unit := do
  let _ ← p
  pure ()

def SelfDeadlocks (p : Program σ α) (s : σ) : Prop := p false s = none

instance (p : Program σ α) (s : σ) : Decidable (p.SelfDeadlocks s) :=
  inferInstanceAs (Decidable (p false s = none))

@[simp] theorem pure_apply (a : α) (held : Bool) (s : σ) :
    (pure a : Program σ α) held s = some (a, s) := rfl

@[simp] theorem bind_apply (p : Program σ α) (f : α → Program σ β) (held : Bool) (s : σ) :
    (p >>= f) held s = (p held s).bind fun r => f r.1 held r.2 := rfl

@[simp] theorem read_apply (f : σ → α) (held : Bool) (s : σ) : read f held s = some (f s, s) := rfl

@[simp] theorem update_apply (f : σ → σ) (held : Bool) (s : σ) :
    update f held s = some ((), f s) := rfl

@[simp] theorem withLock_free (body : Program σ α) (s : σ) : withLock body false s = body true s := rfl

@[simp] theorem withLock_held (body : Program σ α) (s : σ) : withLock body true s = none := rfl

theorem bind_eq_none {p : Program σ α} {f : α → Program σ β} {held : Bool} {s : σ}
    (total : ∀ a t, f a held t ≠ none) : (p >>= f) held s = none ↔ p held s = none := by
  rw [bind_apply]
  cases p held s with
  | none => simp
  | some r => simpa using total r.1 r.2

theorem discard_eq_some {p : Program σ α} {held : Bool} {s t : σ} :
    p.discard held s = some ((), t) ↔ ∃ a, p held s = some (a, t) := by
  rw [discard, bind_apply]
  cases p held s with
  | none => simp
  | some r => simp [Prod.ext_iff]

theorem discard_selfDeadlocks {p : Program σ α} {s : σ} :
    p.discard.SelfDeadlocks s ↔ p.SelfDeadlocks s :=
  bind_eq_none fun _ _ => by simp

def Ensures (p : Program σ α) (held : Bool) (s : σ) (post : α → σ → Prop) : Prop :=
  ∀ a t, p held s = some (a, t) → post a t

section Ensures

variable {held : Bool} {s : σ} {post : α → σ → Prop}

theorem Ensures.mono {p : Program σ α} {weaker : α → σ → Prop} (ensures : p.Ensures held s post)
    (le : ∀ a t, post a t → weaker a t) : p.Ensures held s weaker :=
  fun a t done => le a t (ensures a t done)

theorem Ensures.and {p : Program σ α} {also : α → σ → Prop} (first : p.Ensures held s post)
    (second : p.Ensures held s also) : p.Ensures held s fun a t => post a t ∧ also a t :=
  fun a t done => ⟨first a t done, second a t done⟩

@[simp] theorem ensures_pure {a : α} :
    (pure a : Program σ α).Ensures held s post ↔ post a s := by
  simp [Ensures]

@[simp] theorem ensures_bind {p : Program σ β} {f : β → Program σ α} :
    (p >>= f).Ensures held s post ↔
      p.Ensures held s fun b t => (f b).Ensures held t post := by
  unfold Ensures
  simp only [bind_apply, Option.bind_eq_some_iff, Prod.exists]
  constructor
  · intro all b t first a u second
    exact all a u ⟨b, t, first, second⟩
  · rintro all a u ⟨b, t, first, second⟩
    exact all b t first a u second

@[simp] theorem ensures_read {f : σ → α} : (read f).Ensures held s post ↔ post (f s) s := by
  simp [Ensures]

@[simp] theorem ensures_update {f : σ → σ} {post : Unit → σ → Prop} :
    (update f).Ensures held s post ↔ post () (f s) := by
  constructor
  · intro all
    exact all () (f s) rfl
  · rintro done ⟨⟩ t ended
    cases ended
    exact done

@[simp] theorem ensures_discard {p : Program σ α} {post : Unit → σ → Prop} :
    p.discard.Ensures held s post ↔ p.Ensures held s fun _ t => post () t := by
  rw [discard, ensures_bind]
  simp only [ensures_pure]

@[simp] theorem ensures_withLock {p : Program σ α} :
    (withLock p).Ensures false s post ↔ p.Ensures true s post := Iff.rfl

@[simp] theorem ensures_withLock_held {p : Program σ α} : (withLock p).Ensures true s post := by
  simp [Ensures]

end Ensures

def Refines {τ : Type} (abs : σ → τ) (p : Program σ α) (q : Program τ α) : Prop :=
  ∀ held s, q held (abs s) = (p held s).map fun r => (r.1, abs r.2)

section Refines

variable {τ : Type} {abs : σ → τ}

theorem refines_pure (a : α) : Refines abs (pure a) (pure a) := fun _ _ => rfl

theorem refines_bind {p : Program σ α} {q : Program τ α} {f : α → Program σ β}
    {g : α → Program τ β} (first : Refines abs p q) (second : ∀ a, Refines abs (f a) (g a)) :
    Refines abs (p >>= f) (q >>= g) := by
  intro held s
  rw [bind_apply, bind_apply, first held s]
  cases p held s with
  | none => rfl
  | some r => exact second r.1 held r.2

theorem refines_withLock {p : Program σ α} {q : Program τ α} (body : Refines abs p q) :
    Refines abs (withLock p) (withLock q) := by
  intro held s
  cases held with
  | true => rfl
  | false => exact body true s

theorem refines_read {f : σ → α} {g : τ → α} (same : ∀ s, g (abs s) = f s) :
    Refines abs (read f) (read g) := by
  intro held s
  rw [read_apply, read_apply, same]
  rfl

theorem refines_update {f : σ → σ} {g : τ → τ} (same : ∀ s, g (abs s) = abs (f s)) :
    Refines abs (update f) (update g) := by
  intro held s
  rw [update_apply, update_apply, same]
  rfl

theorem refines_read_bind {f : σ → Program σ α} {g : τ → Program τ α}
    (body : ∀ held s, g (abs s) held (abs s) = (f s held s).map fun r => (r.1, abs r.2)) :
    Refines abs (read id >>= f) (read id >>= g) := by
  intro held s
  exact body held s

end Refines

end Program

end RyuLdn.LockedProgram
