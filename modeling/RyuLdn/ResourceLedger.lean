import Mathlib.Logic.Basic
import Mathlib.Logic.Function.Basic
import Mathlib.Data.Option.Basic

/-! Three tables that have to agree: which keys are registered and the resource each
holds, which keys are known and whether they are marked as registered, and which
resources are taken. The rules say which joint updates keep them in agreement. -/
namespace RyuLdn.ResourceLedger

variable {κ ρ : Type*}

structure Ledger (κ ρ : Type*) where
  /-- `some r?` for a registered key, with the resource it holds, if any. -/
  holds : κ → Option (Option ρ)
  known : κ → Option Bool
  taken : ρ → Prop

structure Sound (l : Ledger κ ρ) : Prop where
  marked : ∀ k, (l.holds k).isSome ↔ l.known k = some true
  taken : ∀ r, l.taken r ↔ ∃ k, l.holds k = some (some r)
  unique : ∀ k k' r, l.holds k = some (some r) → l.holds k' = some (some r) → k = k'

namespace Sound

variable {l l' : Ledger κ ρ} (sound : Sound l)
include sound

theorem holds_none {k : κ} (unmarked : l.known k ≠ some true) : l.holds k = none := by
  rw [← Option.not_isSome_iff_eq_none, sound.marked]
  exact unmarked

theorem track {k : κ} (unregistered : l.holds k = none) (holds : l'.holds = l.holds)
    (known : ∀ j, j ≠ k → l'.known j = l.known j) (fresh : l'.known k = some false)
    (taken : ∀ r, l'.taken r ↔ l.taken r) : Sound l' := by
  refine ⟨?_, ?_, ?_⟩
  · intro j
    rw [holds]
    by_cases same : j = k
    · rw [same, unregistered, fresh]
      simp
    · rw [known j same, sound.marked]
  · intro r
    rw [taken, holds, sound.taken]
  · rw [holds]
    exact sound.unique

theorem acquire {k : κ} {o : Option ρ}
    (empty : l.holds k = none ∨ l.holds k = some none) (new : ∀ r, o = some r → ¬ l.taken r)
    (holds : ∀ j, j ≠ k → l'.holds j = l.holds j) (gained : l'.holds k = some o)
    (known : ∀ j, j ≠ k → l'.known j = l.known j) (mark : l'.known k = some true)
    (taken : ∀ r, l'.taken r ↔ l.taken r ∨ o = some r) : Sound l' := by
  have before : ∀ r, l.holds k ≠ some (some r) := by
    intro r held
    rcases empty with none | nothing
    · rw [none] at held
      cases held
    · rw [nothing] at held
      cases held
  refine ⟨?_, ?_, ?_⟩
  · intro j
    by_cases same : j = k
    · rw [same, gained, mark]
      simp
    · rw [holds j same, known j same, sound.marked]
  · intro r
    rw [taken, sound.taken]
    constructor
    · rintro (⟨j, held⟩ | own)
      · have apart : j ≠ k := fun same => before r (same ▸ held)
        exact ⟨j, by rw [holds j apart, held]⟩
      · exact ⟨k, by rw [gained, own]⟩
    · rintro ⟨j, held⟩
      by_cases same : j = k
      · rw [same, gained, Option.some.injEq] at held
        exact Or.inr held
      · rw [holds j same] at held
        exact Or.inl ⟨j, held⟩
  · -- the new resource has no other holder: it was not taken
    have alone : ∀ j r, j ≠ k → l'.holds j = some (some r) → l'.holds k ≠ some (some r) := by
      intro j r apart held own
      rw [gained, Option.some.injEq] at own
      rw [holds j apart] at held
      exact new r own ((sound.taken r).mpr ⟨j, held⟩)
    intro i j r first second
    by_cases left : i = k
    · by_cases right : j = k
      · rw [left, right]
      · exact absurd (left ▸ first) (alone j r right second)
    · by_cases right : j = k
      · exact absurd (right ▸ second) (alone i r left first)
      · rw [holds i left] at first
        rw [holds j right] at second
        exact sound.unique i j r first second

theorem release (gone : κ → Prop) (holds : ∀ j, ¬ gone j → l'.holds j = l.holds j)
    (dropped : ∀ j, gone j → l'.holds j = none)
    (known : ∀ j, ¬ gone j → l'.known j = l.known j) (forgot : ∀ j, gone j → l'.known j = none)
    (taken : ∀ r, l'.taken r ↔ l.taken r ∧ ¬ ∃ j, gone j ∧ l.holds j = some (some r)) :
    Sound l' := by
  refine ⟨?_, ?_, ?_⟩
  · intro j
    by_cases out : gone j
    · rw [dropped j out, forgot j out]
      simp
    · rw [holds j out, known j out, sound.marked]
  · intro r
    rw [taken, sound.taken]
    constructor
    · rintro ⟨⟨j, held⟩, kept⟩
      have stays : ¬ gone j := fun out => kept ⟨j, out, held⟩
      exact ⟨j, by rw [holds j stays, held]⟩
    · rintro ⟨j, held⟩
      have stays : ¬ gone j := by
        intro out
        rw [dropped j out] at held
        cases held
      rw [holds j stays] at held
      refine ⟨⟨j, held⟩, ?_⟩
      rintro ⟨i, out, same⟩
      exact stays (sound.unique i j r same held ▸ out)
  · intro i j r first second
    have stays : ∀ {k}, l'.holds k = some (some r) → ¬ gone k := by
      intro k held out
      rw [dropped k out] at held
      cases held
    rw [holds i (stays first)] at first
    rw [holds j (stays second)] at second
    exact sound.unique i j r first second

theorem congr (holds : l'.holds = l.holds) (known : l'.known = l.known)
    (taken : ∀ r, l'.taken r ↔ l.taken r) : Sound l' :=
  ⟨by rw [holds, known]; exact sound.marked, by intro r; rw [taken, holds, sound.taken],
    by rw [holds]; exact sound.unique⟩

end Sound

end RyuLdn.ResourceLedger
