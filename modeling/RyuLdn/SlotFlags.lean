import Mathlib.Logic.Function.Basic

/-! Numbered slots with a flag each, and who holds them. The flags are right and nobody
shares a slot; the lemmas say when taking a slot and clearing a flag keep it so. -/
namespace RyuLdn.SlotFlags

variable {α β : Type*} {used : β → Bool} {holds : α → β → Prop}

structure Exclusive (used : β → Bool) (holds : α → β → Prop) : Prop where
  unshared : ∀ o p slot, holds o slot → holds p slot → o = p
  flagged : ∀ slot, used slot = true ↔ ∃ o, holds o slot

theorem exclusive_congr {holds' : α → β → Prop} (same : ∀ o slot, holds o slot ↔ holds' o slot) :
    Exclusive used holds ↔ Exclusive used holds' := by
  have equal : holds = holds' := by
    funext o slot
    exact propext (same o slot)
  rw [equal]

variable [DecidableEq β]

theorem take_iff (exclusive : Exclusive used holds) {o : α} (fresh : ∀ slot, ¬ holds o slot)
    (slot : β) : Exclusive (Function.update used slot true)
      (fun p k => holds p k ∨ (p = o ∧ k = slot)) ↔ used slot = false := by
  constructor
  · intro after
    by_contra taken
    have set : used slot = true := by simpa using taken
    have ⟨p, held⟩ := (exclusive.flagged slot).mp set
    have same := after.unshared p o slot (Or.inl held) (Or.inr ⟨rfl, rfl⟩)
    exact fresh slot (same ▸ held)
  · intro free
    have unheld : ∀ p, ¬ holds p slot := by
      intro p held
      have set := (exclusive.flagged slot).mpr ⟨p, held⟩
      rw [free] at set
      exact absurd set (by decide)
    constructor
    · intro p q k first second
      rcases first with held | ⟨newcomer, here⟩
      · rcases second with other | ⟨-, here⟩
        · exact exclusive.unshared p q k held other
        · exact absurd (here ▸ held) (unheld p)
      · rcases second with other | ⟨same, -⟩
        · exact absurd (here ▸ other) (unheld q)
        · rw [newcomer, same]
    · intro k
      by_cases here : k = slot
      · subst here
        rw [Function.update_self]
        exact iff_of_true rfl ⟨o, Or.inr ⟨rfl, rfl⟩⟩
      · rw [Function.update_of_ne here, exclusive.flagged k]
        simp [here]

theorem clear_iff (exclusive : Exclusive used holds) (t : α) (slot : β) :
    Exclusive (Function.update used slot false)
      (fun p k => holds p k ∧ ¬ (p = t ∧ k = slot)) ↔ ∀ p, p ≠ t → ¬ holds p slot := by
  constructor
  · intro after p other held
    have set := (after.flagged slot).mpr ⟨p, held, fun same => other same.1⟩
    rw [Function.update_self] at set
    exact absurd set (by decide)
  · intro alone
    constructor
    · intro p q k first second
      exact exclusive.unshared p q k first.1 second.1
    · intro k
      by_cases here : k = slot
      · subst here
        rw [Function.update_self]
        refine iff_of_false (by decide) ?_
        rintro ⟨p, held, other⟩
        exact alone p (fun same => other ⟨same, rfl⟩) held
      · rw [Function.update_of_ne here, exclusive.flagged k]
        simp [here]

end RyuLdn.SlotFlags
