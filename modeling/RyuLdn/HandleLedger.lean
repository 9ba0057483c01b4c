import Mathlib.Data.List.Count
import Mathlib.Logic.Function.Basic

/-! Handles that an operating system gives out and takes back, and the keys that hold
them in between. A handle may be given out again once it is back, so the books are
kept by counting; the rules say which moves keep them balanced. -/
namespace RyuLdn.HandleLedger

variable {κ φ : Type*} [DecidableEq φ]

structure Ledger (κ φ : Type*) where
  given : List φ
  returned : List φ
  holder : κ → Option φ

structure Balanced (l : Ledger κ φ) : Prop where
  held : ∀ k f, l.holder k = some f → l.given.count f = l.returned.count f + 1
  idle : ∀ f, (∀ k, l.holder k ≠ some f) → l.given.count f = l.returned.count f
  unique : ∀ k k' f, l.holder k = some f → l.holder k' = some f → k = k'

theorem balanced_empty : Balanced (⟨[], [], fun _ => none⟩ : Ledger κ φ) where
  held := by simp
  idle := by simp
  unique := by simp

namespace Balanced

variable {l : Ledger κ φ} (balanced : Balanced l)
include balanced

theorem accounted (f : φ) :
    l.given.count f = l.returned.count f ∨
      l.given.count f = l.returned.count f + 1 ∧ ∃ k, l.holder k = some f ∧
        ∀ k', l.holder k' = some f → k' = k := by
  by_cases held : ∃ k, l.holder k = some f
  · obtain ⟨k, holds⟩ := held
    exact .inr ⟨balanced.held k f holds, k, holds,
      fun k' holds' => balanced.unique k' k f holds' holds⟩
  · exact .inl (balanced.idle f (not_exists.mp held))

theorem not_held {f : φ} (back : l.given.count f = l.returned.count f) (k : κ) :
    l.holder k ≠ some f := by
  intro holds
  have out := balanced.held k f holds
  omega

theorem giveBack [DecidableEq κ] (k : κ) :
    Balanced ⟨l.given, l.returned ++ (l.holder k).toList, Function.update l.holder k none⟩ := by
  cases holds : l.holder k with
  | none =>
      have same : Function.update l.holder k none = l.holder := by
        rw [← holds]
        exact Function.update_eq_self k l.holder
      rw [same, Option.toList_none, List.append_nil]
      exact balanced
  | some f =>
      have others : ∀ j g, Function.update l.holder k none j = some g →
          l.holder j = some g ∧ g ≠ f := by
        intro j g still
        by_cases same : j = k
        · rw [same, Function.update_self] at still
          cases still
        · rw [Function.update_of_ne same] at still
          refine ⟨still, ?_⟩
          rintro rfl
          exact same (balanced.unique j k g still holds)
      refine ⟨?_, ?_, ?_⟩
      · intro j g still
        obtain ⟨before, apart⟩ := others j g still
        rw [Option.toList_some, List.count_append, List.count_singleton,
          if_neg (by simpa using apart.symm)]
        exact balanced.held j g before
      · intro g nobody
        rw [Option.toList_some, List.count_append, List.count_singleton]
        by_cases same : g = f
        · rw [same, if_pos (by simp)]
          exact balanced.held k f holds
        · rw [if_neg (by simpa using Ne.symm same)]
          refine balanced.idle g ?_
          intro j before
          by_cases here : j = k
          · rw [here, holds] at before
            exact same (Option.some.inj before).symm
          · exact nobody j ((Function.update_of_ne here none l.holder).trans before)
      · intro j j' g first second
        exact balanced.unique j j' g (others j g first).1 (others j' g second).1

theorem giveOut [DecidableEq κ] {k : κ} {f : φ} (free : l.holder k = none)
    (back : l.given.count f = l.returned.count f) :
    Balanced ⟨l.given ++ [f], l.returned, Function.update l.holder k (some f)⟩ := by
  have nobody := balanced.not_held back
  have split : ∀ j g, Function.update l.holder k (some f) j = some g →
      j = k ∧ g = f ∨ j ≠ k ∧ g ≠ f ∧ l.holder j = some g := by
    intro j g now
    by_cases same : j = k
    · rw [same, Function.update_self] at now
      exact .inl ⟨same, (Option.some.inj now).symm⟩
    · rw [Function.update_of_ne same] at now
      refine .inr ⟨same, ?_, now⟩
      rintro rfl
      exact nobody j now
  refine ⟨?_, ?_, ?_⟩
  · intro j g now
    rw [List.count_append, List.count_singleton]
    rcases split j g now with ⟨_, rfl⟩ | ⟨_, apart, before⟩
    · rw [if_pos (by simp), back]
    · rw [if_neg (by simpa using apart.symm)]
      exact balanced.held j g before
  · intro g nobody'
    have apart : g ≠ f := by
      rintro rfl
      exact nobody' k (Function.update_self k (some g) l.holder)
    rw [List.count_append, List.count_singleton, if_neg (by simpa using apart.symm)]
    refine balanced.idle g ?_
    intro j before
    by_cases here : j = k
    · rw [here, free] at before
      cases before
    · exact nobody' j ((Function.update_of_ne here (some f) l.holder).trans before)
  · intro j j' g first second
    rcases split j g first with ⟨here, same⟩ | ⟨_, apart, before⟩
    · rcases split j' g second with ⟨here', _⟩ | ⟨_, apart', _⟩
      · rw [here, here']
      · exact absurd same apart'
    · rcases split j' g second with ⟨_, same⟩ | ⟨_, _, before'⟩
      · exact absurd same apart
      · exact balanced.unique j j' g before before'

theorem bounce (f : φ) : Balanced ⟨l.given ++ [f], l.returned ++ [f], l.holder⟩ := by
  refine ⟨?_, ?_, balanced.unique⟩
  · intro k g holds
    rw [List.count_append, List.count_append, balanced.held k g holds]
    omega
  · intro g nobody
    rw [List.count_append, List.count_append, balanced.idle g nobody]

end Balanced

end RyuLdn.HandleLedger
