import Mathlib.Data.List.ReduceOption
import Mathlib.Data.List.Perm.Basic

/-! Arrays of owning pointers. A slot holds at most one owner; `reduceOption` lists
the owners in slot order. Occupying a free slot and vacating an occupied one add
and remove exactly one owner, up to the order in which the slots list them. -/
namespace RyuLdn.OwnerSlots

variable {α : Type*}

def firstFree (slots : List (Option α)) : Option Nat := slots.findIdx? Option.isNone

def slotOf [DecidableEq α] (slots : List (Option α)) (x : α) : Option Nat :=
  slots.findIdx? (· == some x)

theorem split_at {slots : List (Option α)} {i : Nat} {slot : Option α}
    (here : slots[i]? = some slot) :
    slots = slots.take i ++ slot :: slots.drop (i + 1) ∧
      ∀ other, slots.set i other = slots.take i ++ other :: slots.drop (i + 1) := by
  obtain ⟨bound, value⟩ := List.getElem?_eq_some_iff.mp here
  refine ⟨?_, ?_⟩
  · rw [← value, ← List.drop_eq_getElem_cons bound, List.take_append_drop]
  · intro other
    rw [List.set_eq_take_append_cons_drop, if_pos bound]

theorem occupy_perm {slots : List (Option α)} {i : Nat} (free : slots[i]? = some none) (x : α) :
    (slots.set i (some x)).reduceOption.Perm (x :: slots.reduceOption) := by
  obtain ⟨whole, update⟩ := split_at free
  rw [update, List.reduceOption_append, List.reduceOption_cons_of_some]
  nth_rewrite 3 [whole]
  rw [List.reduceOption_append, List.reduceOption_cons_of_none]
  exact List.perm_middle

theorem vacate_perm {slots : List (Option α)} {i : Nat} {x : α}
    (occupied : slots[i]? = some (some x)) :
    slots.reduceOption.Perm (x :: (slots.set i none).reduceOption) := by
  obtain ⟨whole, update⟩ := split_at occupied
  rw [update, List.reduceOption_append, List.reduceOption_cons_of_none]
  nth_rewrite 1 [whole]
  rw [List.reduceOption_append, List.reduceOption_cons_of_some]
  exact List.perm_middle

theorem firstFree_eq_some {slots : List (Option α)} {i : Nat} (found : firstFree slots = some i) :
    slots[i]? = some none := by
  obtain ⟨bound, free, _⟩ := List.findIdx?_eq_some_iff_getElem.mp found
  rw [List.getElem?_eq_getElem bound]
  simpa using free

theorem exists_firstFree {slots : List (Option α)}
    (room : slots.reduceOption.length < slots.length) : ∃ i, firstFree slots = some i := by
  cases found : firstFree slots with
  | some i => exact ⟨i, rfl⟩
  | none =>
      rw [firstFree, List.findIdx?_eq_none_iff] at found
      have free := List.reduceOption_length_lt_iff.mp room
      have := found none free
      simp at this

section

variable [DecidableEq α]

theorem slotOf_eq_some {slots : List (Option α)} {x : α} {i : Nat} (found : slotOf slots x = some i) :
    slots[i]? = some (some x) := by
  obtain ⟨bound, here, _⟩ := List.findIdx?_eq_some_iff_getElem.mp found
  rw [List.getElem?_eq_getElem bound]
  simpa using here

theorem slotOf_eq_none {slots : List (Option α)} {x : α} (missing : slotOf slots x = none) :
    x ∉ slots.reduceOption := by
  rw [slotOf, List.findIdx?_eq_none_iff] at missing
  rw [List.reduceOption_mem_iff]
  intro member
  have := missing _ member
  simp at this

end

end RyuLdn.OwnerSlots
