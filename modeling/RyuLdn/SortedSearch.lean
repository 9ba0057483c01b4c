import Mathlib.Data.List.Destutter
import Mathlib.Data.List.Sort

/-! Looking a value up in a sorted list: the halving loop that finds its lower bound, the
membership test on top of it, and the list to search, sorted and without repetitions. -/
namespace RyuLdn.SortedSearch

variable {α : Type*} [LinearOrder α]

def lowerBound (xs : List α) (val : α) (first len : Nat) : Nat :=
  if 0 < len then
    let half := len / 2
    match xs[first + half]? with
    | none => first
    | some middle =>
        if middle < val then lowerBound xs val (first + half + 1) (len - half - 1)
        else lowerBound xs val first half
  else first
termination_by len
decreasing_by all_goals omega

def binarySearch (xs : List α) (val : α) : Bool :=
  match xs[lowerBound xs val 0 xs.length]? with
  | none => false
  | some found => !decide (val < found)

def sortUnique (xs : List α) : List α := (xs.mergeSort (· ≤ ·)).destutter (· ≠ ·)

/-- In front of `p` the elements are below the value, and from `q` on they are not. -/
structure Separates (xs : List α) (val : α) (p q : Nat) : Prop where
  inside : q ≤ xs.length
  below : ∀ i x, i < p → xs[i]? = some x → x < val
  above : ∀ i x, q ≤ i → xs[i]? = some x → val ≤ x

theorem le_of_sorted {xs : List α} (sorted : xs.Pairwise (· ≤ ·)) {i j : Nat} (le : i ≤ j) {x y : α}
    (first : xs[i]? = some x) (second : xs[j]? = some y) : x ≤ y := by
  obtain ⟨boundI, rfl⟩ := List.getElem?_eq_some_iff.mp first
  obtain ⟨boundJ, rfl⟩ := List.getElem?_eq_some_iff.mp second
  rcases Nat.eq_or_lt_of_le le with rfl | lt
  · exact le_rfl
  · exact List.pairwise_iff_getElem.mp sorted i j boundI boundJ lt

theorem lowerBound_separates {xs : List α} (sorted : xs.Pairwise (· ≤ ·)) {val : α}
    {first len : Nat} (start : Separates xs val first (first + len)) :
    Separates xs val (lowerBound xs val first len) (lowerBound xs val first len) := by
  induction first, len using lowerBound.induct xs val with
  | case1 first len positive half outside =>
      have bound := start.inside
      rw [List.getElem?_eq_none_iff] at outside
      omega
  | case2 first len positive half middle here low ih =>
      rw [lowerBound, if_pos positive]
      dsimp only
      rw [here]
      dsimp only
      rw [if_pos low]
      have far : first + half + 1 + (len - half - 1) = first + len := by omega
      refine ih ⟨?_, ?_, ?_⟩
      · rw [far]
        exact start.inside
      · intro i x before at_
        exact lt_of_le_of_lt (le_of_sorted sorted (Nat.le_of_lt_succ before) at_ here) low
      · rw [far]
        exact start.above
  | case3 first len positive half middle here high ih =>
      rw [lowerBound, if_pos positive]
      dsimp only
      rw [here]
      dsimp only
      rw [if_neg high]
      refine ih ⟨?_, start.below, ?_⟩
      · have bound := start.inside
        omega
      · intro i x behind at_
        exact le_trans (not_lt.mp high) (le_of_sorted sorted behind here at_)
  | case4 first len empty =>
      rw [lowerBound, if_neg empty]
      have none : len = 0 := by omega
      rwa [none] at start

theorem binarySearch_iff {xs : List α} (sorted : xs.Pairwise (· ≤ ·)) (val : α) :
    binarySearch xs val = true ↔ val ∈ xs := by
  have start : Separates xs val 0 (0 + xs.length) :=
    ⟨(Nat.zero_add _).le, by simp, by simp +contextual⟩
  have separates := lowerBound_separates sorted start
  unfold binarySearch
  generalize lowerBound xs val 0 xs.length = p at separates
  constructor
  · intro found
    cases here : xs[p]? with
    | none =>
        rw [here] at found
        cases found
    | some x =>
        rw [here] at found
        have notAbove : x ≤ val := by simpa using found
        have same : x = val := le_antisymm notAbove (separates.above p x le_rfl here)
        exact List.mem_of_getElem? (same ▸ here)
  · intro member
    obtain ⟨i, here⟩ := List.mem_iff_getElem?.mp member
    have behind : p ≤ i := by
      by_contra before
      exact lt_irrefl val (separates.below i val (Nat.not_le.mp before) here)
    obtain ⟨bound, _⟩ := List.getElem?_eq_some_iff.mp here
    rw [List.getElem?_eq_getElem (lt_of_le_of_lt behind bound)]
    have notAbove : xs[p] ≤ val :=
      le_of_sorted sorted behind (List.getElem?_eq_getElem _) here
    simpa using notAbove

theorem mem_destutter'_ne (a : α) (xs : List α) (x : α) :
    x ∈ xs.destutter' (· ≠ ·) a ↔ x = a ∨ x ∈ xs := by
  induction xs generalizing a with
  | nil => simp
  | cons b xs ih =>
      rw [List.destutter'_cons]
      split
      · rw [List.mem_cons, ih, List.mem_cons]
      · rename_i same
        rw [ne_eq, not_not] at same
        rw [ih, List.mem_cons, same, ← or_assoc, or_self]

theorem mem_sortUnique {xs : List α} {x : α} : x ∈ sortUnique xs ↔ x ∈ xs := by
  have kept : ∀ sorted : List α, x ∈ sorted.destutter (· ≠ ·) ↔ x ∈ sorted := by
    intro sorted
    cases sorted with
    | nil => rfl
    | cons a sorted => rw [List.destutter_cons', mem_destutter'_ne, List.mem_cons]
  rw [sortUnique, kept, List.mem_mergeSort]

theorem sortUnique_sorted (xs : List α) : (sortUnique xs).Pairwise (· ≤ ·) :=
  (List.pairwise_mergeSort' (· ≤ ·) xs).sublist (List.destutter_sublist _ _)

end RyuLdn.SortedSearch
