import Mathlib.Algebra.BigOperators.Group.Finset.Basic

/-! Bitmasks stored in bytes, lowest bit first, and families of them. A position
past the last byte reads as clear and cannot be set. -/
namespace RyuLdn.BitMask

def bit (i : Nat) : UInt8 := 1 <<< UInt8.ofNat i

def test (mask : List UInt8) (i : Nat) : Bool :=
  match mask[i / 8]? with
  | some byte => byte &&& bit (i % 8) != 0
  | none => false

def set (mask : List UInt8) (i : Nat) : List UInt8 := mask.modify (i / 8) (· ||| bit (i % 8))

def clear (mask : List UInt8) : List UInt8 := mask.map fun _ => 0

def Fits (mask : List UInt8) (i : Nat) : Prop := i / 8 < mask.length

instance (mask : List UInt8) (i : Nat) : Decidable (Fits mask i) :=
  inferInstanceAs (Decidable (i / 8 < mask.length))

def count (mask : List UInt8) : Nat :=
  ((Finset.range (8 * mask.length)).filter fun i => test mask i = true).card

def Fresh (mask : List UInt8) (i : Nat) : Prop := Fits mask i ∧ test mask i = false

instance (mask : List UInt8) (i : Nat) : Decidable (Fresh mask i) :=
  inferInstanceAs (Decidable (Fits mask i ∧ test mask i = false))

theorem length_set (mask : List UInt8) (i : Nat) : (set mask i).length = mask.length :=
  List.length_modify ..

theorem fits_set (mask : List UInt8) (i j : Nat) : Fits (set mask i) j ↔ Fits mask j := by
  unfold Fits
  rw [length_set]

theorem or_bit_and_bit (byte : UInt8) {i j : Nat} (first : i < 8) (second : j < 8) :
    ((byte ||| bit i) &&& bit j != 0) = ((byte &&& bit j != 0) || decide (i = j)) := by
  have tables : ∀ i < 8, ∀ j < 8, bit j ≠ 0 ∧ bit i &&& bit j = if i = j then bit j else 0 := by
    decide
  obtain ⟨nonzero, overlap⟩ := tables i first j second
  have apart : (byte ||| bit i) &&& bit j = (byte &&& bit j) ||| (bit i &&& bit j) := by
    apply UInt8.toBitVec_inj.mp
    exact BitVec.and_or_distrib_right
  rw [apart, overlap]
  by_cases same : i = j
  · have raised : byte &&& bit j ||| bit j ≠ 0 := by
      rw [Ne, UInt8.or_eq_zero_iff]
      exact fun zero => nonzero zero.2
    simp [same, raised]
  · simp [same]

theorem test_set (mask : List UInt8) (i j : Nat) :
    test (set mask i) j = (test mask j || (decide (i = j) && decide (Fits mask i))) := by
  unfold test set
  rw [List.getElem?_modify]
  by_cases same : i / 8 = j / 8
  · cases found : mask[j / 8]? with
    | none =>
        have outside : ¬ Fits mask i := by
          unfold Fits
          rw [same]
          exact Nat.not_lt_of_le (List.getElem?_eq_none_iff.mp found)
        simp [outside]
    | some byte =>
        have inside : Fits mask i := by
          unfold Fits
          rw [same]
          exact (List.getElem?_eq_some_iff.mp found).1
        have position : i % 8 = j % 8 ↔ i = j := by omega
        simp only [Option.map_eq_map, Option.map_some, if_pos same, inside, decide_true,
          Bool.and_true, ← position]
        exact or_bit_and_bit byte (Nat.mod_lt _ (by decide)) (Nat.mod_lt _ (by decide))
  · have apart : i ≠ j := fun equal => same (by rw [equal])
    simp [same, apart]

theorem count_set (mask : List UInt8) (i : Nat) :
    count (set mask i) = count mask + if Fresh mask i then 1 else 0 := by
  unfold count
  rw [length_set]
  by_cases fresh : Fresh mask i
  · have added : (Finset.range (8 * mask.length)).filter (fun j => test (set mask i) j = true) =
        insert i ((Finset.range (8 * mask.length)).filter fun j => test mask j = true) := by
      ext j
      have inside : i < 8 * mask.length := by
        have fits : i / 8 < mask.length := fresh.1
        omega
      rw [Finset.mem_filter, Finset.mem_insert, Finset.mem_filter, test_set]
      by_cases same : j = i
      · simp [same, inside, fresh.1]
      · have apart : i ≠ j := fun equal => same equal.symm
        simp [same, apart]
    have absent : i ∉ (Finset.range (8 * mask.length)).filter fun j => test mask j = true := by
      simp [fresh.2]
    rw [if_pos fresh, added, Finset.card_insert_of_notMem absent]
  · have same : ∀ j, test (set mask i) j = test mask j := by
      intro j
      rw [test_set]
      by_cases here : i = j
      · subst here
        by_cases fits : Fits mask i
        · have on : test mask i = true := by
            by_contra off
            exact fresh ⟨fits, Bool.eq_false_iff.mpr off⟩
          simp [on]
        · simp [fits]
      · simp [here]
    simp only [same, if_neg fresh, Nat.add_zero]

theorem test_clear (mask : List UInt8) (i : Nat) : test (clear mask) i = false := by
  unfold test clear
  rw [List.getElem?_map]
  cases mask[i / 8]? <;> simp

theorem count_clear (mask : List UInt8) : count (clear mask) = 0 := by
  simp [count, test_clear]

theorem fresh_clear (mask : List UInt8) (i : Nat) : Fresh (clear mask) i ↔ Fits mask i := by
  unfold Fresh
  rw [test_clear]
  simp [Fits, clear]

section Family

variable {κ : Type*} [DecidableEq κ]

def setAt (masks : κ → List UInt8) (p : Nat × κ) : κ → List UInt8 :=
  Function.update masks p.2 (set (masks p.2) p.1)

def total [Fintype κ] (masks : κ → List UInt8) : Nat := ∑ k, count (masks k)

theorem total_setAt [Fintype κ] (masks : κ → List UInt8) (p : Nat × κ) :
    total (setAt masks p) = total masks + if Fresh (masks p.2) p.1 then 1 else 0 := by
  unfold total
  rw [← Finset.add_sum_erase _ _ (Finset.mem_univ p.2),
    ← Finset.add_sum_erase _ (fun k => count (masks k)) (Finset.mem_univ p.2)]
  have others : ∑ k ∈ Finset.univ.erase p.2, count (setAt masks p k) =
      ∑ k ∈ Finset.univ.erase p.2, count (masks k) := by
    apply Finset.sum_congr rfl
    intro k member
    rw [setAt, Function.update_of_ne (Finset.ne_of_mem_erase member)]
  have here : count (setAt masks p p.2) = count (masks p.2) +
      if Fresh (masks p.2) p.1 then 1 else 0 := by
    rw [setAt, Function.update_self, count_set]
  rw [others, here]
  omega

theorem fresh_setAt (masks : κ → List UInt8) {p q : Nat × κ} (apart : q ≠ p) :
    Fresh (setAt masks p q.2) q.1 ↔ Fresh (masks q.2) q.1 := by
  unfold setAt
  by_cases same : q.2 = p.2
  · have position : p.1 ≠ q.1 := fun equal => apart (Prod.ext equal.symm same)
    rw [same, Function.update_self]
    unfold Fresh
    rw [fits_set, test_set]
    simp [position]
  · rw [Function.update_of_ne same]

theorem total_foldl_setAt [Fintype κ] {positions : List (Nat × κ)} (nodup : positions.Nodup)
    (masks : κ → List UInt8) :
    total (positions.foldl setAt masks) =
      total masks + positions.countP fun p => decide (Fresh (masks p.2) p.1) := by
  induction positions generalizing masks with
  | nil => simp
  | cons p positions ih =>
      obtain ⟨absent, rest⟩ := List.nodup_cons.mp nodup
      have unchanged : positions.countP (fun q => decide (Fresh (setAt masks p q.2) q.1)) =
          positions.countP fun q => decide (Fresh (masks q.2) q.1) := by
        apply List.countP_congr
        intro q member
        have apart : q ≠ p := fun equal => absent (equal ▸ member)
        simp only [decide_eq_true_eq]
        exact fresh_setAt masks apart
      rw [List.foldl_cons, ih rest, unchanged, total_setAt, List.countP_cons]
      simp only [decide_eq_true_eq]
      omega

theorem total_foldl_setAt_eq_iff [Fintype κ] {positions : List (Nat × κ)}
    (nodup : positions.Nodup) (masks : κ → List UInt8) :
    total (positions.foldl setAt masks) = total masks + positions.length ↔
      ∀ p ∈ positions, Fresh (masks p.2) p.1 := by
  rw [total_foldl_setAt nodup, Nat.add_left_cancel_iff, List.countP_eq_length]
  simp only [decide_eq_true_eq]

end Family

end RyuLdn.BitMask
