import Mathlib.Data.List.Basic

/-! A queue in a fixed array: `count` live cells at the front, stale cells behind
them. The operations are the in-place loops a C array needs; the lemmas say what
each one does to the list of live entries. Stale cells matter to a caller that
keeps a reference into the array across an operation, so the cells themselves
stay visible. -/
namespace RyuLdn.ArrayQueue

variable {α : Type*}

/-- `for (j = first; j < first + steps; j++) cells[j] = cells[j + 1];` -/
def shiftLeft : (steps first : Nat) → List α → List α
  | 0, _, cells => cells
  | steps + 1, first, cells =>
      shiftLeft steps (first + 1)
        (match cells[first + 1]? with
        | some next => cells.set first next
        | none => cells)

/-- The compaction loop: `kept` entries satisfying `p` so far, `first` the next index. -/
def compact (p : α → Bool) : (steps first kept : Nat) → List α → Nat × List α
  | 0, _, kept, cells => (kept, cells)
  | steps + 1, first, kept, cells =>
      match cells[first]? with
      | some x =>
          if p x then
            compact p steps (first + 1) (kept + 1)
              (if kept = first then cells else cells.set kept x)
          else compact p steps (first + 1) kept cells
      | none => (kept, cells)

theorem getElem?_shiftLeft {steps first : Nat} {cells : List α}
    (bound : first + steps < cells.length) (k : Nat) :
    (shiftLeft steps first cells)[k]? =
      if first ≤ k ∧ k < first + steps then cells[k + 1]? else cells[k]? := by
  induction steps generalizing first cells with
  | zero => rw [shiftLeft, if_neg (by omega)]
  | succ steps ih =>
      have next : cells[first + 1]? = some (cells.get ⟨first + 1, by omega⟩) :=
        List.getElem?_eq_getElem (by omega)
      rw [shiftLeft, next, ih (by simp; omega)]
      simp only [List.getElem?_set]
      rcases Nat.lt_trichotomy k first with before | rfl | after
      · rw [if_neg (by omega), if_neg (by omega), if_neg (by omega)]
      · rw [if_neg (by omega), if_pos rfl, if_pos (by omega), if_pos (by omega), next]
      · rw [if_neg (show ¬ first = k + 1 by omega), if_neg (show ¬ first = k by omega)]
        by_cases inside : k < first + (steps + 1)
        · rw [if_pos (by omega), if_pos (by omega)]
        · rw [if_neg (by omega), if_neg (by omega)]

@[simp] theorem length_shiftLeft (steps first : Nat) (cells : List α) :
    (shiftLeft steps first cells).length = cells.length := by
  induction steps generalizing first cells with
  | zero => rfl
  | succ steps ih =>
      rw [shiftLeft, ih]
      split <;> simp

theorem take_shiftLeft {cells : List α} {i count : Nat} (live : i < count)
    (fits : count ≤ cells.length) :
    (shiftLeft (count - 1 - i) i cells).take (count - 1) = (cells.take count).eraseIdx i := by
  apply List.ext_getElem?
  intro k
  rw [List.getElem?_take, List.getElem?_eraseIdx, getElem?_shiftLeft (by omega)]
  simp only [List.getElem?_take]
  by_cases inside : k < count - 1
  · rw [if_pos inside]
    by_cases before : k < i
    · rw [if_neg (by omega), if_pos before, if_pos (by omega)]
    · rw [if_pos (by omega), if_neg before, if_pos (by omega)]
  · rw [if_neg inside, if_neg (by omega), if_neg (by omega)]

@[simp] theorem length_compact (p : α → Bool) (steps first kept : Nat) (cells : List α) :
    (compact p steps first kept cells).2.length = cells.length := by
  induction steps generalizing first kept cells with
  | zero => rfl
  | succ steps ih =>
      rw [compact]
      split
      · split
        · rw [ih]
          split <;> simp
        · exact ih _ _ _
      · rfl

theorem compact_le (p : α → Bool) (steps first kept : Nat) (cells : List α) :
    (compact p steps first kept cells).1 ≤ kept + steps := by
  induction steps generalizing first kept cells with
  | zero => simp [compact]
  | succ steps ih =>
      rw [compact]
      split
      · split
        · exact Nat.le_trans (ih _ _ _) (by omega)
        · exact Nat.le_trans (ih _ _ _) (by omega)
      · simp

theorem take_compact (p : α → Bool) {steps first kept : Nat} {cells : List α}
    (behind : kept ≤ first) (bound : first + steps ≤ cells.length) :
    (compact p steps first kept cells).2.take (compact p steps first kept cells).1 =
      cells.take kept ++ ((cells.drop first).take steps).filter p := by
  induction steps generalizing first kept cells with
  | zero => simp [compact]
  | succ steps ih =>
      have here : cells[first]? = some (cells.get ⟨first, by omega⟩) :=
        List.getElem?_eq_getElem (by omega)
      have rest : (cells.drop first).take (steps + 1) =
          cells.get ⟨first, by omega⟩ :: (cells.drop (first + 1)).take steps := by
        rw [List.drop_eq_getElem_cons (by omega), List.take_succ_cons]
        rfl
      generalize cells.get ⟨first, by omega⟩ = x at here rest
      rw [compact, here, rest]
      by_cases keep : p x
      · simp only [keep, if_true]
        have written : (if kept = first then cells else cells.set kept x).take (kept + 1) =
            cells.take kept ++ [x] := by
          split
          · rename_i same
            rw [List.take_add_one, same, here]
            rfl
          · rw [List.take_add_one, List.take_set_of_le (Nat.le_refl _), List.getElem?_set_self (by omega)]
            rfl
        have unread : (if kept = first then cells else cells.set kept x).drop (first + 1) =
            cells.drop (first + 1) := by
          split
          · rfl
          · rw [List.drop_set_of_lt (by omega)]
        have sameLength : (if kept = first then cells else cells.set kept x).length =
            cells.length := by
          split <;> simp
        rw [ih (by omega) (by omega), written, unread]
        simp [keep]
      · simp only [keep, if_false, Bool.false_eq_true]
        rw [ih (by omega) (by omega), List.filter_cons, if_neg keep]

@[ext] structure Queue (α : Type*) (capacity : Nat) where
  cells : List α
  count : Nat
  cells_length : cells.length = capacity
  count_le : count ≤ capacity

namespace Queue

variable {capacity : Nat}

def empty [Inhabited α] : Queue α capacity :=
  ⟨List.replicate capacity default, 0, List.length_replicate, Nat.zero_le _⟩

def entries (q : Queue α capacity) : List α := q.cells.take q.count

/-- Erase the entry at `i` by shifting everything behind it. -/
def removeAt (q : Queue α capacity) (i : Nat) : Queue α capacity where
  cells := shiftLeft (q.count - 1 - i) i q.cells
  count := q.count - 1
  cells_length := by rw [length_shiftLeft, q.cells_length]
  count_le := Nat.le_trans (Nat.sub_le _ _) q.count_le

def dropOldest (q : Queue α capacity) : Queue α capacity where
  cells := shiftLeft (capacity - 1) 0 q.cells
  count := q.count - 1
  cells_length := by rw [length_shiftLeft, q.cells_length]
  count_le := Nat.le_trans (Nat.sub_le _ _) q.count_le

/-- `cells[count++] = x`; the caller has made room. -/
def push (q : Queue α capacity) (x : α) : Queue α capacity :=
  if room : q.count < capacity then
    ⟨q.cells.set q.count x, q.count + 1, by rw [List.length_set, q.cells_length], room⟩
  else q

def keep (q : Queue α capacity) (p : α → Bool) : Queue α capacity where
  cells := (compact p q.count 0 0 q.cells).2
  count := (compact p q.count 0 0 q.cells).1
  cells_length := by rw [length_compact, q.cells_length]
  count_le := by
    have := compact_le p q.count 0 0 q.cells
    have := q.count_le
    omega

def clear (q : Queue α capacity) : Queue α capacity :=
  ⟨q.cells, 0, q.cells_length, Nat.zero_le _⟩

@[simp] theorem entries_clear (q : Queue α capacity) : q.clear.entries = [] := rfl

@[simp] theorem length_entries (q : Queue α capacity) : q.entries.length = q.count := by
  rw [entries, List.length_take, q.cells_length]
  exact Nat.min_eq_left q.count_le

theorem getElem?_entries (q : Queue α capacity) {i : Nat} (live : i < q.count) :
    q.entries[i]? = q.cells[i]? := by
  rw [entries, List.getElem?_take, if_pos live]

theorem entries_removeAt (q : Queue α capacity) {i : Nat} (live : i < q.count) :
    (q.removeAt i).entries = q.entries.eraseIdx i :=
  take_shiftLeft live (by rw [q.cells_length]; exact q.count_le)

theorem removeAt_cells (q : Queue α capacity) {i : Nat} (live : i < q.count) :
    (q.removeAt i).cells[i]? = if i + 1 < q.count then q.entries[i + 1]? else q.entries[i]? := by
  have fits := q.count_le
  rw [removeAt, getElem?_shiftLeft (by rw [q.cells_length]; omega)]
  by_cases more : i + 1 < q.count
  · rw [if_pos (by omega), if_pos more, getElem?_entries q more]
  · rw [if_neg (by omega), if_neg more, getElem?_entries q live]

theorem entries_dropOldest (q : Queue α capacity) (full : q.count = capacity) :
    q.dropOldest.entries = q.entries.tail := by
  rcases Nat.eq_zero_or_pos capacity with zero | positive
  · have none : q.count = 0 := by omega
    simp [entries, dropOldest, none]
  · have shifted := @take_shiftLeft _ q.cells 0 capacity positive
      (Nat.le_of_eq q.cells_length.symm)
    rw [List.eraseIdx_zero] at shifted
    rw [entries, entries, full]
    simpa [dropOldest, full] using shifted

theorem entries_push (q : Queue α capacity) (x : α) (room : q.count < capacity) :
    (q.push x).entries = q.entries ++ [x] := by
  have written : (q.cells.set q.count x)[q.count]? = some x :=
    List.getElem?_set_self (by rw [q.cells_length]; exact room)
  rw [push, dif_pos room]
  change (q.cells.set q.count x).take (q.count + 1) = q.entries ++ [x]
  rw [List.take_add_one, List.take_set_of_le (Nat.le_refl _), written]
  rfl

theorem entries_keep (q : Queue α capacity) (p : α → Bool) :
    (q.keep p).entries = q.entries.filter p := by
  have whole := take_compact p (Nat.le_refl 0)
    (show 0 + q.count ≤ q.cells.length by rw [q.cells_length, Nat.zero_add]; exact q.count_le)
  simpa [entries, keep] using whole

end Queue

end RyuLdn.ArrayQueue
