import Mathlib.Data.List.OfFn
import Mathlib.Data.Nat.ModEq

/-! A ring of `capacity` slots with a read index, a write index and a count. The
record carries the relation between the three, so a ring is always the list of
its live entries: slot `(head + i) % capacity` holds entry `i`. Slots outside
the live range keep their old values, as in the arrays such rings live in.

Loops over the live entries come in two kinds: one that only reads, and one that
compacts the ring in place while it reads. -/
namespace RyuLdn.RingBuffer

structure Ring (α : Type) (capacity : Nat) where
  slots : Vector α capacity
  head : Nat
  tail : Nat
  count : Nat
  head_lt : head < capacity
  count_le : count ≤ capacity
  tail_eq : tail = (head + count) % capacity
  deriving DecidableEq

variable {α : Type} {capacity : Nat}

def mostRecent (n : Nat) (l : List α) : List α := l.drop (l.length - n)

theorem mostRecent_of_length_le {n : Nat} {l : List α} (short : l.length ≤ n) :
    mostRecent n l = l := by
  rw [mostRecent, Nat.sub_eq_zero_of_le short, List.drop_zero]

theorem mostRecent_suffix (n : Nat) (l : List α) : mostRecent n l <:+ l := List.drop_suffix _ _

theorem mostRecent_append_singleton (n : Nat) (l : List α) (x : α) :
    mostRecent n (mostRecent n l ++ [x]) = mostRecent n (l ++ [x]) := by
  rcases Nat.lt_or_ge n l.length with long | short
  · unfold mostRecent
    simp only [List.length_append, List.length_drop, List.length_singleton]
    rw [List.drop_append, List.drop_append, List.drop_drop, List.length_drop]
    congr 2 <;> omega
  · rw [mostRecent_of_length_le short]

namespace Ring

theorem capacity_pos (ring : Ring α capacity) : 0 < capacity :=
  Nat.lt_of_le_of_lt (Nat.zero_le _) ring.head_lt

def slot (ring : Ring α capacity) (offset : Nat) : Fin capacity :=
  ⟨(ring.head + offset) % capacity, Nat.mod_lt _ ring.capacity_pos⟩

def entry (ring : Ring α capacity) (offset : Nat) : α := ring.slots[ring.slot offset]

def toList (ring : Ring α capacity) : List α := List.ofFn fun i : Fin ring.count => ring.entry i

def fill (initial : α) (pos : 0 < capacity) : Ring α capacity where
  slots := Vector.replicate capacity initial
  head := 0
  tail := 0
  count := 0
  head_lt := pos
  count_le := Nat.zero_le _
  tail_eq := (Nat.zero_mod _).symm

def clear (ring : Ring α capacity) : Ring α capacity where
  slots := ring.slots
  head := 0
  tail := 0
  count := 0
  head_lt := ring.capacity_pos
  count_le := Nat.zero_le _
  tail_eq := (Nat.zero_mod _).symm

def front (ring : Ring α capacity) : Option α :=
  if ring.count = 0 then none else some (ring.entry 0)

def push (ring : Ring α capacity) (x : α) (room : ring.count < capacity) : Ring α capacity where
  slots := ring.slots.set ring.tail x (by rw [ring.tail_eq]; exact Nat.mod_lt _ ring.capacity_pos)
  head := ring.head
  tail := (ring.tail + 1) % capacity
  count := ring.count + 1
  head_lt := ring.head_lt
  count_le := room
  tail_eq := by rw [ring.tail_eq, Nat.mod_add_mod, Nat.add_assoc]

def pop (ring : Ring α capacity) : Ring α capacity :=
  if some : 0 < ring.count then
    { slots := ring.slots
      head := (ring.head + 1) % capacity
      tail := ring.tail
      count := ring.count - 1
      head_lt := Nat.mod_lt _ ring.capacity_pos
      count_le := le_trans (Nat.sub_le _ _) ring.count_le
      tail_eq := by
        rw [ring.tail_eq, Nat.mod_add_mod]
        congr 1
        omega }
  else ring

def pushDropping (ring : Ring α capacity) (x : α) : Ring α capacity :=
  if room : ring.count < capacity then ring.push x room
  else ring.pop.push x (by
    have := ring.capacity_pos
    have := ring.count_le
    simp only [pop]
    split <;> simp <;> omega)

@[simp] theorem length_toList (ring : Ring α capacity) : ring.toList.length = ring.count := by
  simp [toList]

@[simp] theorem toList_fill (initial : α) (pos : 0 < capacity) :
    (fill initial pos).toList = [] := by
  simp [toList, fill]

@[simp] theorem toList_clear (ring : Ring α capacity) : ring.clear.toList = [] := by
  simp [toList, clear]

@[simp] theorem count_push (ring : Ring α capacity) (x : α) (room : ring.count < capacity) :
    (ring.push x room).count = ring.count + 1 := rfl

@[simp] theorem count_pop (ring : Ring α capacity) : ring.pop.count = ring.count - 1 := by
  unfold pop
  split
  · rfl
  · omega

theorem front_eq_head? (ring : Ring α capacity) : ring.front = ring.toList.head? := by
  unfold front toList
  split
  · rename_i empty
    rw [List.head?_eq_getElem?, List.getElem?_eq_none (by simp [empty])]
  · rename_i some
    rw [List.head?_eq_getElem?, List.getElem?_eq_getElem (by simp; omega)]
    simp

theorem slot_inj (ring : Ring α capacity) {i j : Nat} (first : i < capacity) (second : j < capacity)
    (same : ring.slot i = ring.slot j) : i = j := by
  have residues : (ring.head + i) % capacity = (ring.head + j) % capacity := congrArg Fin.val same
  have close : i ≡ j [MOD capacity] := Nat.ModEq.add_left_cancel' ring.head residues
  rwa [Nat.ModEq, Nat.mod_eq_of_lt first, Nat.mod_eq_of_lt second] at close

theorem entry_push (ring : Ring α capacity) (x : α) (room : ring.count < capacity) {i : Nat}
    (live : i ≤ ring.count) :
    (ring.push x room).entry i = if i = ring.count then x else ring.entry i := by
  unfold entry
  have slots : (ring.push x room).slots[(ring.push x room).slot i] =
      if ring.slot ring.count = ring.slot i then x else ring.slots[ring.slot i] := by
    simp only [push, slot, Fin.getElem_fin, Vector.getElem_set, Fin.mk.injEq, ring.tail_eq]
  rw [slots]
  by_cases last : i = ring.count
  · rw [if_pos (by rw [last]), if_pos last]
  · have apart : ring.slot ring.count ≠ ring.slot i :=
      fun same => last (ring.slot_inj room (by omega) same).symm
    rw [if_neg apart, if_neg last]

theorem toList_push (ring : Ring α capacity) (x : α) (room : ring.count < capacity) :
    (ring.push x room).toList = ring.toList ++ [x] := by
  apply List.ext_getElem
  · simp
  · intro i first second
    have live : i ≤ ring.count := by
      rw [length_toList, count_push] at first
      omega
    simp only [toList, List.getElem_ofFn, List.getElem_append, List.length_ofFn]
    show (ring.push x room).entry i = _
    rw [entry_push ring x room live]
    by_cases last : i = ring.count
    · simp [last]
    · have inside : i < ring.count := by omega
      simp [last, inside]

theorem toList_pop (ring : Ring α capacity) : ring.pop.toList = ring.toList.tail := by
  apply List.ext_getElem
  · simp
  · intro i first second
    have some : 0 < ring.count := by
      rw [length_toList, count_pop] at first
      omega
    simp only [toList, List.getElem_ofFn, List.getElem_tail, entry, slot, pop, some, dif_pos,
      Fin.getElem_fin, Nat.mod_add_mod]
    congr 2
    show ring.head + 1 + i = ring.head + (i + 1)
    omega

theorem toList_pushDropping_eq (ring : Ring α capacity) (x : α) :
    (ring.pushDropping x).toList = mostRecent capacity (ring.toList ++ [x]) := by
  have bound := ring.count_le
  unfold pushDropping mostRecent
  split
  · rw [toList_push, List.length_append, length_toList, List.length_singleton,
      Nat.sub_eq_zero_of_le (by omega), List.drop_zero]
  · have one : (ring.toList ++ [x]).length - capacity = 1 := by
      rw [List.length_append, length_toList, List.length_singleton]
      omega
    have some : 1 ≤ ring.toList.length := by
      have := ring.capacity_pos
      rw [length_toList]
      omega
    rw [toList_push, toList_pop, one, List.drop_append_of_le_length some, List.drop_one]

theorem toList_pushDropping (ring : Ring α capacity) (x : α) :
    (ring.pushDropping x).toList =
      (if ring.count < capacity then ring.toList else ring.toList.tail) ++ [x] := by
  unfold pushDropping
  split
  · rw [toList_push]
  · rw [toList_push, toList_pop]

theorem pushDropping_inj (ring : Ring α capacity) {x y : α} :
    ring.pushDropping x = ring.pushDropping y ↔ x = y := by
  constructor
  · intro same
    have entries := congrArg toList same
    rw [toList_pushDropping, toList_pushDropping, List.append_right_inj] at entries
    exact List.singleton_inj.mp entries
  · exact congrArg _

theorem pushDropping_ne (ring : Ring α capacity) (x : α) (many : 1 < capacity) :
    ring.pushDropping x ≠ ring := by
  intro same
  unfold pushDropping at same
  split at same
  · have counts := congrArg count same
    rw [count_push] at counts
    omega
  · rename_i full
    have some : 0 < ring.count := by
      have := ring.capacity_pos
      omega
    have heads : (ring.head + 1) % capacity = ring.head := by
      have moved := congrArg head same
      simpa only [push, pop, some, dif_pos] using moved
    have bound := ring.head_lt
    rcases Nat.lt_or_ge (ring.head + 1) capacity with inside | last
    · rw [Nat.mod_eq_of_lt inside] at heads
      omega
    · have wraps : ring.head + 1 = capacity := by omega
      rw [wraps, Nat.mod_self] at heads
      omega

end Ring

-- An index walks from slot to slot with `(i + 1) % capacity`; `window` lists the entries
-- that such a walk reads.

def wrap (pos : 0 < capacity) (n : Nat) : Fin capacity := ⟨n % capacity, Nat.mod_lt _ pos⟩

def next (i : Fin capacity) : Fin capacity := wrap i.pos (i + 1)

@[simp] theorem next_wrap (pos : 0 < capacity) (n : Nat) : next (wrap pos n) = wrap pos (n + 1) :=
  Fin.ext (Nat.mod_add_mod n capacity 1)

theorem wrap_ne {pos : 0 < capacity} {n m : Nat} (before : n < m) (close : m < n + capacity) :
    wrap pos m ≠ wrap pos n := by
  intro same
  have residues : m % capacity = n % capacity := congrArg Fin.val same
  have gap : capacity ∣ m - n := Nat.dvd_of_mod_eq_zero (Nat.sub_mod_eq_zero_of_mod_eq residues)
  have far := Nat.le_of_dvd (by omega) gap
  omega

def cell (slots : Vector α capacity) (i : Fin capacity) : α := slots[i]

def put (slots : Vector α capacity) (i : Fin capacity) (x : α) : Vector α capacity :=
  slots.set i x i.isLt

theorem cell_put (slots : Vector α capacity) (i j : Fin capacity) (x : α) :
    cell (put slots i x) j = if i = j then x else cell slots j := by
  unfold cell put
  rw [Fin.getElem_fin, Fin.getElem_fin, Vector.getElem_set]
  simp only [Fin.ext_iff]

theorem put_cell (slots : Vector α capacity) (i : Fin capacity) :
    put slots i (cell slots i) = slots :=
  Vector.set_getElem_self _

def window (pos : 0 < capacity) (slots : Vector α capacity) : (start length : Nat) → List α
  | _, 0 => []
  | start, length + 1 => cell slots (wrap pos start) :: window pos slots (start + 1) length

section Window

variable {pos : 0 < capacity} {slots : Vector α capacity}

@[simp] theorem length_window (start length : Nat) :
    (window pos slots start length).length = length := by
  induction length generalizing start with
  | zero => rfl
  | succ length ih => rw [window, List.length_cons, ih]

theorem window_append (start first second : Nat) :
    window pos slots start (first + second) =
      window pos slots start first ++ window pos slots (start + first) second := by
  induction first generalizing start with
  | zero => simp [window]
  | succ first ih =>
      rw [Nat.add_right_comm, window, window, ih, List.cons_append]
      congr 3
      omega

theorem getElem_window {start length i : Nat} (inside : i < (window pos slots start length).length) :
    (window pos slots start length)[i] = cell slots (wrap pos (start + i)) := by
  induction length generalizing start i with
  | zero => simp [window] at inside
  | succ length ih =>
      cases i with
      | zero => rfl
      | succ i =>
          have moved := @ih (start + 1) i (by simpa using inside)
          simp only [window, List.getElem_cons_succ, moved]
          congr 2
          omega

theorem window_put {start length : Nat} {i : Fin capacity} {x : α}
    (outside : ∀ j < length, wrap pos (start + j) ≠ i) :
    window pos (put slots i x) start length = window pos slots start length := by
  induction length generalizing start with
  | zero => rfl
  | succ length ih =>
      have apart : i ≠ wrap pos start := (outside 0 (by omega)).symm
      rw [window, window, cell_put, if_neg apart, ih]
      intro j inside
      rw [Nat.add_right_comm, Nat.add_assoc]
      exact outside (j + 1) (by omega)

theorem window_put_last {start length : Nat} (room : length < capacity) (x : α) :
    window pos (put slots (wrap pos (start + length)) x) start (length + 1) =
      window pos slots start length ++ [x] := by
  have front : window pos (put slots (wrap pos (start + length)) x) start length =
      window pos slots start length := by
    apply window_put
    intro j inside
    exact (wrap_ne (by omega) (by omega)).symm
  rw [window_append, front, window, cell_put, if_pos rfl]
  rfl

end Window

/-- `for (i = 0, idx = read; i < n; i++) { acc = visit(acc, ring[idx]); advance idx; }` -/
def foldLoop {β : Type} (visit : β → α → β) (slots : Vector α capacity) :
    (remaining : Nat) → (read : Fin capacity) → β → β
  | 0, _, acc => acc
  | remaining + 1, read, acc =>
      foldLoop visit slots remaining (next read) (visit acc (cell slots read))

theorem foldLoop_wrap {β : Type} (visit : β → α → β) (slots : Vector α capacity)
    (pos : 0 < capacity) (remaining start : Nat) (acc : β) :
    foldLoop visit slots remaining (wrap pos start) acc =
      (window pos slots start remaining).foldl visit acc := by
  induction remaining generalizing start acc with
  | zero => rfl
  | succ remaining ih => rw [foldLoop, next_wrap, ih, window, List.foldl_cons]

/-- The state of a compaction loop: where it reads and writes, how many entries it
kept and what the visited entries have made of `acc`. -/
structure Compaction (α β : Type) (capacity : Nat) where
  slots : Vector α capacity
  readIdx : Fin capacity
  writeIdx : Fin capacity
  kept : Nat
  acc : β

def Compaction.turn {β : Type} (keep : α → Bool) (visit : β → α → β)
    (c : Compaction α β capacity) : Compaction α β capacity :=
  let entry := cell c.slots c.readIdx
  if keep entry then
    { slots := if c.writeIdx ≠ c.readIdx then put c.slots c.writeIdx entry else c.slots
      readIdx := next c.readIdx
      writeIdx := next c.writeIdx
      kept := c.kept + 1
      acc := visit c.acc entry }
  else { c with readIdx := next c.readIdx, acc := visit c.acc entry }

/-- `while (remaining > 0) { … remaining--; }` -/
def compactLoop {β : Type} (keep : α → Bool) (visit : β → α → β) :
    (remaining : Nat) → Compaction α β capacity → Compaction α β capacity
  | 0, c => c
  | remaining + 1, c => compactLoop keep visit remaining (c.turn keep visit)

theorem Compaction.turn_of_keep {β : Type} {keep : α → Bool} (visit : β → α → β)
    {c : Compaction α β capacity} (stays : keep (cell c.slots c.readIdx) = true) :
    c.turn keep visit =
      ⟨put c.slots c.writeIdx (cell c.slots c.readIdx), next c.readIdx, next c.writeIdx,
        c.kept + 1, visit c.acc (cell c.slots c.readIdx)⟩ := by
  rw [turn, if_pos stays]
  split_ifs with same
  · rfl
  · rw [not_not] at same
    rw [same, put_cell]

theorem Compaction.turn_of_drop {β : Type} {keep : α → Bool} (visit : β → α → β)
    {c : Compaction α β capacity} (goes : ¬ keep (cell c.slots c.readIdx) = true) :
    c.turn keep visit =
      { c with readIdx := next c.readIdx, acc := visit c.acc (cell c.slots c.readIdx) } := by
  rw [turn, if_neg goes]

theorem compactLoop_spec {β : Type} (keep : α → Bool) (visit : β → α → β) (pos : 0 < capacity)
    (head remaining seen : Nat) (c : Compaction α β capacity) (inside : seen + remaining ≤ capacity)
    (kept : c.kept ≤ seen) (read : c.readIdx = wrap pos (head + seen))
    (write : c.writeIdx = wrap pos (head + c.kept)) :
    let unread := window pos c.slots (head + seen) remaining
    let done := compactLoop keep visit remaining c
    done.kept = c.kept + (unread.filter keep).length ∧
      done.writeIdx = wrap pos (head + done.kept) ∧
      window pos done.slots head done.kept =
        window pos c.slots head c.kept ++ unread.filter keep ∧
      done.acc = unread.foldl visit c.acc := by
  induction remaining generalizing seen c with
  | zero => simp [compactLoop, window, write]
  | succ remaining ih =>
      have readOn : next c.readIdx = wrap pos (head + (seen + 1)) := by
        rw [read, next_wrap, Nat.add_assoc]
      by_cases stays : keep (cell c.slots c.readIdx) = true
      · have turn := Compaction.turn_of_keep visit stays
        have later : window pos (put c.slots c.writeIdx (cell c.slots c.readIdx)) (head + seen + 1)
            remaining = window pos c.slots (head + seen + 1) remaining := by
          apply window_put
          intro j unread
          rw [write]
          exact wrap_ne (by omega) (by omega)
        have front : window pos (put c.slots c.writeIdx (cell c.slots c.readIdx)) head (c.kept + 1) =
            window pos c.slots head c.kept ++ [cell c.slots c.readIdx] := by
          rw [write]
          exact window_put_last (by omega) _
        have rest := ih (seen + 1) (c.turn keep visit) (by omega) (by rw [turn]; dsimp only; omega)
          (by rw [turn]; exact readOn)
          (by rw [turn]; dsimp only; rw [write, next_wrap, Nat.add_assoc])
        rw [compactLoop]
        rw [turn] at rest ⊢
        dsimp only at rest ⊢
        rw [← Nat.add_assoc, later, front] at rest
        rw [window, ← read, List.filter_cons_of_pos stays, List.length_cons, List.foldl_cons]
        refine ⟨by omega, rest.2.1, ?_, rest.2.2.2⟩
        rw [rest.2.2.1, List.append_assoc, List.singleton_append]
      · have turn := Compaction.turn_of_drop visit stays
        have rest := ih (seen + 1) (c.turn keep visit) (by omega) (by rw [turn]; dsimp only; omega)
          (by rw [turn]; exact readOn) (by rw [turn]; exact write)
        rw [compactLoop]
        rw [turn] at rest ⊢
        dsimp only at rest ⊢
        rw [← Nat.add_assoc] at rest
        rw [window, ← read, List.filter_cons_of_neg stays, List.foldl_cons]
        exact rest

namespace Ring

theorem toList_eq_window (ring : Ring α capacity) :
    ring.toList = window ring.capacity_pos ring.slots ring.head ring.count := by
  apply List.ext_getElem
  · simp
  · intro i first second
    rw [getElem_window second]
    simp only [toList, List.getElem_ofFn]
    rfl

theorem head_eq_wrap (ring : Ring α capacity) :
    (⟨ring.head, ring.head_lt⟩ : Fin capacity) = wrap ring.capacity_pos ring.head :=
  Fin.ext (Nat.mod_eq_of_lt ring.head_lt).symm

def foldl {β : Type} (ring : Ring α capacity) (visit : β → α → β) (acc : β) : β :=
  foldLoop visit ring.slots ring.count ⟨ring.head, ring.head_lt⟩ acc

theorem foldl_eq {β : Type} (ring : Ring α capacity) (visit : β → α → β) (acc : β) :
    ring.foldl visit acc = ring.toList.foldl visit acc := by
  rw [foldl, head_eq_wrap, foldLoop_wrap, toList_eq_window]

def compaction {β : Type} (ring : Ring α capacity) (keep : α → Bool) (visit : β → α → β) (acc : β) :
    Compaction α β capacity :=
  compactLoop keep visit ring.count
    ⟨ring.slots, ⟨ring.head, ring.head_lt⟩, ⟨ring.head, ring.head_lt⟩, 0, acc⟩

theorem compaction_spec {β : Type} (ring : Ring α capacity) (keep : α → Bool)
    (visit : β → α → β) (acc : β) :
    let done := ring.compaction keep visit acc
    done.kept = (ring.toList.filter keep).length ∧
      done.writeIdx = wrap ring.capacity_pos (ring.head + done.kept) ∧
      window ring.capacity_pos done.slots ring.head done.kept = ring.toList.filter keep ∧
      done.acc = ring.toList.foldl visit acc := by
  have spec := compactLoop_spec keep visit ring.capacity_pos ring.head ring.count 0
    ⟨ring.slots, ⟨ring.head, ring.head_lt⟩, ⟨ring.head, ring.head_lt⟩, 0, acc⟩
    (by have := ring.count_le; omega) le_rfl ring.head_eq_wrap ring.head_eq_wrap
  rw [toList_eq_window]
  simp only [Nat.add_zero, Nat.zero_add, window, List.nil_append] at spec
  exact spec

/-- `tail = write_idx; count = kept;`; the head stays where it is. -/
def compact {β : Type} (ring : Ring α capacity) (keep : α → Bool) (visit : β → α → β) (acc : β) :
    Ring α capacity × β :=
  ({ slots := (ring.compaction keep visit acc).slots
     head := ring.head
     tail := (ring.compaction keep visit acc).writeIdx
     count := (ring.compaction keep visit acc).kept
     head_lt := ring.head_lt
     count_le := by
       rw [(ring.compaction_spec keep visit acc).1]
       exact le_trans (List.length_filter_le _ _) (by rw [length_toList]; exact ring.count_le)
     tail_eq := congrArg Fin.val (ring.compaction_spec keep visit acc).2.1 },
   (ring.compaction keep visit acc).acc)

theorem toList_compact {β : Type} (ring : Ring α capacity) (keep : α → Bool)
    (visit : β → α → β) (acc : β) :
    (ring.compact keep visit acc).1.toList = ring.toList.filter keep := by
  rw [toList_eq_window]
  exact (ring.compaction_spec keep visit acc).2.2.1

theorem compact_snd {β : Type} (ring : Ring α capacity) (keep : α → Bool)
    (visit : β → α → β) (acc : β) :
    (ring.compact keep visit acc).2 = ring.toList.foldl visit acc :=
  (ring.compaction_spec keep visit acc).2.2.2

end Ring

end RyuLdn.RingBuffer
