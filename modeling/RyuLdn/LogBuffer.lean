import RyuLdn.CText
import RyuLdn.RingBuffer

/-! `LogBuffer` of `log.cpp`: a ring of messages whose capacity is chosen at run time, in
an array of `MAX_LOG_BUFFER_ENTRIES` rows. Over its first `m_capacity` rows it is a ring
that drops its oldest entry. -/
namespace RyuLdn

open CText RingBuffer

def maxLogMessageLength : Nat := 256

def maxLogBufferEntries : Nat := 64

abbrev LogMessage := CString (maxLogMessageLength - 1)

structure LogBuffer where
  messages : Vector LogMessage maxLogBufferEntries
  capacity : Nat
  count : Nat
  head : Nat
  tail : Nat
  capacity_le : capacity ≤ maxLogBufferEntries
  count_le : count ≤ capacity
  head_lt : 0 < capacity → head < capacity
  tail_eq : tail = (head + count) % capacity

namespace LogBuffer

/-- A constructed object; what its rows hold is never read. -/
def new (messages : Vector LogMessage maxLogBufferEntries) : LogBuffer where
  messages := messages
  capacity := maxLogBufferEntries
  count := 0
  head := 0
  tail := 0
  capacity_le := le_refl _
  count_le := Nat.zero_le _
  head_lt := id
  tail_eq := (Nat.zero_mod _).symm

def clear (s : LogBuffer) : LogBuffer where
  messages := s.messages
  capacity := s.capacity
  count := 0
  head := 0
  tail := 0
  capacity_le := s.capacity_le
  count_le := Nat.zero_le _
  head_lt := id
  tail_eq := (Nat.zero_mod _).symm

def init (s : LogBuffer) (capacity : Nat) : LogBuffer where
  messages := s.messages
  capacity := if capacity > maxLogBufferEntries then maxLogBufferEntries else capacity
  count := 0
  head := 0
  tail := 0
  capacity_le := by split <;> omega
  count_le := Nat.zero_le _
  head_lt := id
  tail_eq := (Nat.zero_mod _).symm

theorem tail_lt (s : LogBuffer) (rows : 0 < s.capacity) : s.tail < maxLogBufferEntries := by
  rw [s.tail_eq]
  exact Nat.lt_of_lt_of_le (Nat.mod_lt _ rows) s.capacity_le

/-- `add` of a message once there are rows. -/
def store (s : LogBuffer) (rows : 0 < s.capacity) (message : LogMessage) : LogBuffer where
  messages := s.messages.set s.tail message (s.tail_lt rows)
  capacity := s.capacity
  count := if s.count = s.capacity then s.count else s.count + 1
  head := if s.count = s.capacity then (s.head + 1) % s.capacity else s.head
  tail := (s.tail + 1) % s.capacity
  capacity_le := s.capacity_le
  count_le := by
    have bound := s.count_le
    split <;> omega
  head_lt := by
    intro _
    split
    · exact Nat.mod_lt _ rows
    · exact s.head_lt rows
  tail_eq := by
    rw [s.tail_eq, Nat.mod_add_mod]
    split
    · rw [Nat.mod_add_mod, Nat.add_right_comm]
    · rw [Nat.add_assoc]

def add (s : LogBuffer) (message : Option (List UInt8)) : LogBuffer :=
  match message with
  | none => s
  | some text => if rows : 0 < s.capacity then s.store rows (CString.copy _ text) else s

theorem rows_of_live {s : LogBuffer} {index : Nat} (live : index < s.count) : 0 < s.capacity :=
  Nat.lt_of_lt_of_le (Nat.zero_lt_of_lt live) s.count_le

/-- `i % m_capacity` as an index of `m_messages`. -/
def row (s : LogBuffer) (rows : 0 < s.capacity) (i : Nat) : Fin maxLogBufferEntries :=
  ⟨i % s.capacity, Nat.lt_of_lt_of_le (Nat.mod_lt _ rows) s.capacity_le⟩

def get (s : LogBuffer) (index : Nat) : Option LogMessage :=
  if live : index < s.count then some s.messages[s.row (rows_of_live live) (s.head + index)]
  else none

/-- The loop of `get_all`; `out` is what stands in the buffer so far. -/
def copyAll (s : LogBuffer) (bufferSize : Nat) : (turns : Nat) → (i : Nat) → List UInt8 → List UInt8
  | 0, _, out => out
  | turns + 1, i, out =>
      if out.length < bufferSize - 1 then
        match s.get i with
        | none => s.copyAll bufferSize turns (i + 1) out
        | some message =>
            let remaining := bufferSize - out.length - 1
            let length :=
              if message.bytes.length > remaining then remaining else message.bytes.length
            let out := out ++ message.bytes.take length
            s.copyAll bufferSize turns (i + 1)
              (if out.length < bufferSize - 1 then out ++ [10] else out)
      else out

/-- The bytes `get_all` leaves in a buffer, up to the final NUL. -/
def getAll (s : LogBuffer) (bufferSize : Nat) : List UInt8 :=
  if bufferSize = 0 then [] else s.copyAll bufferSize s.count 0 [] ++ [0]

def ring (s : LogBuffer) (rows : 0 < s.capacity) : Ring LogMessage s.capacity where
  slots := Vector.ofFn fun i => s.messages[i.castLE s.capacity_le]
  head := s.head
  tail := s.tail
  count := s.count
  head_lt := s.head_lt rows
  count_le := s.count_le
  tail_eq := s.tail_eq

def entries (s : LogBuffer) : List LogMessage :=
  if rows : 0 < s.capacity then (s.ring rows).toList else []

theorem length_entries (s : LogBuffer) : s.entries.length = s.count := by
  have bound := s.count_le
  unfold entries
  split
  · exact Ring.length_toList _
  · rw [List.length_nil]
    omega

theorem get_eq (s : LogBuffer) (i : Nat) : s.get i = s.entries[i]? := by
  unfold get
  split
  · rename_i live
    have rows := rows_of_live live
    unfold entries
    have inside : i < (s.ring rows).count := live
    rw [dif_pos rows, Ring.toList, List.getElem?_ofFn, dif_pos inside]
    simp [Ring.entry, Ring.slot, ring, row]
  · rename_i gone
    rw [List.getElem?_eq_none]
    rw [length_entries]
    omega

theorem ring_store (s : LogBuffer) (rows : 0 < s.capacity) (message : LogMessage) :
    (s.store rows message).ring rows = (s.ring rows).pushDropping message := by
  have bound := s.count_le
  have inTail : s.tail < s.capacity := by
    rw [s.tail_eq]
    exact Nat.mod_lt _ rows
  have slots : (Vector.ofFn fun i : Fin s.capacity =>
      (s.messages.set s.tail message (s.tail_lt rows))[i.castLE s.capacity_le]) =
      (Vector.ofFn fun i : Fin s.capacity => s.messages[i.castLE s.capacity_le]).set s.tail message
        inTail := by
    ext i inside
    simp [Vector.getElem_set]
  unfold Ring.pushDropping
  split
  · rename_i room
    have notFull : s.count ≠ s.capacity := Nat.ne_of_lt room
    simp only [ring, store, Ring.push, slots, if_neg notFull]
  · rename_i room
    have full : s.count = s.capacity := Nat.le_antisymm bound (Nat.not_lt.mp room)
    have live : 0 < (s.ring rows).count := by
      change 0 < s.count
      omega
    have left : s.count - 1 + 1 = s.count := Nat.sub_add_cancel live
    simp only [Ring.push, Ring.pop, dif_pos live]
    simp only [ring, store, slots, if_pos full, left]

theorem entries_store (s : LogBuffer) (rows : 0 < s.capacity) (message : LogMessage) :
    (s.store rows message).entries = mostRecent s.capacity (s.entries ++ [message]) := by
  have kept : (s.store rows message).entries = ((s.store rows message).ring rows).toList :=
    dif_pos rows
  have before : s.entries = (s.ring rows).toList := dif_pos rows
  rw [kept, before]
  exact (congrArg Ring.toList (s.ring_store rows message)).trans
    ((s.ring rows).toList_pushDropping_eq message)

theorem entries_add (s : LogBuffer) (text : List UInt8) :
    (s.add (some text)).entries = mostRecent s.capacity (s.entries ++ [CString.copy _ text]) := by
  unfold add
  dsimp only
  split
  · rename_i rows
    exact s.entries_store rows _
  · rename_i none
    have empty : s.entries = [] := dif_neg none
    have zero : s.capacity = 0 := Nat.eq_zero_of_not_pos none
    rw [empty, zero]
    rfl

theorem entries_of_count {s : LogBuffer} (empty : s.count = 0) : s.entries = [] :=
  List.eq_nil_of_length_eq_zero (s.length_entries.trans empty)

@[simp] theorem capacity_add (s : LogBuffer) (message : Option (List UInt8)) :
    (s.add message).capacity = s.capacity := by
  unfold add
  split
  · rfl
  · split <;> rfl

def line (message : LogMessage) : List UInt8 := message.bytes ++ [10]

theorem nul_notMem_line (message : LogMessage) : 0 ∉ line message := by
  intro member
  rcases List.mem_append.mp member with inside | newline
  · exact message.noNul inside
  · simp at newline

theorem take_line {room : Nat} {out : List UInt8} (short : out.length < room)
    (message : LogMessage) (rest : List UInt8) :
    let copied := out ++ message.bytes.take (room - out.length)
    let next := if copied.length < room then copied ++ [10] else copied
    next.length ≤ room ∧
      (next ++ rest).take room = (out ++ (line message ++ rest)).take room := by
  dsimp only
  unfold line
  rcases Nat.lt_or_ge (out.length + message.bytes.length) room with fits | full
  · have whole : message.bytes.take (room - out.length) = message.bytes :=
      List.take_of_length_le (by omega)
    rw [whole, if_pos (by rw [List.length_append]; exact fits)]
    refine ⟨?_, ?_⟩
    · rw [List.length_append, List.length_append, List.length_singleton]
      omega
    · simp
  · have filled : (out ++ message.bytes.take (room - out.length)).length = room := by
      rw [List.length_append, List.length_take]
      omega
    rw [if_neg (by omega)]
    refine ⟨filled.le, ?_⟩
    rw [List.take_append_of_le_length filled.ge, List.take_of_length_le filled.le,
      List.take_append, List.take_of_length_le short.le, List.append_assoc,
      List.take_append_of_le_length (by omega)]

theorem copyAll_eq (s : LogBuffer) (room turns i : Nat) (left : s.count = i + turns)
    (out : List UInt8) (short : out.length ≤ room) :
    s.copyAll (room + 1) turns i out = (out ++ (s.entries.drop i).flatMap line).take room := by
  induction turns generalizing i out with
  | zero =>
      have done : s.entries.drop i = [] :=
        List.drop_eq_nil_of_le (by rw [length_entries]; omega)
      rw [copyAll, done, List.flatMap_nil, List.append_nil, List.take_of_length_le short]
  | succ turns ih =>
      have inside : i < s.entries.length := by
        rw [length_entries]
        omega
      rw [copyAll, Nat.add_sub_cancel]
      split
      · rename_i more
        have found : s.get i = some s.entries[i] := by
          rw [get_eq, List.getElem?_eq_getElem inside]
        have cut : (if s.entries[i].bytes.length > room + 1 - out.length - 1 then
            room + 1 - out.length - 1 else s.entries[i].bytes.length) =
            min (room - out.length) s.entries[i].bytes.length := by
          split <;> omega
        obtain ⟨fits, same⟩ := take_line more s.entries[i]
          ((s.entries.drop (i + 1)).flatMap line)
        rw [found]
        dsimp only
        rw [cut, ← List.take_eq_take_min, ih (i + 1) (by omega) _ fits, same,
          List.drop_eq_getElem_cons inside, List.flatMap_cons]
      · rename_i full
        have filled : out.length = room := by omega
        rw [← filled, List.take_left]

theorem getAll_eq (s : LogBuffer) (n : Nat) :
    s.getAll (n + 1) = (s.entries.flatMap line).take n ++ [0] := by
  unfold getAll
  rw [if_neg (Nat.succ_ne_zero n), copyAll_eq s n s.count 0 (by omega) [] (Nat.zero_le _),
    List.drop_zero, List.nil_append]

theorem cString_getAll (s : LogBuffer) (n : Nat) :
    cString (s.getAll (n + 1)) = (s.entries.flatMap line).take n := by
  have clean : ∀ b ∈ (s.entries.flatMap line).take n, (b != 0) = true := by
    intro b member
    obtain ⟨message, _, inside⟩ := List.mem_flatMap.mp (List.mem_of_mem_take member)
    have nonzero : b ≠ 0 := fun zero => nul_notMem_line message (zero ▸ inside)
    simpa using nonzero
  rw [getAll_eq, cString, List.takeWhile_append_of_pos (by simpa using clean)]
  simp

inductive Call where
  | add (message : Option (List UInt8))
  | clear

def step (s : LogBuffer) : Call → LogBuffer
  | .add message => s.add message
  | .clear => s.clear

def logged (calls : List Call) : List LogMessage :=
  calls.foldl (fun messages call =>
    match call with
    | .add none => messages
    | .add (some text) => messages ++ [CString.copy _ text]
    | .clear => []) []

theorem run_capacity (s : LogBuffer) (calls : List Call) :
    (calls.foldl step s).capacity = s.capacity := by
  induction calls using List.reverseRecOn with
  | nil => rfl
  | append_singleton calls call ih =>
      rw [List.foldl_concat]
      cases call with
      | add message => exact (capacity_add _ message).trans ih
      | clear => exact ih

theorem run_entries {s : LogBuffer} (empty : s.count = 0) (calls : List Call) :
    (calls.foldl step s).entries = mostRecent s.capacity (logged calls) := by
  induction calls using List.reverseRecOn with
  | nil => exact (entries_of_count empty).trans (mostRecent_of_length_le (Nat.zero_le _)).symm
  | append_singleton calls call ih =>
      have capacity := run_capacity s calls
      rw [List.foldl_concat, logged, List.foldl_concat]
      cases call with
      | add message =>
          cases message with
          | none => exact ih
          | some text =>
              change ((calls.foldl step s).add (some text)).entries = _
              rw [entries_add, capacity, ih]
              exact mostRecent_append_singleton _ _ _
      | clear =>
          exact (entries_of_count (s := (calls.foldl step s).clear) rfl).trans
            (mostRecent_of_length_le (Nat.zero_le _)).symm

theorem init_capacity (s : LogBuffer) (capacity : Nat) :
    (s.init capacity).capacity = min capacity maxLogBufferEntries := by
  change (if capacity > maxLogBufferEntries then maxLogBufferEntries else capacity) = _
  split <;> omega

/-- The buffer keeps the newest messages, as many as its capacity allows, and `get_all`
writes as much of them as fits. -/
theorem keeps_newest (prior : LogBuffer) (capacity : Nat) (calls : List Call) :
    let s := calls.foldl step (prior.init capacity)
    let kept := mostRecent (min capacity maxLogBufferEntries) (logged calls)
    (∀ i, s.get i = kept[i]?) ∧
      ∀ n, s.getAll (n + 1) = (kept.flatMap line).take n ++ [0] ∧
        cString (s.getAll (n + 1)) = (kept.flatMap line).take n := by
  intro s kept
  have entries : s.entries = kept := by
    rw [run_entries rfl calls, init_capacity]
  rw [← entries]
  exact ⟨s.get_eq, fun n => ⟨s.getAll_eq n, s.cString_getAll n⟩⟩

/-- A capacity above the number of rows is cut to it. -/
theorem capacity_cut : ¬ ∀ (prior : LogBuffer) (capacity : Nat) (calls : List Call) (i : Nat),
    (calls.foldl step (prior.init capacity)).get i =
      (mostRecent capacity (logged calls))[i]? := by
  intro unbounded
  have last := unbounded (new (Vector.replicate _ CString.empty)) 65
    (List.replicate 65 (.add (some []))) 64
  rw [get_eq, run_entries rfl, init_capacity] at last
  exact absurd last (by decide)

end LogBuffer

end RyuLdn
