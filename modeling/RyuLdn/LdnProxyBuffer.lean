import RyuLdn.RingBuffer
import RyuLdn.ProtocolTypes
import RyuLdn.TransitionSystem

/-! `LdnProxyBuffer`: packet records in a ring of sixteen, payload bytes in one
area that is filled upwards and restarted at offset 0 when a packet does not fit
at the end. The calls take the buffer's mutex, so a history is a list of calls.

`Fits` says when a write keeps clear of the queued bytes. `Write` itself compares
only with the end of the area, and with `m_data_read_pos` when it restarts. -/
namespace RyuLdn.LdnProxyBuffer

open ProtocolTypes RingBuffer TransitionSystem

/-- `memcpy(out, area + offset, size)`. -/
def copyFrom (area : List UInt8) (offset size : Nat) : List UInt8 := (area.drop offset).take size

/-- `memcpy(area + offset, data, size)`. -/
def copyTo (area : List UInt8) (offset : Nat) (data : List UInt8) : List UInt8 :=
  area.take offset ++ data ++ area.drop (offset + data.length)

section Areas

variable {area data : List UInt8} {offset : Nat}

theorem length_copyTo (inside : offset + data.length ≤ area.length) :
    (copyTo area offset data).length = area.length := by
  simp [copyTo]
  omega

theorem length_copyFrom {size : Nat} (inside : offset + size ≤ area.length) :
    (copyFrom area offset size).length = size := by
  simp [copyFrom]
  omega

theorem copyFrom_zero : copyFrom area offset 0 = [] := by
  rw [copyFrom, List.take_zero]

theorem copyFrom_copyTo (inside : offset + data.length ≤ area.length) :
    copyFrom (copyTo area offset data) offset data.length = data := by
  have length : (area.take offset).length = offset := by
    rw [List.length_take]
    omega
  rw [copyFrom, copyTo, List.append_assoc, List.drop_left' length]
  exact List.take_left' rfl

theorem copyFrom_copyTo_below {start size : Nat} (inside : offset + data.length ≤ area.length)
    (below : start + size ≤ offset) :
    copyFrom (copyTo area offset data) start size = copyFrom area start size := by
  have length : (area.take offset).length = offset := by
    rw [List.length_take]
    omega
  rw [copyFrom, copyTo, List.append_assoc, List.drop_append_of_le_length (by omega),
    List.take_append_of_le_length (by rw [List.length_drop]; omega), copyFrom, List.drop_take,
    List.take_take, Nat.min_eq_left (by omega)]

theorem copyFrom_copyTo_above {start size : Nat} (inside : offset + data.length ≤ area.length)
    (above : offset + data.length ≤ start) :
    copyFrom (copyTo area offset data) start size = copyFrom area start size := by
  have length : (area.take offset ++ data).length = offset + data.length := by
    rw [List.length_append, List.length_take]
    omega
  rw [copyFrom, copyTo, List.drop_append, length, List.drop_eq_nil_of_le (by omega),
    List.nil_append, List.drop_drop, Nat.add_sub_cancel' above, copyFrom]

end Areas

def maxPacketDataSize : Nat := 0x800
def bufferSize : Nat := maxPacketDataSize * 4 + 256
def maxQueuedPackets : Nat := 16

structure PacketEntry where
  header : ProxyDataHeader
  dataSize : Nat
  dataOffset : Nat
  deriving DecidableEq, Inhabited

structure Buffer where
  packets : Ring PacketEntry maxQueuedPackets
  dataBuffer : List UInt8
  dataReadPos : Nat
  dataWritePos : Nat
  length_dataBuffer : dataBuffer.length = bufferSize
  dataWritePos_le : dataWritePos ≤ bufferSize
  deriving DecidableEq

namespace Buffer

def init : Buffer where
  packets := Ring.fill default (by decide)
  dataBuffer := List.replicate bufferSize 0
  dataReadPos := 0
  dataWritePos := 0
  length_dataBuffer := List.length_replicate
  dataWritePos_le := Nat.zero_le _

/-- Where `Write` puts `size` bytes, or `none` where it answers that the area is full. -/
def position (b : Buffer) (size : Nat) : Option Nat :=
  if bufferSize - b.dataWritePos < size then
    if b.dataReadPos > size then some 0 else none
  else some b.dataWritePos

theorem position_le {b : Buffer} {size offset : Nat} (small : size ≤ maxPacketDataSize)
    (found : b.position size = some offset) : offset + size ≤ bufferSize := by
  have room := b.dataWritePos_le
  have area : maxPacketDataSize ≤ bufferSize := by decide
  unfold position at found
  split at found
  · split at found
    · have start : 0 = offset := Option.some.inj found
      omega
    · cases found
  · have stay : b.dataWritePos = offset := Option.some.inj found
    omega

/-- The branch of `Write` that stores the packet at `offset`. -/
def store (b : Buffer) (header : ProxyDataHeader) (data : List UInt8) (offset : Nat)
    (room : b.packets.count < maxQueuedPackets) (inside : offset + data.length ≤ bufferSize) :
    Buffer where
  packets := b.packets.push ⟨header, data.length, offset⟩ room
  dataBuffer := copyTo b.dataBuffer offset data
  dataReadPos := b.dataReadPos
  dataWritePos := offset + data.length
  length_dataBuffer := by
    rw [length_copyTo (by rw [b.length_dataBuffer]; exact inside), b.length_dataBuffer]
  dataWritePos_le := inside

def write (b : Buffer) (header : ProxyDataHeader) (data : List UInt8) : Bool × Buffer :=
  if small : data.length ≤ maxPacketDataSize then
    if room : b.packets.count < maxQueuedPackets then
      match found : b.position data.length with
      | some offset => (true, b.store header data offset room (position_le small found))
      | none => (false, b)
    else (false, b)
  else (false, b)

/-- The three outputs of `Read`: header, copied size and bytes. -/
abbrev Packet := ProxyDataHeader × Nat × List UInt8

def read (b : Buffer) (maxSize : Nat) : Option Packet × Buffer :=
  match b.packets.front with
  | none => (none, b)
  | some entry =>
      let size := if entry.dataSize ≤ maxSize then entry.dataSize else maxSize
      let data := copyFrom b.dataBuffer entry.dataOffset size
      let packets := b.packets.pop
      (some (entry.header, size, data),
        if packets.count = 0 then
          { b with packets := packets, dataReadPos := 0, dataWritePos := 0,
                   dataWritePos_le := Nat.zero_le _ }
        else
          { b with packets := packets, dataReadPos := entry.dataOffset + entry.dataSize })

def peek (b : Buffer) : Option (ProxyDataHeader × Nat) :=
  b.packets.front.map fun entry => (entry.header, entry.dataSize)

def getPendingCount (b : Buffer) : Nat := b.packets.count

def isEmpty (b : Buffer) : Bool := b.packets.count == 0

def reset (b : Buffer) : Buffer :=
  { b with packets := b.packets.clear, dataReadPos := 0, dataWritePos := 0,
           dataWritePos_le := Nat.zero_le _ }

def stored (b : Buffer) (entry : PacketEntry) : ProxyDataHeader × List UInt8 :=
  (entry.header, copyFrom b.dataBuffer entry.dataOffset entry.dataSize)

def queued (b : Buffer) : List (ProxyDataHeader × List UInt8) := b.packets.toList.map b.stored

def owners (b : Buffer) : List PacketEntry := b.packets.toList.filter (·.dataSize ≠ 0)

/-- A write of `size` bytes keeps clear of the queued bytes. A writer that is a lap
ahead, so at or below the oldest queued byte, stays below that byte; a writer that
restarts at 0 is not a lap ahead already and ends below the oldest queued byte. -/
def Fits (b : Buffer) (size : Nat) : Prop :=
  size ≤ maxPacketDataSize → b.packets.count < maxQueuedPackets →
    ∀ oldest ∈ b.owners.head?,
      (b.dataWritePos + size ≤ bufferSize → b.dataWritePos ≤ oldest.dataOffset →
        b.dataWritePos + size ≤ oldest.dataOffset) ∧
      (bufferSize < b.dataWritePos + size → size < b.dataReadPos →
        oldest.dataOffset < b.dataWritePos ∧ size ≤ oldest.dataOffset)

instance (b : Buffer) (size : Nat) : Decidable (b.Fits size) := by
  unfold Fits
  infer_instance

/-- The records lie in `[lo, hi)` without overlap, in order. -/
def Ascending (lo hi : Nat) : List PacketEntry → Prop
  | [] => lo ≤ hi
  | entry :: entries => lo ≤ entry.dataOffset ∧ Ascending (entry.dataOffset + entry.dataSize) hi entries

structure Layout (b : Buffer) (older newer : List PacketEntry) : Prop where
  split : b.owners = older ++ newer
  above : Ascending b.dataWritePos bufferSize older
  below : Ascending 0 b.dataWritePos newer

theorem Ascending.mono {lo lower hi : Nat} {entries : List PacketEntry}
    (ordered : Ascending lo hi entries) (le : lower ≤ lo) : Ascending lower hi entries := by
  cases entries with
  | nil => exact le_trans le ordered
  | cons entry entries => exact ⟨le_trans le ordered.1, ordered.2⟩

theorem Ascending.append {lo hi : Nat} {entries : List PacketEntry}
    (ordered : Ascending lo hi entries) {last : PacketEntry} (next : last.dataOffset = hi) :
    Ascending lo (hi + last.dataSize) (entries ++ [last]) := by
  induction entries generalizing lo with
  | nil => exact ⟨by rw [next]; exact ordered, by rw [next]; exact le_refl _⟩
  | cons entry entries ih => exact ⟨ordered.1, ih ordered.2⟩

theorem Ascending.raise {lo hi top : Nat} {entries : List PacketEntry}
    (ordered : Ascending lo hi entries) (le : hi ≤ top) : Ascending lo top entries := by
  induction entries generalizing lo with
  | nil => exact le_trans ordered le
  | cons entry entries ih => exact ⟨ordered.1, ih ordered.2⟩

theorem Ascending.bounds {lo hi : Nat} {entries : List PacketEntry}
    (ordered : Ascending lo hi entries) {entry : PacketEntry} (member : entry ∈ entries) :
    lo ≤ entry.dataOffset ∧ entry.dataOffset + entry.dataSize ≤ hi := by
  induction entries generalizing lo with
  | nil => cases member
  | cons first entries ih =>
      have order : ∀ {lower : Nat} {rest : List PacketEntry}, Ascending lower hi rest → lower ≤ hi := by
        intro lower rest
        induction rest generalizing lower with
        | nil => exact id
        | cons next rest more =>
            intro chain
            have := more chain.2
            have := chain.1
            omega
      rcases List.mem_cons.mp member with rfl | later
      · exact ⟨ordered.1, order ordered.2⟩
      · have inside := ih ordered.2 later
        have := ordered.1
        omega

theorem Ascending.le_of_head {lo hi bound : Nat} {entries : List PacketEntry}
    (ordered : Ascending lo hi entries)
    (head : ∀ oldest ∈ entries.head?, bound ≤ oldest.dataOffset) {entry : PacketEntry}
    (member : entry ∈ entries) : bound ≤ entry.dataOffset := by
  cases entries with
  | nil => cases member
  | cons oldest entries =>
      have first := head oldest rfl
      rcases List.mem_cons.mp member with rfl | later
      · exact first
      · have := (ordered.2.bounds later).1
        omega

theorem owners_store {b : Buffer} {header : ProxyDataHeader} {data : List UInt8} {offset : Nat}
    (room : b.packets.count < maxQueuedPackets) (inside : offset + data.length ≤ bufferSize) :
    (b.store header data offset room inside).owners =
      b.owners ++ if data.length = 0 then [] else [⟨header, data.length, offset⟩] := by
  unfold owners store
  simp only [Ring.toList_push, List.filter_append]
  by_cases none : data.length = 0 <;> simp [none]

theorem owners_pop (b : Buffer) :
    b.packets.pop.toList.filter (·.dataSize ≠ 0) = b.owners ∨
      b.packets.pop.toList.filter (·.dataSize ≠ 0) = b.owners.tail := by
  rw [Ring.toList_pop, owners]
  cases b.packets.toList with
  | nil => simp
  | cons entry entries => by_cases none : entry.dataSize = 0 <;> simp [none]

namespace Layout

variable {b : Buffer} {older newer : List PacketEntry}

theorem start : Layout init [] [] := by
  constructor
  · simp [owners, init]
  · exact Nat.zero_le _
  · exact Nat.le_refl _

theorem inside (layout : Layout b older newer) {entry : PacketEntry} (member : entry ∈ b.owners) :
    entry.dataOffset + entry.dataSize ≤ bufferSize := by
  rw [layout.split, List.mem_append] at member
  rcases member with old | new
  · exact (layout.above.bounds old).2
  · exact le_trans (layout.below.bounds new).2 b.dataWritePos_le

theorem store_stay (layout : Layout b older newer) (header : ProxyDataHeader) {data : List UInt8}
    (room : b.packets.count < maxQueuedPackets)
    (inside : b.dataWritePos + data.length ≤ bufferSize)
    (clear : ∀ oldest ∈ older.head?, b.dataWritePos + data.length ≤ oldest.dataOffset) :
    ∃ newer', Layout (b.store header data b.dataWritePos room inside) older newer' := by
  have above : Ascending (b.dataWritePos + data.length) bufferSize older := by
    cases older with
    | nil => exact inside
    | cons oldest older => exact ⟨clear oldest rfl, layout.above.2⟩
  by_cases none : data.length = 0
  · refine ⟨newer, ?_, above, ?_⟩
    · rw [owners_store, if_pos none, List.append_nil, layout.split]
    · exact layout.below.raise (Nat.le_add_right _ _)
  · refine ⟨newer ++ [⟨header, data.length, b.dataWritePos⟩], ?_, above, ?_⟩
    · rw [owners_store, if_neg none, layout.split, List.append_assoc]
    · have next : (PacketEntry.mk header data.length b.dataWritePos).dataOffset = b.dataWritePos :=
        rfl
      exact layout.below.append next

theorem store_wrap (layout : Layout b [] newer) (header : ProxyDataHeader) {data : List UInt8}
    (room : b.packets.count < maxQueuedPackets) (inside : 0 + data.length ≤ bufferSize)
    (some : data.length ≠ 0) (clear : ∀ oldest ∈ newer.head?, data.length ≤ oldest.dataOffset) :
    Layout (b.store header data 0 room inside) newer [⟨header, data.length, 0⟩] := by
  constructor
  · rw [owners_store, if_neg some, layout.split, List.nil_append]
  · show Ascending (0 + data.length) bufferSize newer
    cases newer with
    | nil => exact inside
    | cons oldest newer =>
        exact ⟨by rw [Nat.zero_add]; exact clear oldest rfl,
          layout.below.2.raise b.dataWritePos_le⟩
  · exact ⟨Nat.le_refl _, Nat.le_refl _⟩

end Layout

theorem mem_owners {b : Buffer} {entry : PacketEntry} :
    entry ∈ b.owners ↔ entry ∈ b.packets.toList ∧ entry.dataSize ≠ 0 := by
  simp [owners]

theorem queued_store {b : Buffer} {header : ProxyDataHeader} {data : List UInt8} {offset : Nat}
    (room : b.packets.count < maxQueuedPackets) (inside : offset + data.length ≤ bufferSize)
    (clear : ∀ entry ∈ b.owners, entry.dataOffset + entry.dataSize ≤ offset ∨
      offset + data.length ≤ entry.dataOffset) :
    (b.store header data offset room inside).queued = b.queued ++ [(header, data)] := by
  have fits : offset + data.length ≤ b.dataBuffer.length := by
    rw [b.length_dataBuffer]
    exact inside
  have kept : ∀ entry ∈ b.packets.toList,
      (b.store header data offset room inside).stored entry = b.stored entry := by
    intro entry member
    unfold stored store
    by_cases none : entry.dataSize = 0
    · simp only [none, copyFrom_zero]
    · rcases clear entry (mem_owners.mpr ⟨member, none⟩) with below | above
      · simp only [copyFrom_copyTo_below fits below]
      · simp only [copyFrom_copyTo_above fits above]
  have added : (b.store header data offset room inside).stored ⟨header, data.length, offset⟩ =
      (header, data) := by
    unfold stored store
    simp only [copyFrom_copyTo fits]
  unfold queued
  rw [← List.map_congr_left kept, ← added]
  simp [store, Ring.toList_push]

section Write

variable {b : Buffer} {older newer : List PacketEntry} (layout : Layout b older newer)
  (header : ProxyDataHeader) {data : List UInt8} (small : data.length ≤ maxPacketDataSize)
  (room : b.packets.count < maxQueuedPackets) (fits : b.Fits data.length)
include layout small room fits

theorem store_fits_stay (inside : b.dataWritePos + data.length ≤ bufferSize) :
    (b.store header data b.dataWritePos room inside).queued = b.queued ++ [(header, data)] ∧
      ∃ older' newer',
        Layout (b.store header data b.dataWritePos room inside) older' newer' := by
  have limits := fits small room
  rw [layout.split] at limits
  have clear : ∀ oldest ∈ older.head?, b.dataWritePos + data.length ≤ oldest.dataOffset := by
    intro oldest first
    cases older with
    | nil => cases first
    | cons head older =>
        cases first
        exact (limits _ rfl).1 inside layout.above.1
  obtain ⟨newer', next⟩ := layout.store_stay header room inside clear
  refine ⟨queued_store room inside ?_, _, _, next⟩
  intro entry member
  rw [layout.split, List.mem_append] at member
  rcases member with old | new
  · exact Or.inr (layout.above.le_of_head clear old)
  · exact Or.inl (layout.below.bounds new).2

theorem store_fits_wrap (inside : 0 + data.length ≤ bufferSize)
    (past : bufferSize < b.dataWritePos + data.length) (behind : data.length < b.dataReadPos) :
    (b.store header data 0 room inside).queued = b.queued ++ [(header, data)] ∧
      ∃ older' newer', Layout (b.store header data 0 room inside) older' newer' := by
  have limits := fits small room
  rw [layout.split] at limits
  -- the older lap is gone: its first record would lie at or above the writer
  have alone : older = [] := by
    cases older with
    | nil => rfl
    | cons oldest older =>
        have low := ((limits oldest rfl).2 past behind).1
        have high := layout.above.1
        omega
  subst alone
  have clear : ∀ oldest ∈ newer.head?, data.length ≤ oldest.dataOffset := by
    intro oldest first
    exact ((limits oldest first).2 past behind).2
  have some : data.length ≠ 0 := by
    have := b.dataWritePos_le
    omega
  refine ⟨queued_store room inside ?_, _, _, layout.store_wrap header room inside some clear⟩
  intro entry member
  rw [layout.split, List.nil_append] at member
  right
  rw [Nat.zero_add]
  exact layout.below.le_of_head clear member

omit small room in
theorem write_cases :
    b.write header data = (false, b) ∨
      ((b.write header data).1 = true ∧
        (b.write header data).2.queued = b.queued ++ [(header, data)] ∧
        ∃ older' newer', Layout (b.write header data).2 older' newer') := by
  unfold write
  by_cases small : data.length ≤ maxPacketDataSize
  · by_cases room : b.packets.count < maxQueuedPackets
    · rw [dif_pos small, dif_pos room]
      split
      · rename_i offset found
        have inside := position_le small found
        refine Or.inr ⟨rfl, ?_⟩
        unfold position at found
        by_cases beyond : bufferSize - b.dataWritePos < data.length
        · rw [if_pos beyond] at found
          by_cases behind : b.dataReadPos > data.length
          · rw [if_pos behind] at found
            cases found
            exact store_fits_wrap layout header small room fits inside (by omega) behind
          · rw [if_neg behind] at found
            cases found
        · rw [if_neg beyond] at found
          cases found
          exact store_fits_stay layout header small room fits inside
      · exact Or.inl rfl
    · rw [dif_pos small, dif_neg room]
      exact Or.inl rfl
  · rw [dif_neg small]
    exact Or.inl rfl

end Write

theorem layout_pop {b : Buffer} {older newer : List PacketEntry} (layout : Layout b older newer)
    {b' : Buffer} (packets : b'.packets = b.packets.pop)
    (position : b'.dataWritePos = b.dataWritePos) : ∃ older' newer', Layout b' older' newer' := by
  have left : b'.owners = b.owners ∨ b'.owners = b.owners.tail := by
    unfold owners
    rw [packets]
    exact owners_pop b
  rcases left with same | tail
  · exact ⟨older, newer, same.trans layout.split, by rw [position]; exact layout.above,
      by rw [position]; exact layout.below⟩
  · rw [layout.split] at tail
    cases older with
    | nil =>
        refine ⟨[], newer.tail, tail, by rw [position]; exact layout.above, ?_⟩
        rw [position]
        cases newer with
        | nil => exact layout.below
        | cons oldest newer => exact layout.below.2.mono (Nat.zero_le _)
    | cons oldest older =>
        refine ⟨older, newer, tail, ?_, by rw [position]; exact layout.below⟩
        rw [position]
        exact layout.above.2.mono (le_trans layout.above.1 (Nat.le_add_right _ _))

theorem layout_empty {b : Buffer} (none : b.packets.toList = []) : ∃ older newer, Layout b older newer :=
  ⟨[], [], by simp [owners, none], b.dataWritePos_le, Nat.zero_le _⟩

theorem length_stored {b : Buffer} {older newer : List PacketEntry} (layout : Layout b older newer)
    {entry : PacketEntry} (member : entry ∈ b.packets.toList) :
    (b.stored entry).2.length = entry.dataSize := by
  by_cases none : entry.dataSize = 0
  · simp [stored, none, copyFrom_zero]
  · have inside := layout.inside (mem_owners.mpr ⟨member, none⟩)
    exact length_copyFrom (by rw [b.length_dataBuffer]; exact inside)

theorem read_cases {b : Buffer} {older newer : List PacketEntry} (layout : Layout b older newer)
    (maxSize : Nat) :
    (b.queued = [] ∧ b.read maxSize = (none, b)) ∨
      ∃ first rest size, b.queued = first :: rest ∧
        (b.read maxSize).1 = some (first.1, size, first.2.take size) ∧
        size = min first.2.length maxSize ∧ (b.read maxSize).2.queued = rest ∧
        ∃ older' newer', Layout (b.read maxSize).2 older' newer' := by
  unfold read
  rw [Ring.front_eq_head?]
  cases records : b.packets.toList with
  | nil => exact Or.inl ⟨by simp [queued, records], rfl⟩
  | cons entry entries =>
      have length := length_stored layout (show entry ∈ b.packets.toList by simp [records])
      have left : b.packets.pop.toList = entries := by rw [Ring.toList_pop, records, List.tail_cons]
      refine Or.inr ⟨b.stored entry, entries.map b.stored, _, by simp [queued, records], ?_, rfl, ?_⟩
      · have size : (if entry.dataSize ≤ maxSize then entry.dataSize else maxSize) =
            min (b.stored entry).2.length maxSize := by
          rw [length, Nat.min_def]
        simp only [List.head?_cons, size]
        simp [stored, copyFrom, List.take_take]
      · simp only [List.head?_cons]
        split
        · rename_i gone
          have none : entries = [] := by
            rw [← left]
            exact List.length_eq_zero_iff.mp (by rw [Ring.length_toList]; exact gone)
          refine ⟨?_, layout_empty (by rw [← none, ← left])⟩
          unfold queued
          simp only [left, none, List.map_nil]
        · refine ⟨?_, layout_pop layout rfl rfl⟩
          unfold queued
          simp only [left]
          rfl

end Buffer

inductive Call where
  | write (header : ProxyDataHeader) (data : List UInt8)
  | read (maxSize : Nat)
  | peek
  | getPendingCount
  | reset

/-- The buffer and, beside it, the packets written and neither read nor discarded. -/
structure History where
  buffer : Buffer
  pending : List (ProxyDataHeader × List UInt8)

namespace History

def init : History := ⟨.init, []⟩

def step (h : History) : Call → History
  | .write header data =>
      ⟨(h.buffer.write header data).2,
        if (h.buffer.write header data).1 then h.pending ++ [(header, data)] else h.pending⟩
  | .read maxSize =>
      ⟨(h.buffer.read maxSize).2,
        if (h.buffer.read maxSize).1.isSome then h.pending.tail else h.pending⟩
  | .peek => h
  | .getPendingCount => h
  | .reset => ⟨h.buffer.reset, []⟩

def Fits (h : History) : Call → Prop
  | .write _ data => h.buffer.Fits data.length
  | _ => True

/-- What the buffer answers is the queue of pending packets, and their bytes are
the ones that were written. -/
structure IsFifo (h : History) : Prop where
  count : h.buffer.getPendingCount = h.pending.length
  peek : h.buffer.peek = h.pending.head?.map fun packet => (packet.1, packet.2.length)
  read : ∀ maxSize, (∀ packet ∈ h.pending.head?, packet.2.length ≤ maxSize) →
    (h.buffer.read maxSize).1 =
      h.pending.head?.map fun packet => (packet.1, packet.2.length, packet.2)
  kept : h.buffer.queued = h.pending

structure Inv (h : History) : Prop where
  queued : h.buffer.queued = h.pending
  layout : ∃ older newer, h.buffer.Layout older newer

theorem Inv.isFifo {h : History} (inv : Inv h) : IsFifo h := by
  obtain ⟨older, newer, layout⟩ := inv.layout
  have lengths : h.pending.length = h.buffer.packets.count := by
    rw [← inv.queued, Buffer.queued, List.length_map, Ring.length_toList]
  refine ⟨lengths.symm, ?_, ?_, inv.queued⟩
  · rw [← inv.queued, Buffer.peek, Ring.front_eq_head?, Buffer.queued]
    cases records : h.buffer.packets.toList with
    | nil => rfl
    | cons entry entries =>
        have length := Buffer.length_stored layout
          (show entry ∈ h.buffer.packets.toList by simp [records])
        simp [length]
        rfl
  · intro maxSize fits
    rw [← inv.queued] at fits ⊢
    rcases Buffer.read_cases layout maxSize with ⟨none, unread⟩ | ⟨first, rest, size, some, out, rfl, -⟩
    · rw [none, unread]
      rfl
    · rw [some] at fits ⊢
      have whole := Nat.min_eq_left (fits first rfl)
      rw [out, whole, List.take_length]
      rfl

theorem Inv.step {h : History} (inv : Inv h) {call : Call} (fits : h.Fits call) :
    Inv (h.step call) := by
  obtain ⟨older, newer, layout⟩ := inv.layout
  cases call with
  | write header data =>
      rcases Buffer.write_cases layout header fits with same | ⟨done, more, next⟩
      · simp only [History.step, same]
        exact ⟨by simpa using inv.queued, older, newer, layout⟩
      · refine ⟨?_, next⟩
        simp only [History.step, done, if_true, more, inv.queued]
  | read maxSize =>
      rcases Buffer.read_cases layout maxSize with ⟨-, unread⟩ | ⟨first, rest, size, some, out, -, left, next⟩
      · simp only [History.step, unread]
        exact ⟨by simpa using inv.queued, older, newer, layout⟩
      · refine ⟨?_, next⟩
        simp only [History.step, out, Option.isSome_some, if_true, left, ← inv.queued, some,
          List.tail_cons]
  | peek => exact inv
  | getPendingCount => exact inv
  | reset =>
      have empty : h.buffer.reset.packets.toList = [] := Ring.toList_clear _
      exact ⟨by simp [History.step, Buffer.queued, empty], Buffer.layout_empty empty⟩

theorem Inv.start : Inv init :=
  ⟨by simp [init, Buffer.queued, Buffer.init], [], [], Buffer.Layout.start⟩

/-- As long as every write fits, the buffer is a FIFO queue. -/
theorem isFifo_of_fits {calls : List Call} (fits : StepsMeet step Fits init calls) :
    ∀ h ∈ visited step init calls, IsFifo h := by
  intro h member
  have keep : ∀ h call, Inv h → Fits h call → Inv (step h call) := fun _ _ inv fits => inv.step fits
  exact (visited_of_stepsMeet keep Inv.start fits h member).isFifo

def lapCalls : List Call :=
  let packet (byte : UInt8) : Call := .write default (List.replicate maxPacketDataSize byte)
  [packet 1, packet 2, packet 3, packet 4, .read maxPacketDataSize, .read maxPacketDataSize,
    packet 5, packet 6, packet 7]

theorem lap_not_isFifo : ¬ ∀ h ∈ visited step init lapCalls, IsFifo h := by
  intro all
  have last := (all _ (foldl_mem_visited init lapCalls)).read maxPacketDataSize (by decide +kernel)
  have wrong : ((lapCalls.foldl step init).buffer.read maxPacketDataSize).1.map (·.2.2.head?) ≠
      (lapCalls.foldl step init).pending.head?.map (·.2.head?) := by decide +kernel
  rw [last, Option.map_map] at wrong
  exact wrong rfl

/-- One lap of the same packets fits. -/
theorem isFifo_of_fits_lap : StepsMeet step Fits init (lapCalls.take 8) ∧
    ∀ h ∈ visited step init (lapCalls.take 8), IsFifo h := by
  have fits : StepsMeet step Fits init (lapCalls.take 8) := by
    simp only [lapCalls, List.take, StepsMeet, Fits]
    decide +kernel
  exact ⟨fits, isFifo_of_fits fits⟩

end History

end RyuLdn.LdnProxyBuffer
