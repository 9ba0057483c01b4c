import RyuLdn.ProtocolCodec
import Mathlib.Data.List.Induction

/-! `PacketBuffer<BufferSize>` of `packet_buffer.hpp`. The live prefix
`m_buffer[0 .. m_write_pos)` is the list `bytes`; `fits` is the reason no
operation ever writes past the array. The reassembly result at the end runs an
arbitrary mixture of appends and extractions against a list of sent packets. -/
namespace RyuLdn.StreamReassembly

open ProtocolCodec StreamFraming

inductive BufferResult where
  | success | bufferFull | noCompletePacket | packetTooLarge | invalidPacket
  deriving DecidableEq, Repr

@[ext] structure PacketBuffer (capacity : Nat) where
  bytes : List UInt8
  fits : bytes.length ≤ capacity

variable {capacity : Nat}

namespace PacketBuffer

def reset : PacketBuffer capacity := ⟨[], Nat.zero_le _⟩

def size (b : PacketBuffer capacity) : Nat := b.bytes.length

def available (b : PacketBuffer capacity) : Nat := capacity - b.size

def append (b : PacketBuffer capacity) (data : List UInt8) :
    BufferResult × PacketBuffer capacity :=
  if data.length = 0 then (.success, b)
  else if full : data.length > b.available then (.bufferFull, b)
  else (.success, ⟨b.bytes ++ data, by
    have := b.fits
    simp only [available, size, List.length_append] at *
    omega⟩)

def hasCompletePacket (b : PacketBuffer capacity) : Bool :=
  if b.size < headerSize then false
  else (checkCompletePacket b.bytes).1 = .success

def peekPacketInfo (b : PacketBuffer capacity) : BufferResult × Nat :=
  if b.size < headerSize then (.noCompletePacket, 0)
  else
    match checkCompletePacket b.bytes with
    | (.success, packetSize) => (.success, packetSize)
    | (.incompletePacket, packetSize) => (.noCompletePacket, packetSize)
    | (.bufferTooSmall, packetSize) => (.noCompletePacket, packetSize)
    | (.packetTooLarge, packetSize) => (.packetTooLarge, packetSize)
    | (.invalidMagic, packetSize) => (.invalidPacket, packetSize)
    | (.invalidVersion, packetSize) => (.invalidPacket, packetSize)

/-- The size of the packet at the front; the returned pointer is the buffer start. -/
def peekPacket (b : PacketBuffer capacity) : Option Nat :=
  match b.peekPacketInfo with
  | (.success, packetSize) => some packetSize
  | _ => none

def consume (b : PacketBuffer capacity) (size : Nat) : PacketBuffer capacity :=
  if size = 0 then b
  else if size ≥ b.size then reset
  else ⟨b.bytes.drop size, by
    have := b.fits
    rw [List.length_drop]
    omega⟩

def extractPacket (b : PacketBuffer capacity) (outBufferSize : Nat) :
    BufferResult × List UInt8 × PacketBuffer capacity :=
  match b.peekPacketInfo with
  | (.success, packetSize) =>
      if outBufferSize < packetSize then (.bufferFull, [], b)
      else (.success, b.bytes.take packetSize, b.consume packetSize)
  | (result, _) => (result, [], b)

@[simp] theorem consume_bytes (b : PacketBuffer capacity) (n : Nat) :
    (b.consume n).bytes = b.bytes.drop n := by
  rw [consume]
  split
  · rename_i zero
    simp [zero]
  · split
    · rename_i all
      exact (List.drop_eq_nil_of_le all).symm
    · rfl

theorem append_cases (b : PacketBuffer capacity) (data : List UInt8) :
    ((b.append data).1 = .success ∧ (b.append data).2.bytes = b.bytes ++ data ∧
        b.bytes.length + data.length ≤ capacity) ∨
      (b.append data = (.bufferFull, b) ∧ capacity < b.bytes.length + data.length) := by
  have fits := b.fits
  rw [append]
  split
  · rename_i empty
    left
    simp [List.eq_nil_of_length_eq_zero empty, fits]
  · split
    · rename_i full
      right
      simp only [available, size] at full
      exact ⟨rfl, by omega⟩
    · rename_i room
      left
      simp only [available, size] at room
      exact ⟨rfl, rfl, by omega⟩

theorem append_success (b : PacketBuffer capacity) {data : List UInt8}
    (room : b.bytes.length + data.length ≤ capacity) : (b.append data).1 = .success := by
  rcases b.append_cases data with ⟨accepted, _⟩ | ⟨_, full⟩
  · exact accepted
  · omega

theorem peekPacketInfo_eq_success (b : PacketBuffer capacity) (n : Nat) :
    b.peekPacketInfo = (.success, n) ↔ packetHead b.bytes = .frame n := by
  rw [packetHead_frame, peekPacketInfo]
  split
  · rename_i short
    rw [checkCompletePacket_eq, decodeHeader_short short]
    simp
  · rcases checkCompletePacket b.bytes with ⟨result, size⟩
    cases result <;> simp

theorem peekPacketInfo_eq_noCompletePacket (b : PacketBuffer capacity) :
    b.peekPacketInfo.1 = .noCompletePacket ↔ packetHead b.bytes = .incomplete := by
  rw [packetHead, peekPacketInfo]
  split
  · rename_i short
    rw [checkCompletePacket_eq, decodeHeader_short short]
    simp
  · rcases checkCompletePacket b.bytes with ⟨result, size⟩
    cases result <;> simp

theorem peekPacket_eq_some (b : PacketBuffer capacity) (n : Nat) :
    b.peekPacket = some n ↔ packetHead b.bytes = .frame n := by
  rw [← peekPacketInfo_eq_success, peekPacket]
  rcases b.peekPacketInfo with ⟨result, size⟩
  cases result <;> simp

theorem hasCompletePacket_iff (b : PacketBuffer capacity) :
    b.hasCompletePacket = true ↔ ∃ n, packetHead b.bytes = .frame n := by
  rw [hasCompletePacket]
  simp only [packetHead_frame]
  split
  · rename_i short
    simp [checkCompletePacket_eq, decodeHeader_short short]
  · rcases checkCompletePacket b.bytes with ⟨result, size⟩
    cases result <;> simp

theorem extractPacket_cases (b : PacketBuffer capacity) (outBufferSize : Nat) :
    (∃ n, packetHead b.bytes = .frame n ∧ n ≤ outBufferSize ∧
        b.extractPacket outBufferSize = (.success, b.bytes.take n, b.consume n)) ∨
      ((b.extractPacket outBufferSize).1 ≠ .success ∧
        (b.extractPacket outBufferSize).2.2 = b ∧
        ∀ n, packetHead b.bytes = .frame n → outBufferSize < n) := by
  rw [extractPacket]
  have frame := b.peekPacketInfo_eq_success
  rcases info : b.peekPacketInfo with ⟨result, size⟩
  rw [info] at frame
  cases result
  case success =>
    have head := (frame size).mp rfl
    by_cases room : outBufferSize < size
    · right
      refine ⟨by simp [room], by simp [room], ?_⟩
      intro n other
      rw [head] at other
      injection other
      omega
    · left
      exact ⟨size, head, by omega, by simp [room]⟩
  all_goals
    right
    refine ⟨by simp, rfl, ?_⟩
    intro n other
    have impossible := (frame n).mpr other
    simp at impossible

end PacketBuffer

inductive Op where
  | append (chunk : List UInt8)
  | extract (outBufferSize : Nat)
  | peekConsume
  deriving DecidableEq, Repr

structure Reassembly (capacity : Nat) where
  buffer : PacketBuffer capacity
  appended : List UInt8
  extracted : List (List UInt8)

def Reassembly.step (s : Reassembly capacity) : Op → Reassembly capacity
  | .append chunk =>
      match s.buffer.append chunk with
      | (.success, b) => { s with buffer := b, appended := s.appended ++ chunk }
      | (_, b) => { s with buffer := b }
  | .extract outBufferSize =>
      match s.buffer.extractPacket outBufferSize with
      | (.success, packet, b) => { s with buffer := b, extracted := s.extracted ++ [packet] }
      | (_, _, b) => { s with buffer := b }
  | .peekConsume =>
      match s.buffer.peekPacket with
      | some packetSize =>
          { s with
            buffer := s.buffer.consume packetSize
            extracted := s.extracted ++ [s.buffer.bytes.take packetSize] }
      | none => s

def run (capacity : Nat) (ops : List Op) : Reassembly capacity :=
  ops.foldl Reassembly.step ⟨PacketBuffer.reset, [], []⟩

theorem run_concat (ops : List Op) (op : Op) :
    run capacity (ops ++ [op]) = (run capacity ops).step op := by
  simp [run]

theorem Reassembly.step_append {s : Reassembly capacity} {chunk : List UInt8}
    (accepted : (s.buffer.append chunk).1 = .success) :
    (s.step (.append chunk)).appended = s.appended ++ chunk := by
  rcases result : s.buffer.append chunk with ⟨r, b⟩
  rw [result] at accepted
  simp only at accepted
  subst accepted
  simp [step, result]

theorem Reassembly.step_cases (s : Reassembly capacity) (op : Op) :
    (∃ chunk, op = .append chunk ∧ (s.step op).appended = s.appended ++ chunk ∧
        (s.step op).buffer.bytes = s.buffer.bytes ++ chunk ∧
        (s.step op).extracted = s.extracted) ∨
      (∃ n, packetHead s.buffer.bytes = .frame n ∧ (s.step op).appended = s.appended ∧
        (s.step op).buffer.bytes = s.buffer.bytes.drop n ∧
        (s.step op).extracted = s.extracted ++ [s.buffer.bytes.take n]) ∨
      s.step op = s := by
  cases op with
  | append chunk =>
      rcases s.buffer.append_cases chunk with ⟨ok, grown, _⟩ | ⟨full, _⟩
      · left
        rcases result : s.buffer.append chunk with ⟨r, b⟩
        rw [result] at ok grown
        simp only at ok grown
        subst ok
        exact ⟨chunk, rfl, by simp [step, result, grown]⟩
      · right; right
        simp [step, full]
  | extract outBufferSize =>
      rcases s.buffer.extractPacket_cases outBufferSize with ⟨n, head, _, taken⟩ | ⟨none, kept, _⟩
      · right; left
        exact ⟨n, head, by simp [step, taken]⟩
      · right; right
        rcases result : s.buffer.extractPacket outBufferSize with ⟨r, packet, b⟩
        rw [result] at none kept
        simp only at none kept
        subst kept
        cases r <;> simp_all [step]
  | peekConsume =>
      cases peek : s.buffer.peekPacket with
      | some n =>
          right; left
          exact ⟨n, (s.buffer.peekPacket_eq_some n).mp peek, by simp [step, peek]⟩
      | none =>
          right; right
          simp [step, peek]

theorem Reassembly.step_appended (s : Reassembly capacity) (op : Op) :
    s.appended <+: (s.step op).appended := by
  rcases s.step_cases op with ⟨chunk, _, grown, _⟩ | ⟨_, _, same, _⟩ | same
  · exact ⟨chunk, grown.symm⟩
  · exact ⟨[], by rw [same, List.append_nil]⟩
  · exact ⟨[], by rw [same, List.append_nil]⟩

section Sent

variable {packets : List (List UInt8)} (valid : ∀ p ∈ packets, IsPacket p)
include valid

theorem run_tracks (ops : List Op) (sent : (run capacity ops).appended <+: packets.flatten) :
    Tracks packets (run capacity ops).appended (run capacity ops).buffer.bytes
      (run capacity ops).extracted := by
  induction ops using List.reverseRecOn with
  | nil => exact tracks_nil packets
  | append_singleton ops op ih =>
      rw [run_concat] at sent ⊢
      have earlier := ih ((Reassembly.step_appended _ op).trans sent)
      rcases Reassembly.step_cases (run capacity ops) op with
        ⟨chunk, _, appended, bytes, extracted⟩ | ⟨n, head, appended, bytes, extracted⟩ | same
      · rw [appended] at sent
        rw [appended, bytes, extracted]
        exact earlier.append sent
      · rw [appended, bytes, extracted]
        exact earlier.take valid head
      · rw [same]
        exact earlier

theorem extract_progress {s : Reassembly capacity} {out : Nat}
    (tracks : Tracks packets s.appended s.buffer.bytes s.extracted)
    (all : s.appended = packets.flatten) (room : ∀ p ∈ packets, p.length ≤ out) :
    (s.step (.extract out)).appended = packets.flatten ∧
      min packets.length (s.extracted.length + 1) ≤ (s.step (.extract out)).extracted.length := by
  rcases s.buffer.extractPacket_cases out with ⟨n, head, _, taken⟩ | ⟨none, kept, small⟩
  · simp [Reassembly.step, taken, all]
  · rcases result : s.buffer.extractPacket out with ⟨r, packet, b⟩
    rw [result] at none
    have same : (s.step (.extract out)).appended = s.appended ∧
        (s.step (.extract out)).extracted = s.extracted := by
      cases r <;> simp_all [Reassembly.step]
    rw [same.1, same.2]
    refine ⟨all, ?_⟩
    rcases tracks.head_cases valid with ⟨done, _⟩ | ⟨f, rest, member, _, head, _⟩ |
      ⟨_, _, _, _, head⟩
    · rw [done]
      omega
    · have fits := room f (by simp [member])
      have := small _ head
      omega
    · have finished := (tracks.complete valid all head).1
      rw [finished]
      omega

theorem run_extract (ops : List Op) (all : (run capacity ops).appended = packets.flatten)
    {out : Nat} (room : ∀ p ∈ packets, p.length ≤ out) (k : Nat) :
    (run capacity (ops ++ List.replicate k (.extract out))).appended = packets.flatten ∧
      min packets.length ((run capacity ops).extracted.length + k) ≤
        (run capacity (ops ++ List.replicate k (.extract out))).extracted.length := by
  induction k with
  | zero => simp [all]
  | succ k ih =>
      have tracks := @run_tracks capacity packets valid
        (ops ++ List.replicate k (.extract out)) ⟨[], by rw [ih.1, List.append_nil]⟩
      have next := extract_progress valid tracks ih.1 room
      rw [List.replicate_succ', ← List.append_assoc, run_concat]
      exact ⟨next.1, by omega⟩

end Sent

/-- Stream reassembly is exact. Whatever order appends and extractions come in and
however the stream was cut, the extracted packets are a prefix of the sent ones
and the buffer holds the sent bytes not extracted yet; once everything is in and
the buffer reports no complete packet the extracted list is the sent list, and
repeated extraction gets there. What fits behind the bytes in the buffer is accepted. -/
theorem reassembly_exact {packets : List (List UInt8)} (valid : ∀ p ∈ packets, IsPacket p)
    (ops : List Op) (sent : (run capacity ops).appended <+: packets.flatten) :
    (run capacity ops).extracted <+: packets ∧
      (run capacity ops).appended =
        (run capacity ops).extracted.flatten ++ (run capacity ops).buffer.bytes ∧
      ((run capacity ops).appended = packets.flatten →
        (run capacity ops).buffer.peekPacketInfo.1 = .noCompletePacket →
          (run capacity ops).extracted = packets ∧ (run capacity ops).buffer.bytes = []) ∧
      ((run capacity ops).appended = packets.flatten →
        ∀ out, (∀ p ∈ packets, p.length ≤ out) → ∀ k, packets.length ≤ k →
          let drained := run capacity (ops ++ List.replicate k (.extract out))
          drained.extracted = packets ∧
            drained.buffer.peekPacketInfo.1 = .noCompletePacket) ∧
      ∀ chunk, (run capacity ops).buffer.bytes.length + chunk.length ≤ capacity →
        ((run capacity ops).buffer.append chunk).1 = .success ∧
          (run capacity (ops ++ [.append chunk])).appended =
            (run capacity ops).appended ++ chunk := by
  have tracks := run_tracks valid ops sent
  refine ⟨tracks.delivered_frames, tracks.received_eq, ?_, ?_, ?_⟩
  · intro all none
    rw [PacketBuffer.peekPacketInfo_eq_noCompletePacket] at none
    exact tracks.complete valid all none
  · intro all out room k enough drained
    obtain ⟨appended, length⟩ := run_extract valid ops all room k
    have after := run_tracks valid _ ⟨[], by rw [appended, List.append_nil]⟩
    have whole : drained.extracted = packets :=
      after.delivered_frames.eq_of_length_le (by omega)
    refine ⟨whole, ?_⟩
    rw [PacketBuffer.peekPacketInfo_eq_noCompletePacket]
    have rest : drained.buffer.bytes = [] := by
      have split := after.received_eq
      rw [appended, show (run capacity (ops ++ _)).extracted = packets from whole] at split
      exact List.append_right_eq_self.mp split.symm
    rw [rest]
    exact packetFraming.head_nil
  · intro chunk room
    have accepted := (run capacity ops).buffer.append_success room
    exact ⟨accepted, by rw [run_concat, Reassembly.step_append accepted]⟩

theorem reassembly_exact_two_packets :
    let packets := [encodeHeader .scanReplyEnd 0, encodeHeader .ping 2 ++ [0, 7]]
    let ops : List Op := [.append [0x52, 0x4C, 0x44], .peekConsume,
      .append [0x4E, 12, 1, 0, 0, 0, 0, 0, 0, 0x52, 0x4C], .extract 64,
      .append [0x44, 0x4E, 254, 1, 0, 0, 2, 0, 0, 0, 0, 7]]
    (run 32 ops).extracted <+: packets ∧
      (run 32 (ops ++ [.peekConsume])).extracted = packets ∧
      (run 32 (ops ++ List.replicate 2 (.extract 64))).extracted = packets ∧
      (run 32 (ops ++ [.append [0]])).appended = (run 32 ops).appended ++ [0] := by
  intro packets ops
  have valid : ∀ p ∈ packets, IsPacket p := by decide
  have partly := @reassembly_exact 32 packets valid ops ⟨[], by decide⟩
  have whole := @reassembly_exact 32 packets valid (ops ++ [.peekConsume]) ⟨[], by decide⟩
  refine ⟨partly.1, (whole.2.2.1 (by decide) (by decide)).1, ?_, ?_⟩
  · exact (partly.2.2.2.1 (by decide) 64 (by decide) 2 (by decide)).1
  · exact (partly.2.2.2.2 [0] (by decide)).2

end RyuLdn.StreamReassembly
