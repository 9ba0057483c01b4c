import RyuLdn.StreamReassembly

/-! Resynchronisation of `PacketBuffer` after a protocol error: bytes are given up one by
one until the buffer starts with a header that `decode_header` accepts, or is too short
for one. -/
namespace RyuLdn.StreamReassembly

open ProtocolCodec

variable {capacity : Nat}

namespace PacketBuffer

theorem size_consume_one_lt {b : PacketBuffer capacity} (long : headerSize ≤ b.size) :
    (b.consume 1).size < b.size := by
  have some : 0 < b.size := Nat.lt_of_lt_of_le (by decide) long
  change (b.consume 1).bytes.length < b.bytes.length
  rw [consume_bytes, List.length_drop]
  exact Nat.sub_lt some Nat.one_pos

/-- The loop of `discard_until_valid`, with the count it carries. -/
def discardLoop (b : PacketBuffer capacity) (discarded : Nat) : Nat × PacketBuffer capacity :=
  if long : headerSize ≤ b.size then
    let result := (decodeHeader b.bytes).1
    if result = .success ∨ result = .incompletePacket then (discarded, b)
    else (b.consume 1).discardLoop (discarded + 1)
  else (discarded, b)
termination_by b.size
decreasing_by exact size_consume_one_lt long

def discardUntilValid (b : PacketBuffer capacity) : Nat × PacketBuffer capacity :=
  b.discardLoop 0

end PacketBuffer

def Resynchronised (bytes : List UInt8) : Prop :=
  (decodeHeader bytes).1 = .success ∨ bytes.length < headerSize

/-- `n` is the length of the shortest prefix behind which the search ends. -/
structure IsResync (bytes : List UInt8) (n : Nat) : Prop where
  ends : Resynchronised (bytes.drop n)
  least : ∀ k < n, ¬ Resynchronised (bytes.drop k)

theorem isResync_zero {bytes : List UInt8} (ends : Resynchronised bytes) : IsResync bytes 0 :=
  ⟨ends, fun _ before => absurd before (Nat.not_lt_zero _)⟩

theorem IsResync.succ {bytes : List UInt8} {n : Nat} (rest : IsResync (bytes.drop 1) n)
    (goesOn : ¬ Resynchronised bytes) : IsResync bytes (n + 1) where
  ends := by
    have ends := rest.ends
    rwa [List.drop_drop, Nat.add_comm] at ends
  least := by
    intro k before
    cases k with
    | zero => exact goesOn
    | succ k =>
        have later := rest.least k (by omega)
        rwa [List.drop_drop, Nat.add_comm] at later

theorem IsResync.le_length {bytes : List UInt8} {n : Nat} (resync : IsResync bytes n) :
    n ≤ bytes.length := by
  by_contra late
  apply resync.least bytes.length (by omega)
  rw [List.drop_length]
  exact Or.inr (by decide)

theorem decodeHeader_ne_incompletePacket (buffer : List UInt8) :
    (decodeHeader buffer).1 ≠ .incompletePacket := by
  unfold decodeHeader LdnHeader.check
  dsimp only
  split_ifs <;> simp

theorem discardLoop_spec (b : PacketBuffer capacity) (discarded : Nat) :
    ∃ n, (b.discardLoop discarded).1 = discarded + n ∧
      (b.discardLoop discarded).2.bytes = b.bytes.drop n ∧ IsResync b.bytes n := by
  induction b, discarded using PacketBuffer.discardLoop.induct with
  | case1 b discarded long result found =>
      have accepted : (decodeHeader b.bytes).1 = .success :=
        found.resolve_right (decodeHeader_ne_incompletePacket b.bytes)
      refine ⟨0, ?_, ?_, isResync_zero (Or.inl accepted)⟩ <;>
        rw [PacketBuffer.discardLoop, dif_pos long, if_pos found] <;> rfl
  | case2 b discarded long result refused ih =>
      obtain ⟨n, count, left, resync⟩ := ih
      rw [PacketBuffer.consume_bytes] at left resync
      have goesOn : ¬ Resynchronised b.bytes := by
        rintro (accepted | short)
        · exact refused (Or.inl accepted)
        · exact absurd long (Nat.not_le.mpr short)
      refine ⟨n + 1, ?_, ?_, resync.succ goesOn⟩ <;>
        rw [PacketBuffer.discardLoop, dif_pos long, if_neg refused]
      · rw [count]
        omega
      · rw [left, List.drop_drop, Nat.add_comm]
  | case3 b discarded short =>
      refine ⟨0, ?_, ?_, isResync_zero (Or.inr (Nat.not_le.mp short))⟩ <;>
        rw [PacketBuffer.discardLoop, dif_neg short] <;> rfl

theorem IsResync.spares {front packet behind : List UInt8} {n : Nat}
    (resync : IsResync (front ++ packet ++ behind) n) (valid : IsPacket packet) :
    n ≤ front.length ∧ (n < front.length →
      (decodeHeader ((front ++ packet ++ behind).drop n)).1 = .success) := by
  obtain ⟨accepted, long, -⟩ := checkCompletePacket_success.mp
    (packetHead_frame.mp (isPacket_iff.mp valid))
  have header : headerSize ≤ packet.length := by omega
  refine ⟨?_, ?_⟩
  · by_contra late
    apply resync.least front.length (by omega)
    rw [List.append_assoc, List.drop_left]
    left
    rwa [decodeHeader_append header]
  · intro early
    apply resync.ends.resolve_right
    rw [List.length_drop, List.length_append, List.length_append]
    omega

/-- Resynchronisation discards the least possible. -/
theorem discardUntilValid_least (b : PacketBuffer capacity) :
    b.discardUntilValid.2.bytes = b.bytes.drop b.discardUntilValid.1 ∧
      b.discardUntilValid.1 ≤ b.bytes.length ∧ IsResync b.bytes b.discardUntilValid.1 ∧
      ∀ front packet behind, b.bytes = front ++ packet ++ behind → IsPacket packet →
        b.discardUntilValid.1 ≤ front.length ∧ (b.discardUntilValid.1 < front.length →
          (decodeHeader b.discardUntilValid.2.bytes).1 = .success) := by
  obtain ⟨n, count, left, resync⟩ := discardLoop_spec b 0
  rw [Nat.zero_add] at count
  have same : b.discardUntilValid.1 = n := count
  have rest : b.discardUntilValid.2.bytes = b.bytes.drop n := left
  rw [same, rest]
  refine ⟨rfl, resync.le_length, resync, ?_⟩
  intro front packet behind split valid
  rw [split] at resync ⊢
  exact resync.spares valid

end RyuLdn.StreamReassembly
