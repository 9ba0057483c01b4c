import Mathlib.Data.List.Induction
import Mathlib.Tactic.Ring

/-! Big-endian byte images of natural numbers, and checked reads from a buffer. `value`
is the shift-and-or that programs write out; `read` is `none` when a byte of the field
lies outside the buffer. -/
namespace RyuLdn.BigEndian

def bytes : (width : Nat) → Nat → List UInt8
  | 0, _ => []
  | width + 1, v => bytes width (v / 256) ++ [UInt8.ofNat v]

def value (image : List UInt8) : Nat := image.foldl (fun v b => v <<< 8 ||| b.toNat) 0

@[simp] theorem bytes_length (width v : Nat) : (bytes width v).length = width := by
  induction width generalizing v with
  | zero => rfl
  | succ width ih => rw [bytes, List.length_append, ih, List.length_singleton]

theorem value_concat (image : List UInt8) (b : UInt8) :
    value (image ++ [b]) = value image * 256 + b.toNat := by
  have low : b.toNat < 2 ^ 8 := b.toNat_lt
  rw [value, List.foldl_append, List.foldl_cons, List.foldl_nil,
    ← Nat.shiftLeft_add_eq_or_of_lt low, Nat.shiftLeft_eq]
  rfl

theorem value_bytes (width v : Nat) : value (bytes width v) = v % 256 ^ width := by
  induction width generalizing v with
  | zero => rw [pow_zero, Nat.mod_one]; rfl
  | succ width ih =>
      have split := Nat.mod_mul (x := v) (a := 256) (b := 256 ^ width)
      rw [bytes, value_concat, ih, pow_succ, Nat.mul_comm (256 ^ width) 256, split,
        UInt8.toNat_ofNat']
      omega

theorem value_bytes_of_lt {width v : Nat} (fits : v < 256 ^ width) :
    value (bytes width v) = v := by
  rw [value_bytes, Nat.mod_eq_of_lt fits]

theorem value_lt (image : List UInt8) : value image < 256 ^ image.length := by
  induction image using List.reverseRecOn with
  | nil => exact Nat.one_pos
  | append_singleton image b ih =>
      have low := b.toNat_lt
      rw [value_concat, List.length_append, List.length_singleton, pow_succ]
      omega

theorem bytes_value (image : List UInt8) : bytes image.length (value image) = image := by
  induction image using List.reverseRecOn with
  | nil => rfl
  | append_singleton image b ih =>
      have low := b.toNat_lt
      have high : (value image * 256 + b.toNat) / 256 = value image := by omega
      have last : UInt8.ofNat (value image * 256 + b.toNat) = b := by
        rw [← UInt8.toNat_inj, UInt8.toNat_ofNat']
        omega
      rw [value_concat, List.length_append, List.length_singleton, bytes, high, ih, last]

def read (buffer : List UInt8) (p width : Nat) : Option Nat :=
  if p + width ≤ buffer.length then some (value ((buffer.drop p).take width)) else none

theorem read_of_le {buffer : List UInt8} {p width : Nat} (inside : p + width ≤ buffer.length) :
    read buffer p width = some (value ((buffer.drop p).take width)) :=
  if_pos inside

end RyuLdn.BigEndian
