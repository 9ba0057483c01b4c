import Mathlib.Data.Nat.ModEq
import Mathlib.Tactic.Ring

/-! Little-endian byte images of natural numbers.
`bytes n v` is the `n`-byte image a packed C structure field of that width has
in memory; `value` reads such an image back. Widths are arbitrary, so the
16-, 32- and 64-bit fields of a format are one definition. -/
namespace RyuLdn.LittleEndian

def bytes : (width : Nat) → Nat → List UInt8
  | 0, _ => []
  | width + 1, v => UInt8.ofNat v :: bytes width (v / 256)

def value : List UInt8 → Nat
  | [] => 0
  | b :: rest => b.toNat + 256 * value rest

@[simp] theorem bytes_length (width v : Nat) : (bytes width v).length = width := by
  induction width generalizing v with
  | zero => rfl
  | succ width ih => simp [bytes, ih]

theorem value_bytes (width v : Nat) : value (bytes width v) = v % 256 ^ width := by
  induction width generalizing v with
  | zero => simp [bytes, value, Nat.mod_one]
  | succ width ih =>
      have split := Nat.mod_mul (x := v) (a := 256) (b := 256 ^ width)
      rw [bytes, value, ih, pow_succ, Nat.mul_comm (256 ^ width) 256, split]
      simp

theorem value_bytes_of_lt {width v : Nat} (h : v < 256 ^ width) :
    value (bytes width v) = v := by
  rw [value_bytes, Nat.mod_eq_of_lt h]

theorem bytes_mod (width v : Nat) : bytes width (v % 256 ^ width) = bytes width v := by
  induction width generalizing v with
  | zero => rfl
  | succ width ih =>
      have low : UInt8.ofNat (v % 256 ^ (width + 1)) = UInt8.ofNat v := by
        rw [UInt8.ofNat_eq_iff_mod_eq_toNat, UInt8.toNat_ofNat', pow_succ, Nat.mul_comm]
        exact Nat.mod_mul_right_mod v 256 (256 ^ width)
      have high : v % 256 ^ (width + 1) / 256 = v / 256 % 256 ^ width := by
        rw [pow_succ, Nat.mul_comm, Nat.mod_mul_right_div_self]
      rw [bytes, bytes, low, high, ih]

end RyuLdn.LittleEndian
