import Mathlib.Tactic.Ring

/-! Fixed-width arithmetic that says where it would wrap or divide by zero: an
operation has its exact value, or none. -/
namespace RyuLdn.CheckedArithmetic

def unsigned (width value : Nat) : Option Nat := if value < 2 ^ width then some value else none

def signed (width : Nat) (value : Int) : Option Int :=
  if -2 ^ (width - 1) ≤ value ∧ value < 2 ^ (width - 1) then some value else none

def mul (width a b : Nat) : Option Nat := unsigned width (a * b)

def sub (a b : Nat) : Option Nat := if b ≤ a then some (a - b) else none

def div (a b : Nat) : Option Nat := if b = 0 then none else some (a / b)

def mod (a b : Nat) : Option Nat := if b = 0 then none else some (a % b)

theorem unsigned_eq_some {width value result : Nat} :
    unsigned width value = some result ↔ value < 2 ^ width ∧ value = result := by
  unfold unsigned
  by_cases room : value < 2 ^ width <;> simp [room]

theorem mul_of_lt {width a b : Nat} (room : a * b < 2 ^ width) : mul width a b = some (a * b) :=
  unsigned_eq_some.mpr ⟨room, rfl⟩

theorem signed_of_bounds {width : Nat} {value : Int} (lower : -2 ^ (width - 1) ≤ value)
    (upper : value < 2 ^ (width - 1)) : signed width value = some value :=
  if_pos ⟨lower, upper⟩

theorem sub_of_le {a b : Nat} (enough : b ≤ a) : sub a b = some (a - b) := if_pos enough

theorem div_of_pos {a b : Nat} (positive : 0 < b) : div a b = some (a / b) :=
  if_neg (Nat.ne_of_gt positive)

theorem mod_of_pos {a b : Nat} (positive : 0 < b) : mod a b = some (a % b) :=
  if_neg (Nat.ne_of_gt positive)

theorem toNat_mul {a b : UInt32} {product : Nat}
    (fits : mul 32 a.toNat b.toNat = some product) : (a * b).toNat = product := by
  have ⟨room, value⟩ := unsigned_eq_some.mp fits
  rw [UInt32.toNat_mul, Nat.mod_eq_of_lt room, value]

theorem toNat_div {a b : UInt32} {quotient : Nat}
    (fits : div a.toNat b.toNat = some quotient) : (a / b).toNat = quotient := by
  unfold div at fits
  split at fits
  · contradiction
  · rw [UInt32.toNat_div]
    exact Option.some.inj fits

theorem toNat_sub {a b : UInt32} {difference : Nat}
    (fits : sub a.toNat b.toNat = some difference) : (a - b).toNat = difference := by
  unfold sub at fits
  split at fits
  · rename_i enough
    rw [UInt32.toNat_sub_of_le a b (UInt32.le_iff_toNat_le.mpr enough)]
    exact Option.some.inj fits
  · contradiction

end RyuLdn.CheckedArithmetic
