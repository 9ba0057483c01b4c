import RyuLdn.CheckedArithmetic
import RyuLdn.LdnClientRetries
import Mathlib.Order.Monotone.Basic

/-! The 32-bit arithmetic of the backoff against exact arithmetic: when no intermediate
wraps, how the delay grows, and how far the jitter moves it. -/
namespace RyuLdn.Reconnect

open CheckedArithmetic (mul sub div mod signed)

/-- The loop of `calculate_delay`, stopped where an intermediate would wrap. -/
def ReconnectConfig.growChecked (config : ReconnectConfig) : Nat → Nat → Option Nat
  | 0, delay => some delay
  | turns + 1, delay => do
      let scaledMax ← mul 32 config.maxDelayMs.toNat 100
      let safeThreshold ← div scaledMax config.multiplierPercent.toNat
      if delay ≥ safeThreshold then some config.maxDelayMs.toNat
      else
        let scaled ← mul 32 delay config.multiplierPercent.toNat
        if scaled / 100 > config.maxDelayMs.toNat then some config.maxDelayMs.toNat
        else config.growChecked turns (scaled / 100)

def ReconnectConfig.calculateDelayChecked (config : ReconnectConfig) (retryCount : UInt32) :
    Option Nat :=
  if retryCount.toNat < config.fastRetries.toNat then some config.fastDelayMs.toNat
  else do
    let exponentialCount ← sub retryCount.toNat config.fastRetries.toNat
    config.growChecked exponentialCount config.initialDelayMs.toNat

/-- `get_next_delay_ms_with_jitter` with its 32-bit range and offsets and its 64-bit
product checked. -/
def ReconnectConfig.jitterChecked (config : ReconnectConfig) (delay : Nat) (seed : UInt32) :
    Option Int :=
  let jitter : Nat := config.jitterPercent.toNat
  if jitter = 0 then some delay
  else do
    let jitterRange ← signed 32 (2 * jitter + 1)
    let residue ← mod (ReconnectManager.hash seed).toNat jitterRange.toNat
    let jitterOffset ← signed 32 (residue - jitter)
    let percent ← signed 32 (100 + jitterOffset)
    let scaled ← signed 64 (delay * percent)
    some (min (max (scaled.tdiv 100) 1) config.maxDelayMs.toNat)

namespace ReconnectConfig

theorem grow_of_growChecked (config : ReconnectConfig) (turns : Nat) :
    ∀ {delay : UInt32} {value : Nat}, config.growChecked turns delay.toNat = some value →
      (config.grow turns delay).toNat = value := by
  induction turns with
  | zero =>
      intro delay value fits
      exact Option.some.inj fits
  | succ turns ih =>
      intro delay value fits
      unfold growChecked at fits
      simp only [Option.bind_eq_bind, Option.bind_eq_some_iff] at fits
      obtain ⟨scaledMax, product, threshold, quotient, branch⟩ := fits
      have wide : config.multiplierPercent.toUInt32.toNat = config.multiplierPercent.toNat :=
        UInt16.toNat_toUInt32 _
      have scaledMaxEq : (config.maxDelayMs * 100).toNat = scaledMax :=
        CheckedArithmetic.toNat_mul product
      have thresholdEq :
          (config.maxDelayMs * 100 / config.multiplierPercent.toUInt32).toNat = threshold := by
        apply CheckedArithmetic.toNat_div
        rw [scaledMaxEq, wide]
        exact quotient
      unfold grow
      simp only [ge_iff_le, gt_iff_lt, UInt32.le_iff_toNat_le, UInt32.lt_iff_toNat_lt, thresholdEq]
      split at branch
      · rename_i clamped
        rw [if_pos clamped]
        exact Option.some.inj branch
      · rename_i below
        rw [if_neg below]
        simp only [Option.bind_eq_some_iff] at branch
        obtain ⟨scaled, scaling, rest⟩ := branch
        have scaledEq : (delay * config.multiplierPercent.toUInt32).toNat = scaled := by
          apply CheckedArithmetic.toNat_mul
          rw [wide]
          exact scaling
        have nextEq : (delay * config.multiplierPercent.toUInt32 / 100).toNat = scaled / 100 := by
          rw [UInt32.toNat_div, scaledEq]
          rfl
        simp only [nextEq]
        split at rest
        · rename_i above
          rw [if_pos above]
          exact Option.some.inj rest
        · rename_i within
          rw [if_neg within]
          apply ih
          rw [nextEq]
          exact rest

theorem calculateDelay_of_checked (config : ReconnectConfig) {retryCount : UInt32} {value : Nat}
    (fits : config.calculateDelayChecked retryCount = some value) :
    (config.calculateDelay retryCount).toNat = value := by
  have wide : config.fastRetries.toUInt32.toNat = config.fastRetries.toNat :=
    UInt8.toNat_toUInt32 _
  unfold calculateDelayChecked at fits
  unfold calculateDelay
  simp only [UInt32.lt_iff_toNat_lt, wide]
  split at fits
  · rename_i fast
    rw [if_pos fast]
    exact Option.some.inj fits
  · rename_i exponential
    rw [if_neg exponential]
    simp only [Option.bind_eq_bind, Option.bind_eq_some_iff] at fits
    obtain ⟨count, difference, grown⟩ := fits
    have countEq : (retryCount - config.fastRetries.toUInt32).toNat = count := by
      apply CheckedArithmetic.toNat_sub
      rw [wide]
      exact difference
    rw [countEq]
    exact config.grow_of_growChecked count grown

structure Growing (config : ReconnectConfig) : Prop where
  multiplier : 100 ≤ config.multiplierPercent.toNat
  initial_le : config.initialDelayMs.toNat ≤ config.maxDelayMs.toNat
  max_fits : config.maxDelayMs.toNat * 100 < 2 ^ 32

def next (config : ReconnectConfig) (delay : Nat) : Nat :=
  if config.maxDelayMs.toNat * 100 / config.multiplierPercent.toNat ≤ delay then
    config.maxDelayMs.toNat
  else min (delay * config.multiplierPercent.toNat / 100) config.maxDelayMs.toNat

theorem next_le (config : ReconnectConfig) (delay : Nat) :
    config.next delay ≤ config.maxDelayMs.toNat := by
  unfold next
  split
  · exact le_refl _
  · exact Nat.min_le_right ..

theorem iterate_next_le (config : ReconnectConfig) {delay : Nat}
    (within : delay ≤ config.maxDelayMs.toNat) (turns : Nat) :
    config.next^[turns] delay ≤ config.maxDelayMs.toNat := by
  cases turns with
  | zero => exact within
  | succ turns =>
      rw [Function.iterate_succ_apply']
      exact config.next_le _

variable {config : ReconnectConfig} (growing : config.Growing)
include growing

theorem le_next {delay : Nat} (within : delay ≤ config.maxDelayMs.toNat) :
    delay ≤ config.next delay := by
  unfold next
  split
  · exact within
  · have grown : delay ≤ delay * config.multiplierPercent.toNat / 100 := by
      rw [Nat.le_div_iff_mul_le (by decide)]
      exact Nat.mul_le_mul_left delay growing.multiplier
    exact Nat.le_min.mpr ⟨grown, within⟩

theorem next_max : config.next config.maxDelayMs.toNat = config.maxDelayMs.toNat :=
  Nat.le_antisymm (config.next_le _) (le_next growing (le_refl _))

theorem iterate_next_max (turns : Nat) :
    config.next^[turns] config.maxDelayMs.toNat = config.maxDelayMs.toNat :=
  Function.iterate_fixed (next_max growing) turns

theorem growChecked_eq (turns : Nat) : ∀ {delay : Nat},
    delay ≤ config.maxDelayMs.toNat →
      config.growChecked turns delay = some (config.next^[turns] delay) := by
  have positive : 0 < config.multiplierPercent.toNat :=
    Nat.lt_of_lt_of_le (by decide) growing.multiplier
  induction turns with
  | zero =>
      intro delay within
      rfl
  | succ turns ih =>
      intro delay within
      have max_product := CheckedArithmetic.mul_of_lt growing.max_fits
      have quotient := CheckedArithmetic.div_of_pos positive (a := config.maxDelayMs.toNat * 100)
      unfold growChecked
      simp only [max_product, quotient, Option.bind_eq_bind, Option.bind_some]
      rw [Function.iterate_succ_apply]
      by_cases clamped :
          config.maxDelayMs.toNat * 100 / config.multiplierPercent.toNat ≤ delay
      · have stepped : config.next delay = config.maxDelayMs.toNat := if_pos clamped
        rw [if_pos clamped, stepped, iterate_next_max growing]
      · have below : delay * config.multiplierPercent.toNat < config.maxDelayMs.toNat * 100 := by
          have short := Nat.mul_lt_mul_of_pos_right (Nat.lt_of_not_le clamped) positive
          exact short.trans_le (Nat.div_mul_le_self _ _)
        have product := CheckedArithmetic.mul_of_lt (below.trans growing.max_fits)
        have within' : delay * config.multiplierPercent.toNat / 100 ≤ config.maxDelayMs.toNat := by
          rw [Nat.div_le_iff_le_mul_add_pred (by decide)]
          omega
        have stepped : config.next delay = delay * config.multiplierPercent.toNat / 100 := by
          unfold next
          rw [if_neg clamped, Nat.min_eq_left within']
        rw [if_neg clamped, product, Option.bind_some, if_neg (Nat.not_lt.mpr within'), ih within',
          stepped]

end ReconnectConfig

namespace ReconnectConfig

def delayAt (config : ReconnectConfig) (retryCount : Nat) : Nat :=
  if retryCount < config.fastRetries.toNat then config.fastDelayMs.toNat
  else config.next^[retryCount - config.fastRetries.toNat] config.initialDelayMs.toNat

theorem delayAt_succ (config : ReconnectConfig) {retryCount : Nat}
    (exponential : config.fastRetries.toNat ≤ retryCount) :
    config.delayAt (retryCount + 1) = config.next (config.delayAt retryCount) := by
  unfold delayAt
  rw [if_neg (by omega), if_neg (by omega), Nat.sub_add_comm exponential,
    Function.iterate_succ_apply']

section
variable {config : ReconnectConfig} (growing : config.Growing)
include growing

theorem calculateDelayChecked_eq (retryCount : UInt32) :
    config.calculateDelayChecked retryCount = some (config.delayAt retryCount.toNat) := by
  unfold calculateDelayChecked delayAt
  split
  · rfl
  · rename_i exponential
    have count := CheckedArithmetic.sub_of_le (Nat.le_of_not_lt exponential)
    rw [count]
    exact growChecked_eq growing _ growing.initial_le

theorem calculateDelay_eq (retryCount : UInt32) :
    (config.calculateDelay retryCount).toNat = config.delayAt retryCount.toNat :=
  config.calculateDelay_of_checked (calculateDelayChecked_eq growing retryCount)

theorem initial_le_iterate (turns : Nat) :
    config.initialDelayMs.toNat ≤ config.next^[turns] config.initialDelayMs.toNat := by
  induction turns with
  | zero => exact le_refl _
  | succ turns ih =>
      rw [Function.iterate_succ_apply']
      exact ih.trans (le_next growing (config.iterate_next_le growing.initial_le turns))

end

/-- Settings with a fast delay that the exponential phase does not fall below. -/
structure Sane (config : ReconnectConfig) : Prop extends config.Growing where
  fast_pos : 1 ≤ config.fastDelayMs.toNat
  fast_le : config.fastDelayMs.toNat ≤ config.initialDelayMs.toNat

section
variable {config : ReconnectConfig} (sane : config.Sane)
include sane

theorem fast_le_delayAt (retryCount : Nat) :
    config.fastDelayMs.toNat ≤ config.delayAt retryCount := by
  unfold delayAt
  split
  · exact le_refl _
  · exact sane.fast_le.trans (initial_le_iterate sane.toGrowing _)

theorem delayAt_le (retryCount : Nat) : config.delayAt retryCount ≤ config.maxDelayMs.toNat := by
  unfold delayAt
  split
  · exact sane.fast_le.trans sane.initial_le
  · exact config.iterate_next_le sane.initial_le _

theorem delayAt_mono : Monotone config.delayAt := by
  apply monotone_nat_of_le_succ
  intro retryCount
  by_cases fast : retryCount < config.fastRetries.toNat
  · have current : config.delayAt retryCount = config.fastDelayMs.toNat := if_pos fast
    rw [current]
    exact fast_le_delayAt sane _
  · rw [config.delayAt_succ (Nat.le_of_not_lt fast)]
    exact le_next sane.toGrowing (delayAt_le sane _)

theorem delayAt_stays {first second : Nat} (later : first ≤ second)
    (reached : config.delayAt first = config.maxDelayMs.toNat) :
    config.delayAt second = config.maxDelayMs.toNat := by
  apply Nat.le_antisymm (delayAt_le sane _)
  rw [← reached]
  exact delayAt_mono sane later

end

end ReconnectConfig

namespace ReconnectManager

def delayMs (manager : ReconnectManager) : Nat := manager.currentDelayMs.toNat

theorem iterate_recordFailure (manager : ReconnectManager) (calls : Nat) :
    (recordFailure^[calls] manager).config = manager.config ∧
      (recordFailure^[calls] manager).retryCount.toNat =
        min (manager.retryCount.toNat + calls) 0xFFFFFFFF := by
  induction calls with
  | zero =>
      have bound := manager.retryCount.toNat_lt
      refine ⟨rfl, ?_⟩
      simp only [Function.iterate_zero, id_eq, Nat.add_zero]
      omega
  | succ calls ih =>
      obtain ⟨config, count⟩ := ih
      rw [Function.iterate_succ_apply']
      refine ⟨config, ?_⟩
      have limit : (0xFFFFFFFF : UInt32).toNat = 0xFFFFFFFF := rfl
      generalize recordFailure^[calls] manager = reached at count
      unfold recordFailure
      simp only [UInt32.lt_iff_toNat_lt, limit]
      split
      · rename_i room
        have one : (1 : UInt32).toNat = 1 := rfl
        rw [UInt32.toNat_add, one, Nat.mod_eq_of_lt (by omega)]
        omega
      · omega

theorem delayMs_iterate {manager : ReconnectManager} (growing : manager.config.Growing)
    (calls : Nat) :
    (recordFailure^[calls] manager).delayMs =
      manager.config.delayAt (min (manager.retryCount.toNat + calls) 0xFFFFFFFF) := by
  have ⟨config, count⟩ := manager.iterate_recordFailure calls
  unfold delayMs
  rw [(recordFailure^[calls] manager).calculated, config,
    ReconnectConfig.calculateDelay_eq growing, count]

theorem tdiv_bounds (delay : Nat) {jitter : Nat} {offset : Int} (lower : -(jitter : Int) ≤ offset)
    (upper : offset ≤ jitter) :
    (delay : Int) - ((delay * jitter + 99) / 100 : Nat) ≤
        ((delay : Int) * (100 + offset)).tdiv 100 ∧
      ((delay : Int) * (100 + offset)).tdiv 100 ≤
        delay + ((delay * jitter + 99) / 100 : Nat) := by
  have below : -((delay : Int) * jitter) ≤ delay * offset := by
    rw [← Int.mul_neg]
    exact Int.mul_le_mul_of_nonneg_left lower (Int.natCast_nonneg delay)
  have above : (delay : Int) * offset ≤ delay * jitter :=
    Int.mul_le_mul_of_nonneg_left upper (Int.natCast_nonneg delay)
  have product : (delay : Int) * (100 + offset) = 100 * delay + delay * offset := by
    rw [Int.mul_add, Int.mul_comm (delay : Int) 100]
  have cast : ((delay * jitter : Nat) : Int) = (delay : Int) * jitter := Int.natCast_mul ..
  rw [product]
  generalize (delay : Int) * offset = moved at below above
  have sign : Int.sign 100 = 1 := rfl
  rw [Int.tdiv_eq_ediv, sign]
  split <;> omega

def jitterOffset (manager : ReconnectManager) (seed : UInt32) : Int :=
  ((hash seed).toNat % (2 * manager.config.jitterPercent.toNat + 1) : Nat) -
    (manager.config.jitterPercent.toNat : Int)

theorem jitterOffset_bounds (manager : ReconnectManager) (seed : UInt32) :
    -(manager.config.jitterPercent.toNat : Int) ≤ manager.jitterOffset seed ∧
      manager.jitterOffset seed ≤ manager.config.jitterPercent.toNat := by
  have positive : 0 < 2 * manager.config.jitterPercent.toNat + 1 := Nat.succ_pos _
  have residue := Nat.mod_lt (hash seed).toNat positive
  unfold jitterOffset
  omega

theorem toNat_getNextDelayMsWithJitter {manager : ReconnectManager}
    (jitters : manager.config.jitterPercent ≠ 0) (seed : UInt32) :
    ((manager.getNextDelayMsWithJitter seed).toNat : Int) =
      min (max (((manager.delayMs : Int) * (100 + manager.jitterOffset seed)).tdiv 100) 1)
        manager.config.maxDelayMs.toNat := by
  have bound := manager.config.jitterPercent.toNat_lt
  have limit := manager.config.maxDelayMs.toNat_lt
  have range : (2 * manager.config.jitterPercent.toUInt32 + 1).toNat =
      2 * manager.config.jitterPercent.toNat + 1 := by
    have two : (2 : UInt32).toNat = 2 := rfl
    have one : (1 : UInt32).toNat = 1 := rfl
    rw [UInt32.toNat_add, UInt32.toNat_mul, UInt8.toNat_toUInt32, two, one]
    omega
  have residue : (hash seed % (2 * manager.config.jitterPercent.toUInt32 + 1)).toNat =
      (hash seed).toNat % (2 * manager.config.jitterPercent.toNat + 1) := by
    rw [UInt32.toNat_mod, range]
  unfold getNextDelayMsWithJitter jitterOffset delayMs
  rw [if_neg jitters]
  simp only [residue]
  generalize ((manager.currentDelayMs.toNat : Int) * _).tdiv 100 = adjusted
  rw [UInt32.toNat_ofNat']
  split <;> split <;> omega

structure Jittered (manager : ReconnectManager) (seed : UInt32) : Prop where
  le_max : (manager.getNextDelayMsWithJitter seed).toNat ≤ manager.config.maxDelayMs.toNat
  pos : 1 ≤ manager.delayMs → 1 ≤ (manager.getNextDelayMsWithJitter seed).toNat
  ge : manager.delayMs ≤ (manager.getNextDelayMsWithJitter seed).toNat +
    (manager.delayMs * manager.config.jitterPercent.toNat + 99) / 100
  le : 1 ≤ manager.delayMs → (manager.getNextDelayMsWithJitter seed).toNat ≤
    manager.delayMs + (manager.delayMs * manager.config.jitterPercent.toNat + 99) / 100

theorem jittered {manager : ReconnectManager}
    (within : manager.delayMs ≤ manager.config.maxDelayMs.toNat) (seed : UInt32) :
    manager.Jittered seed := by
  by_cases jitters : manager.config.jitterPercent = 0
  · have plain : (manager.getNextDelayMsWithJitter seed).toNat = manager.delayMs := by
      unfold getNextDelayMsWithJitter
      rw [if_pos jitters]
      rfl
    exact ⟨plain ▸ within, plain ▸ id, by omega, fun _ => by omega⟩
  · have ⟨lower, upper⟩ := manager.jitterOffset_bounds seed
    have ⟨above, below⟩ := tdiv_bounds manager.delayMs lower upper
    have value := toNat_getNextDelayMsWithJitter jitters seed
    generalize ((manager.delayMs : Int) * _).tdiv 100 = adjusted at above below value
    rw [Int.min_def, Int.max_def] at value
    constructor <;> split at value <;> split at value <;> omega

/-- Backoff under sane settings, from any manager and after any number of failures: no
intermediate wraps, the delay rises to its maximum and stays there, and the jitter moves
it by at most its percentage, rounded up. -/
theorem backoff_exact {manager : ReconnectManager} (sane : manager.config.Sane) :
    (∀ retryCount, manager.config.calculateDelayChecked retryCount =
        some (manager.config.calculateDelay retryCount).toNat) ∧
      (∀ first second, first ≤ second →
        manager.config.calculateDelay first ≤ manager.config.calculateDelay second) ∧
      (∀ calls, (recordFailure^[calls] manager).delayMs ≤ manager.config.maxDelayMs.toNat) ∧
      (∀ calls later, calls ≤ later →
        (recordFailure^[calls] manager).delayMs ≤ (recordFailure^[later] manager).delayMs ∧
          ((recordFailure^[calls] manager).delayMs = manager.config.maxDelayMs.toNat →
            (recordFailure^[later] manager).delayMs = manager.config.maxDelayMs.toNat)) ∧
      ∀ calls seed,
        let base := (recordFailure^[calls] manager).delayMs
        let jittered := ((recordFailure^[calls] manager).getNextDelayMsWithJitter seed).toNat
        1 ≤ jittered ∧ jittered ≤ manager.config.maxDelayMs.toNat ∧
          jittered ≤ base + (base * manager.config.jitterPercent.toNat + 99) / 100 ∧
          base ≤ jittered + (base * manager.config.jitterPercent.toNat + 99) / 100 := by
  have growing := sane.toGrowing
  refine ⟨?_, ?_, ?_, ?_, ?_⟩
  · intro retryCount
    rw [ReconnectConfig.calculateDelayChecked_eq growing,
      ReconnectConfig.calculateDelay_eq growing]
  · intro first second later
    rw [UInt32.le_iff_toNat_le, ReconnectConfig.calculateDelay_eq growing,
      ReconnectConfig.calculateDelay_eq growing]
    exact ReconnectConfig.delayAt_mono sane (UInt32.le_iff_toNat_le.mp later)
  · intro calls
    rw [delayMs_iterate growing]
    exact ReconnectConfig.delayAt_le sane _
  · intro calls later order
    have counts : min (manager.retryCount.toNat + calls) 0xFFFFFFFF ≤
        min (manager.retryCount.toNat + later) 0xFFFFFFFF := by
      omega
    rw [delayMs_iterate growing, delayMs_iterate growing]
    exact ⟨ReconnectConfig.delayAt_mono sane counts, ReconnectConfig.delayAt_stays sane counts⟩
  · intro calls seed
    have ⟨config, _⟩ := manager.iterate_recordFailure calls
    have value := delayMs_iterate growing calls
    have positive : 1 ≤ (recordFailure^[calls] manager).delayMs := by
      rw [value]
      exact sane.fast_pos.trans (ReconnectConfig.fast_le_delayAt sane _)
    have within : (recordFailure^[calls] manager).delayMs ≤
        (recordFailure^[calls] manager).config.maxDelayMs.toNat := by
      rw [value, config]
      exact ReconnectConfig.delayAt_le sane _
    have moved := jittered within seed
    have upper := moved.le positive
    have lower := moved.ge
    have cap := moved.le_max
    rw [config] at upper lower cap
    exact ⟨moved.pos positive, cap, upper, lower⟩

theorem backoff_exact_default :
    (ReconnectManager.new .default).config.Sane ∧
      ∀ calls, (recordFailure^[calls] (ReconnectManager.new .default)).delayMs ≤ 30000 := by
  have sane : (ReconnectManager.new .default).config.Sane :=
    { multiplier := by decide, initial_le := by decide, max_fits := by decide,
      fast_pos := by decide, fast_le := by decide }
  exact ⟨sane, (backoff_exact sane).2.2.1⟩

def atRetry (config : ReconnectConfig) (retryCount : UInt32) : ReconnectManager :=
  ⟨config, retryCount, config.calculateDelay retryCount, rfl⟩

end ReconnectManager

open ReconnectManager (atRetry)

theorem ReconnectConfig.jitterChecked_fits (config : ReconnectConfig) {delay : Nat}
    (bound : delay < 2 ^ 32) (seed : UInt32) : (config.jitterChecked delay seed).isSome := by
  have small := config.jitterPercent.toNat_lt
  unfold jitterChecked
  dsimp only
  split
  · rfl
  · have positive : 0 < 2 * config.jitterPercent.toNat + 1 := Nat.succ_pos _
    have residue := Nat.mod_lt (ReconnectManager.hash seed).toNat positive
    have range : signed 32 (2 * (config.jitterPercent.toNat : Int) + 1) =
        some (2 * (config.jitterPercent.toNat : Int) + 1) :=
      CheckedArithmetic.signed_of_bounds (by omega) (by omega)
    have rangeNat : (2 * (config.jitterPercent.toNat : Int) + 1).toNat =
        2 * config.jitterPercent.toNat + 1 := by
      omega
    simp only [Option.bind_eq_bind]
    rw [range, Option.bind_some, rangeNat, CheckedArithmetic.mod_of_pos positive, Option.bind_some]
    generalize (ReconnectManager.hash seed).toNat % _ = rest at residue
    rw [CheckedArithmetic.signed_of_bounds (by omega) (by omega), Option.bind_some,
      CheckedArithmetic.signed_of_bounds (by omega) (by omega), Option.bind_some]
    have lower : (delay : Int) * -255 ≤ delay * (100 + (rest - config.jitterPercent.toNat)) :=
      Int.mul_le_mul_of_nonneg_left (by omega) (Int.natCast_nonneg delay)
    have upper : (delay : Int) * (100 + (rest - config.jitterPercent.toNat)) ≤ delay * 355 :=
      Int.mul_le_mul_of_nonneg_left (by omega) (Int.natCast_nonneg delay)
    rw [CheckedArithmetic.signed_of_bounds (by omega) (by omega)]
    rfl

structure ReconnectConfig.SaneFor (config : ReconnectConfig) (delayMs : UInt32) : Prop where
  no_wrap : ∀ retryCount seed, ∃ base, config.calculateDelayChecked retryCount = some base ∧
    (config.jitterChecked base seed).isSome
  at_most : ∀ retryCount seed, config.fastRetries.toUInt32 ≤ retryCount →
    (atRetry config retryCount).delayMs ≤ 10 * delayMs.toNat ∧
      ((atRetry config retryCount).getNextDelayMsWithJitter seed).toNat ≤ 10 * delayMs.toNat
  at_least : ∀ retryCount seed, config.fastRetries.toUInt32 ≤ retryCount →
    delayMs.toNat ≤ (atRetry config retryCount).delayMs ∧
      delayMs.toNat ≤ ((atRetry config retryCount).getNextDelayMsWithJitter seed).toNat +
        (delayMs.toNat * config.jitterPercent.toNat + 99) / 100

open LdnClient (Config)
open CText (ascii)

theorem growing_ofApplication {cfg : ConfigFile.Config}
    (small : cfg.network.reconnectDelayMs.toNat ≤ 4294967) :
    (Config.ofApplication cfg).reconnect.Growing ∧
      (Config.ofApplication cfg).reconnect.maxDelayMs.toNat =
        10 * cfg.network.reconnectDelayMs.toNat := by
  have ten : (10 : UInt32).toNat = 10 := rfl
  have max : (Config.ofApplication cfg).reconnect.maxDelayMs.toNat =
      10 * cfg.network.reconnectDelayMs.toNat := by
    unfold Config.ofApplication
    rw [UInt32.toNat_mul, ten, Nat.mod_eq_of_lt (by omega), Nat.mul_comm]
  have initial : (Config.ofApplication cfg).reconnect.initialDelayMs =
    cfg.network.reconnectDelayMs := rfl
  have multiplier : (Config.ofApplication cfg).reconnect.multiplierPercent = 200 := rfl
  refine ⟨⟨?_, ?_, ?_⟩, max⟩
  · rw [multiplier]
    decide
  · rw [initial, max]
    omega
  · rw [max]
    omega

theorem ReconnectConfig.grow_one_le (config : ReconnectConfig) (delay : UInt32) :
    (config.grow 1 delay).toNat ≤ config.maxDelayMs.toNat := by
  unfold grow
  simp only [gt_iff_lt]
  split
  · exact le_refl _
  · split
    · exact le_refl _
    · rename_i within
      exact UInt32.le_iff_toNat_le.mp (UInt32.not_lt.mp within)

theorem ReconnectConfig.Growing.within {config : ReconnectConfig} (growing : config.Growing)
    {retryCount : UInt32} (exponential : config.fastRetries.toUInt32 ≤ retryCount) :
    config.initialDelayMs.toNat ≤ (atRetry config retryCount).delayMs ∧
      (atRetry config retryCount).delayMs ≤ config.maxDelayMs.toNat := by
  have late : ¬ retryCount.toNat < config.fastRetries.toNat := by
    rw [UInt32.le_iff_toNat_le, UInt8.toNat_toUInt32] at exponential
    omega
  unfold ReconnectManager.delayMs atRetry
  rw [calculateDelay_eq growing]
  unfold delayAt
  rw [if_neg late]
  exact ⟨initial_le_iterate growing _, iterate_next_le _ growing.initial_le _⟩

theorem ReconnectConfig.max_fits_of_checked {config : ReconnectConfig}
    (fast : config.fastRetries = 1) {base : Nat}
    (checked : config.calculateDelayChecked 2 = some base) :
    config.maxDelayMs.toNat * 100 < 2 ^ 32 := by
  have loop : config.calculateDelayChecked 2 =
      config.growChecked 1 config.initialDelayMs.toNat := by
    unfold calculateDelayChecked
    rw [fast]
    rfl
  rw [loop] at checked
  unfold growChecked at checked
  simp only [Option.bind_eq_bind, Option.bind_eq_some_iff] at checked
  obtain ⟨scaledMax, product, _⟩ := checked
  exact (CheckedArithmetic.unsigned_eq_some.mp product).1

theorem ReconnectConfig.calculateDelay_two_le {config : ReconnectConfig}
    (fast : config.fastRetries = 1) :
    (config.calculateDelay 2).toNat ≤ config.maxDelayMs.toNat := by
  have value : config.calculateDelay 2 = config.grow 1 config.initialDelayMs := by
    unfold calculateDelay
    rw [fast]
    rfl
  rw [value]
  exact config.grow_one_le config.initialDelayMs

theorem small_of_saneFor {cfg : ConfigFile.Config}
    (sane : (Config.ofApplication cfg).reconnect.SaneFor cfg.network.reconnectDelayMs) :
    cfg.network.reconnectDelayMs.toNat ≤ 4294967 := by
  have fast : (Config.ofApplication cfg).reconnect.fastRetries = 1 := rfl
  have exponential : (Config.ofApplication cfg).reconnect.fastRetries.toUInt32 ≤ 2 := by
    rw [fast]
    decide
  have ⟨base, checked, _⟩ := sane.no_wrap 2 0
  have room := ReconnectConfig.max_fits_of_checked fast checked
  have ⟨lower, _⟩ := sane.at_least 2 0 exponential
  have held : cfg.network.reconnectDelayMs.toNat ≤
      (Config.ofApplication cfg).reconnect.maxDelayMs.toNat :=
    lower.trans (ReconnectConfig.calculateDelay_two_le fast)
  have ten : (10 : UInt32).toNat = 10 := rfl
  have wrapped : (Config.ofApplication cfg).reconnect.maxDelayMs.toNat =
      cfg.network.reconnectDelayMs.toNat * 10 % 2 ^ 32 := by
    unfold Config.ofApplication
    rw [UInt32.toNat_mul, ten]
  -- the maximum is small and holds the delay, so its product with ten has not wrapped
  have fits : cfg.network.reconnectDelayMs.toNat * 10 < 2 ^ 32 := by omega
  rw [Nat.mod_eq_of_lt fits] at wrapped
  omega

theorem saneFor_of_small {cfg : ConfigFile.Config}
    (small : cfg.network.reconnectDelayMs.toNat ≤ 4294967) :
    (Config.ofApplication cfg).reconnect.SaneFor cfg.network.reconnectDelayMs := by
  have ⟨growing, max⟩ := growing_ofApplication small
  refine ⟨?_, ?_, ?_⟩
  · intro retryCount seed
    have value := ReconnectConfig.calculateDelay_eq growing retryCount
    refine ⟨_, ReconnectConfig.calculateDelayChecked_eq growing retryCount,
      ReconnectConfig.jitterChecked_fits _ ?_ seed⟩
    rw [← value]
    exact UInt32.toNat_lt _
  · intro retryCount seed exponential
    have ⟨_, upper⟩ := growing.within exponential
    have moved := (ReconnectManager.jittered upper seed).le_max
    rw [max] at upper
    exact ⟨upper, moved.trans_eq max⟩
  · intro retryCount seed exponential
    have ⟨lower, upper⟩ := growing.within exponential
    have moved := (ReconnectManager.jittered upper seed).ge
    have initial : (Config.ofApplication cfg).reconnect.initialDelayMs =
      cfg.network.reconnectDelayMs := rfl
    have jitter : (Config.ofApplication cfg).reconnect.jitterPercent.toNat = 10 := rfl
    have same : (atRetry (Config.ofApplication cfg).reconnect retryCount).config =
      (Config.ofApplication cfg).reconnect := rfl
    rw [initial] at lower
    rw [same, jitter] at moved
    rw [jitter]
    refine ⟨lower, ?_⟩
    omega

/-- The configured delay becomes a sane backoff exactly when a thousand times it fits in
32 bits. -/
theorem saneFor_ofApplication_iff (cfg : ConfigFile.Config) :
    (Config.ofApplication cfg).reconnect.SaneFor cfg.network.reconnectDelayMs ↔
      cfg.network.reconnectDelayMs ≤ 4294967 := by
  have limit : (4294967 : UInt32).toNat = 4294967 := rfl
  rw [UInt32.le_iff_toNat_le, limit]
  exact ⟨small_of_saneFor, saneFor_of_small⟩

/-- A file that asks for a retry every five days gets one every four milliseconds. -/
theorem reconnect_delay_wraps :
    let cfg := ConfigFile.parseConfigContent (ascii "[network]\nreconnect_delay = 429496730\n")
      ConfigFile.getDefaultConfig
    cfg.network.reconnectDelayMs = 429496730 ∧
      (atRetry (Config.ofApplication cfg).reconnect 2).delayMs = 4 ∧
      ¬ (Config.ofApplication cfg).reconnect.SaneFor cfg.network.reconnectDelayMs := by
  intro cfg
  have parsed : cfg.network.reconnectDelayMs = 429496730 := by decide +kernel
  have delay : (atRetry (Config.ofApplication cfg).reconnect 2).delayMs = 4 := by decide +kernel
  refine ⟨parsed, delay, fun sane => ?_⟩
  have exponential : (Config.ofApplication cfg).reconnect.fastRetries.toUInt32 ≤ 2 := by
    decide +kernel
  have ⟨lower, _⟩ := sane.at_least 2 0 exponential
  rw [delay, parsed] at lower
  exact absurd lower (by decide)

end RyuLdn.Reconnect
