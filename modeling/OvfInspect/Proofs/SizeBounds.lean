import Mathlib.Algebra.Order.Field.Power
import Mathlib.Data.Rat.Floor
import Mathlib.Tactic.Linarith
import Mathlib.Tactic.NormNum
import Mathlib.Tactic.Ring
import OvfInspect.Size

/-!
# Sizes that have a unit

A size is shown in the unit that leaves a number below 1024, and the units end with the yobibyte.
`render_ok_iff` says which whole sizes are shown: those that are not rounded to 1024 yobibytes.
-/

namespace OvfInspect

namespace Number

/-! ### Rounding to a whole number -/

theorem mul_den_eq {q : Rat} (nonneg : 0 ≤ q) : q * q.den = (q.num.toNat : Rat) := by
  have num : ((q.num.toNat : Int) : Rat) = q.num := by
    rw [Int.toNat_of_nonneg (Rat.num_nonneg.2 nonneg)]
  rw [← Int.cast_natCast q.num.toNat, num, Rat.mul_den_eq_num]

/-- Just the fractions that lie more than a half below an even number are rounded below it. -/
theorem roundHalfEvenNat_lt_iff {q : Rat} {m : Nat} (nonneg : 0 ≤ q) (even : m % 2 = 0) :
    roundHalfEvenNat q < m ↔ 2 * q < 2 * m - 1 := by
  have pos : (0 : Rat) < q.den := Nat.cast_pos.2 q.den_pos
  have cleared : 2 * q < 2 * m - 1 ↔ 2 * (q.num.toNat : Rat) + q.den < 2 * (m * q.den) := by
    rw [← mul_lt_mul_iff_left₀ pos, ← mul_den_eq nonneg]
    constructor <;> intro less <;> linarith
  have counted : 2 * q < 2 * m - 1 ↔ 2 * q.num.toNat + q.den < 2 * (m * q.den) := by
    rw [cleared]
    exact_mod_cast Iff.rfl
  rw [counted]
  have split := Nat.div_add_mod q.num.toNat q.den
  have less := Nat.mod_lt q.num.toNat q.den_pos
  unfold roundHalfEvenNat
  dsimp only
  generalize q.num.toNat / q.den = whole at split ⊢
  generalize q.num.toNat % q.den = rest at split less ⊢
  -- The products are compared by where the even number lies.
  rcases Nat.lt_trichotomy (whole + 1) m with above | rfl | below
  · have room : q.den * whole + 2 * q.den ≤ m * q.den := by
      calc q.den * whole + 2 * q.den = (whole + 2) * q.den := by ring
        _ ≤ m * q.den := Nat.mul_le_mul_right _ above
    refine ⟨fun _ => by omega, fun _ => ?_⟩
    split
    · omega
    · split <;> omega
  · have room : (whole + 1) * q.den = q.den * whole + q.den := by ring
    rw [room]
    split
    · omega
    · split <;> omega
  · have room : m * q.den ≤ q.den * whole := by
      rw [Nat.mul_comm q.den]
      exact Nat.mul_le_mul_right _ (by omega)
    refine ⟨fun rounded => ?_, fun _ => by omega⟩
    split at rounded
    · omega
    · split at rounded <;> omega

theorem binaryExponent_natCast {n : Nat} (nonzero : n ≠ 0) : binaryExponent n = Nat.log2 n := by
  have reached : (2 : Rat) ^ (Nat.log2 n : Int) ≤ n := by
    rw [zpow_natCast]
    exact_mod_cast Nat.log2_self_le nonzero
  have guess : ((Nat.log2 (n : Rat).num.toNat : Int) - (Nat.log2 (n : Rat).den : Int)) = Nat.log2 n := by
    rw [Rat.num_natCast, Rat.den_natCast, Int.toNat_natCast]
    exact sub_zero _
  unfold binaryExponent
  simp only [guess]
  rw [if_pos reached]

/-- The place of the last of the 53 binary digits of a number. -/
def lastPlace (n : Nat) : Rat :=
  (2 : Rat) ^ ((Nat.log2 n : Int) - 52)

/-- A number with all but its first 53 binary digits rounded away. -/
def nearest (n : Nat) : Rat :=
  roundHalfEvenNat (n / lastPlace n) * lastPlace n

theorem toBinary?_natCast {n : Nat} (nonzero : n ≠ 0) :
    toBinary? n = if binaryBound ≤ nearest n then none else some (nearest n) := by
  have notZero : (n : Rat) ≠ 0 := Nat.cast_ne_zero.2 nonzero
  have notNegative : ¬ (n : Rat) < 0 := not_lt.2 (Nat.cast_nonneg n)
  have normal : max ((Nat.log2 n : Int) - 52) (-1074) = (Nat.log2 n : Int) - 52 := by omega
  unfold toBinary?
  simp only [if_neg notZero, if_neg notNegative, binaryExponent_natCast nonzero, normal]
  rfl

theorem lastPlace_pos (n : Nat) : 0 < lastPlace n :=
  zpow_pos two_pos _

theorem lastPlace_le {n place : Nat} (least : Nat.log2 n ≤ place + 52) : lastPlace n ≤ 2 ^ place := by
  rw [← zpow_natCast]
  exact zpow_le_zpow_right₀ one_le_two (by omega)

theorem le_lastPlace {n place : Nat} (most : place + 52 ≤ Nat.log2 n) : 2 ^ place ≤ lastPlace n := by
  rw [← zpow_natCast]
  exact zpow_le_zpow_right₀ one_le_two (by omega)

theorem two_pow_mul_lastPlace (n digits : Nat) :
    2 ^ digits * lastPlace n = (2 : Rat) ^ ((Nat.log2 n : Int) + digits - 52) := by
  unfold lastPlace
  rw [← zpow_natCast, ← zpow_add₀ two_ne_zero]
  congr 1
  ring

theorem lastPlace_mul_le {n : Nat} (nonzero : n ≠ 0) : 2 ^ 52 * lastPlace n ≤ n := by
  have whole : (Nat.log2 n : Int) + (52 : Nat) - 52 = Nat.log2 n := by omega
  rw [two_pow_mul_lastPlace, whole, zpow_natCast]
  exact_mod_cast Nat.log2_self_le nonzero

theorem lt_lastPlace_mul (n : Nat) : n < 2 ^ 53 * lastPlace n := by
  have whole : (Nat.log2 n : Int) + (53 : Nat) - 52 = (Nat.log2 n + 1 : Nat) := by omega
  rw [two_pow_mul_lastPlace, whole, zpow_natCast]
  exact_mod_cast Nat.lt_log2_self

/-- Just the numbers that lie far enough below an even multiple of the last place stay below it. -/
theorem nearest_lt_iff {n m : Nat} (even : m % 2 = 0) :
    nearest n < m * lastPlace n ↔ 2 * (n : Rat) < (2 * m - 1) * lastPlace n := by
  have pos := lastPlace_pos n
  have nonneg : 0 ≤ (n : Rat) / lastPlace n := div_nonneg (Nat.cast_nonneg n) pos.le
  have rounded := roundHalfEvenNat_lt_iff nonneg even
  unfold nearest
  rw [mul_lt_mul_iff_left₀ pos, Nat.cast_lt, rounded, ← mul_div_assoc, div_lt_iff₀ pos]

/-- The least number that is rounded to two to the power of 90. -/
def beyondUnits : Nat := 2 ^ 90 - 2 ^ 36

theorem nearest_lt_of_small {n : Nat} (small : Nat.log2 n < 89) : nearest n < 2 ^ 90 := by
  have place : lastPlace n ≤ 2 ^ 36 := lastPlace_le (by omega)
  have size := lt_lastPlace_mul n
  -- The number may be rounded up to the next power of two, but not beyond it.
  have even : (2 ^ 53 + 2) % 2 = 0 := by norm_num
  have below : nearest n < ((2 ^ 53 + 2 : Nat) : Rat) * lastPlace n := by
    rw [nearest_lt_iff even]
    push_cast
    linarith [lastPlace_pos n]
  push_cast at below
  linarith

theorem le_nearest_of_large {n : Nat} (large : 90 ≤ Nat.log2 n) : 2 ^ 90 ≤ nearest n := by
  have nonzero : n ≠ 0 := by
    rintro rfl
    cases large
  have place : 2 ^ 38 ≤ lastPlace n := le_lastPlace (by omega)
  have size := lastPlace_mul_le nonzero
  have even : (2 ^ 52) % 2 = 0 := by norm_num
  have reached : ¬ nearest n < ((2 ^ 52 : Nat) : Rat) * lastPlace n := by
    rw [nearest_lt_iff even]
    push_cast
    linarith [lastPlace_pos n]
  push_cast at reached
  linarith

theorem nearest_lt_iff_of_last {n : Nat} (last : Nat.log2 n = 89) : nearest n < 2 ^ 90 ↔ n < beyondUnits := by
  have place : lastPlace n = 2 ^ 37 := le_antisymm (lastPlace_le (by omega)) (le_lastPlace (by omega))
  -- The bound is even as a multiple of the last place, so a number half a place below it reaches it.
  have even : (2 ^ 53) % 2 = 0 := by norm_num
  have multiple : (2 : Rat) ^ 90 = ((2 ^ 53 : Nat) : Rat) * lastPlace n := by
    rw [place]
    norm_num
  have bound : 2 * ((beyondUnits : Nat) : Rat) = (2 * ((2 ^ 53 : Nat) : Rat) - 1) * 2 ^ 37 := by
    norm_num [beyondUnits]
  rw [multiple, nearest_lt_iff even, place, ← bound, mul_lt_mul_iff_right₀ two_pos, Nat.cast_lt]

theorem nearest_lt_two_pow_iff {n : Nat} (nonzero : n ≠ 0) : nearest n < 2 ^ 90 ↔ n < beyondUnits := by
  rcases Nat.lt_trichotomy (Nat.log2 n) 89 with small | last | large
  · have less : n < 2 ^ 89 := (Nat.log2_lt nonzero).1 small
    refine iff_of_true (nearest_lt_of_small small) (less.trans ?_)
    unfold beyondUnits
    norm_num
  · exact nearest_lt_iff_of_last last
  · have reached : 2 ^ 90 ≤ n := (Nat.le_log2 nonzero).1 large
    refine iff_of_false (not_lt.2 (le_nearest_of_large large)) ?_
    unfold beyondUnits
    omega

end Number

namespace Size

open Number

/-! ### The unit of a size -/

theorem descend_of_one_le {unit : Nat} {q : Rat} (large : 1 ≤ q) : descend unit q = .ok (unit, q) := by
  cases unit with
  | zero => rfl
  | succ unit => rw [descend, if_neg (not_lt.2 large)]

theorem risingSteps_of_large {q : Rat} (large : 1024 ≤ q) : risingSteps q = Nat.log2 ⌊q⌋₊ / 10 :=
  if_neg (not_lt.2 large)

theorem floor_ne_zero_of_large {q : Rat} (large : 1024 ≤ q) : ⌊q⌋₊ ≠ 0 := by
  have reached : 1024 ≤ ⌊q⌋₊ := Nat.le_floor large
  omega

theorem pow_risingSteps_le {q : Rat} (large : 1024 ≤ q) : 1024 ^ risingSteps q ≤ q := by
  have nonneg : 0 ≤ q := by linarith
  have steps : 10 * risingSteps q ≤ Nat.log2 ⌊q⌋₊ := by
    rw [risingSteps_of_large large]
    omega
  have reached : 2 ^ (10 * risingSteps q) ≤ ⌊q⌋₊ :=
    (Nat.le_log2 (floor_ne_zero_of_large large)).1 steps
  rw [pow_mul] at reached
  norm_num at reached
  have cast : ((1024 ^ risingSteps q : Nat) : Rat) ≤ (⌊q⌋₊ : Nat) := Nat.cast_le.2 reached
  push_cast at cast
  exact cast.trans (Nat.floor_le nonneg)

theorem risingSteps_lt_iff {q : Rat} (large : 1024 ≤ q) : risingSteps q < 9 ↔ q < 2 ^ 90 := by
  have nonneg : 0 ≤ q := by linarith
  have lower : risingSteps q < 9 ↔ Nat.log2 ⌊q⌋₊ < 90 := by
    rw [risingSteps_of_large large]
    omega
  rw [lower, Nat.log2_lt (floor_ne_zero_of_large large), Nat.floor_lt nonneg]
  push_cast
  rfl

/-- A size that is no smaller than a byte is shown in the unit that its rising steps lead to. -/
theorem render_of_start {q start : Rat} (isStart : toBinary? q = some start) :
    (∃ text, render q 0 = .ok text) ↔ start < 2 ^ 90 := by
  have shown : (∃ text, render q 0 = .ok text) ↔ risingSteps start < 9 := by
    have descended : descend (0 + risingSteps start) (start / 1024 ^ risingSteps start) =
        .ok (risingSteps start, start / 1024 ^ risingSteps start) := by
      rw [Nat.zero_add]
      by_cases small : start < 1024
      · rw [show risingSteps start = 0 from if_pos small]
        rfl
      · have large := not_lt.1 small
        exact descend_of_one_le ((one_le_div₀ (by positivity)).2 (pow_risingSteps_le large))
    unfold render
    rw [isStart]
    rw [if_neg (by decide)]
    dsimp only
    rw [Int.toNat_zero, descended]
    dsimp only [bind, Except.bind]
    have named : risingSteps start < 9 ↔ units[risingSteps start]? ≠ none := by
      rw [ne_eq, List.getElem?_eq_none_iff, not_le]
      rfl
    rw [named]
    cases units[risingSteps start]? <;> simp
  rw [shown]
  by_cases small : start < 1024
  · rw [show risingSteps start = 0 from if_pos small]
    exact iff_of_true (by decide) (small.trans (by norm_num))
  · exact risingSteps_lt_iff (not_lt.1 small)

theorem render_of_none {q : Rat} (none : toBinary? q = none) : ¬ ∃ text, render q 0 = .ok text := by
  rintro ⟨text, made⟩
  unfold render at made
  rw [none] at made
  cases made

/-- Just the sizes that are not rounded to 1024 of the largest unit are shown. -/
theorem render_ok_iff (n : Nat) : (∃ text, render n 0 = .ok text) ↔ n < beyondUnits := by
  by_cases nonzero : n = 0
  · subst nonzero
    rw [@render_of_start _ 0 rfl]
    exact iff_of_true (by norm_num) (by decide)
  · rw [← nearest_lt_two_pow_iff nonzero]
    have start := toBinary?_natCast nonzero
    split at start
    · next reached =>
      have large : (2 : Rat) ^ 90 ≤ binaryBound := by
        unfold binaryBound
        gcongr <;> norm_num
      exact iff_of_false (render_of_none start) (not_lt.2 (large.trans reached))
    · exact render_of_start start

end Size

end OvfInspect
