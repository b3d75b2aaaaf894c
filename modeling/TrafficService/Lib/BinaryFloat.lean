import Mathlib.Algebra.Order.Floor.Ring
import Mathlib.Algebra.Order.Monoid.Unbundled.Basic
import Mathlib.Data.Int.Log
import Mathlib.Data.Rat.Floor
import Mathlib.Tactic.Linarith
import Mathlib.Tactic.NormNum
import Mathlib.Tactic.Ring

/-!
Binary floating-point numbers that are not negative, of any precision and without a largest one.
Sums, products and quotients are rounded to the nearest number, of two to the even one, so that
sums keep the order but are not associative.
-/

namespace BinaryFloat

/-! ### The nearest integer -/

/-- Of two integers that are equally near, the even one. -/
def roundEven (x : ℚ) : Int :=
  let low := ⌊x⌋
  if x - low < 1 / 2 then low
  else if 1 / 2 < x - low then low + 1
  else if low % 2 = 0 then low else low + 1

theorem floor_le_roundEven (x : ℚ) : ⌊x⌋ ≤ roundEven x := by
  simp only [roundEven]
  split
  · exact Int.le_refl _
  · split
    · omega
    · split <;> omega

theorem roundEven_le_floor (x : ℚ) : roundEven x ≤ ⌊x⌋ + 1 := by
  simp only [roundEven]
  split
  · omega
  · split
    · exact Int.le_refl _
    · split <;> omega

theorem roundEven_intCast (n : Int) : roundEven n = n := by
  simp [roundEven]

theorem roundEven_mono {x y : ℚ} (below : x ≤ y) : roundEven x ≤ roundEven y := by
  rcases (Int.floor_mono below).lt_or_eq with less | same
  · calc roundEven x ≤ ⌊x⌋ + 1 := roundEven_le_floor x
      _ ≤ ⌊y⌋ := less
      _ ≤ roundEven y := floor_le_roundEven y
  · simp only [roundEven, ← same]
    by_cases low : x - ⌊x⌋ < 1 / 2
    · rw [if_pos low]
      split
      · exact Int.le_refl _
      · split
        · omega
        · split <;> omega
    · have highY : ¬ y - ⌊x⌋ < 1 / 2 := by linarith
      rw [if_neg low, if_neg highY]
      by_cases high : 1 / 2 < x - ⌊x⌋
      · have higherY : 1 / 2 < y - ⌊x⌋ := by linarith
        rw [if_pos high, if_pos higherY]
      · rw [if_neg high]
        by_cases even : ⌊x⌋ % 2 = 0
        · simp only [if_pos even]
          split <;> omega
        · simp only [if_neg even, ite_self, Int.le_refl]

theorem le_roundEven {n : Int} {x : ℚ} (below : n ≤ x) : n ≤ roundEven x := by
  have kept := roundEven_mono below
  rwa [roundEven_intCast] at kept

theorem roundEven_le {n : Int} {x : ℚ} (above : x ≤ n) : roundEven x ≤ n := by
  have kept := roundEven_mono above
  rwa [roundEven_intCast] at kept

theorem two_zpow_pos (exponent : Int) : (0 : ℚ) < 2 ^ exponent :=
  zpow_pos (zero_lt_two' ℚ) exponent

theorem exists_multiple (low high : Int) (below : low ≤ high) :
    ∃ n : Int, (2 : ℚ) ^ high = n * 2 ^ low := by
  obtain ⟨steps, rfl⟩ := Int.le.dest below
  refine ⟨2 ^ steps, ?_⟩
  rw [zpow_add₀ (by norm_num), zpow_natCast]
  push_cast
  ring

/-! ### The nearest number of a format -/

/-- So many binary digits, down to two to the smallest exponent. -/
structure Format where
  precision : Nat
  minExponent : Int
  positive : 0 < precision

namespace Format

variable (format : Format) {x y : ℚ}

/-- The exponent of the last digit of the numbers next to this one. -/
def unitExponent (x : ℚ) : Int := max (Int.log 2 x + 1 - format.precision) format.minExponent

def round (x : ℚ) : ℚ :=
  roundEven (x / 2 ^ format.unitExponent x) * 2 ^ format.unitExponent x

variable {format}

theorem le_round {n : Int} (below : n * 2 ^ format.unitExponent x ≤ x) :
    n * 2 ^ format.unitExponent x ≤ format.round x := by
  have unit := two_zpow_pos (format.unitExponent x)
  have least : n ≤ roundEven (x / 2 ^ format.unitExponent x) :=
    le_roundEven ((le_div_iff₀ unit).mpr below)
  exact mul_le_mul_of_nonneg_right (Int.cast_le.mpr least) unit.le

theorem round_le {n : Int} (above : x ≤ n * 2 ^ format.unitExponent x) :
    format.round x ≤ n * 2 ^ format.unitExponent x := by
  have unit := two_zpow_pos (format.unitExponent x)
  have most : roundEven (x / 2 ^ format.unitExponent x) ≤ n :=
    roundEven_le ((div_le_iff₀ unit).mpr above)
  exact mul_le_mul_of_nonneg_right (Int.cast_le.mpr most) unit.le

theorem round_nonneg (nonneg : 0 ≤ x) : 0 ≤ format.round x := by
  have least := @le_round format x 0 (by simpa using nonneg)
  simpa using least

theorem round_zero : format.round 0 = 0 := by
  have whole := roundEven_intCast 0
  simp only [Int.cast_zero] at whole
  rw [round, zero_div, whole, Int.cast_zero, zero_mul]

/-- A multiple of the last digit is rounded to itself. -/
theorem round_multiple {n exponent : Int} (fine : format.unitExponent (n * 2 ^ exponent) ≤ exponent) :
    format.round (n * 2 ^ exponent) = n * 2 ^ exponent := by
  obtain ⟨m, whole⟩ := exists_multiple _ _ fine
  have unit := two_zpow_pos (format.unitExponent (n * 2 ^ exponent))
  have count : (n * 2 ^ exponent : ℚ) / 2 ^ format.unitExponent (n * 2 ^ exponent) =
      ((n * m : Int) : ℚ) := by
    rw [div_eq_iff unit.ne', Int.cast_mul, mul_assoc, ← whole]
  rw [round, count, roundEven_intCast, Int.cast_mul, mul_assoc, ← whole]

theorem unitExponent_mono (positive : 0 < x) (below : x ≤ y) :
    format.unitExponent x ≤ format.unitExponent y := by
  have logs := Int.log_mono_right (b := 2) positive below
  simp only [unitExponent]
  omega

theorem round_mono (nonneg : 0 ≤ x) (below : x ≤ y) : format.round x ≤ format.round y := by
  rcases nonneg.lt_or_eq with positive | rfl
  swap
  · rw [round_zero]
    exact round_nonneg below
  rcases (@unitExponent_mono format x y positive below).lt_or_eq with finer | same
  · -- the power of two next below `y` is a number of the format between the two
    have digits := format.positive
    have coarse : format.unitExponent y = Int.log 2 y + 1 - format.precision := by
      simp only [unitExponent] at finer ⊢
      omega
    have logs : Int.log 2 x + 1 ≤ Int.log 2 y := by
      simp only [unitExponent] at finer coarse
      omega
    have between : (2 : ℚ) ^ Int.log 2 y ≤ y := by
      exact_mod_cast Int.zpow_log_le_self (b := 2) (by norm_num) (positive.trans_le below)
    have under : x ≤ (2 : ℚ) ^ Int.log 2 y := by
      have next : x < ((2 : Nat) : ℚ) ^ (Int.log 2 x + 1) :=
        Int.lt_zpow_succ_log_self (by norm_num) x
      exact next.le.trans (zpow_le_zpow_right₀ (by norm_num) logs)
    obtain ⟨n, fine⟩ := exists_multiple (format.unitExponent x) (Int.log 2 y) (by omega)
    obtain ⟨m, whole⟩ := exists_multiple (format.unitExponent y) (Int.log 2 y) (by omega)
    rw [fine] at under
    rw [whole] at between
    calc format.round x ≤ n * 2 ^ format.unitExponent x := round_le under
      _ = m * 2 ^ format.unitExponent y := by rw [← fine, whole]
      _ ≤ format.round y := le_round between
  · have unit := two_zpow_pos (format.unitExponent x)
    have counts : roundEven (x / 2 ^ format.unitExponent x) ≤
        roundEven (y / 2 ^ format.unitExponent y) := by
      rw [← same]
      exact roundEven_mono (div_le_div_of_nonneg_right below unit.le)
    rw [round, round, ← same]
    rw [← same] at counts
    exact mul_le_mul_of_nonneg_right (Int.cast_le.mpr counts) unit.le

theorem round_round (nonneg : 0 ≤ x) : format.round (format.round x) = format.round x := by
  rcases nonneg.lt_or_eq with positive | rfl
  swap
  · rw [round_zero, round_zero]
  have digits := format.positive
  have smallest : format.minExponent ≤ format.unitExponent x := le_max_right _ _
  have last : Int.log 2 x + 1 - format.precision ≤ format.unitExponent x := le_max_left _ _
  generalize most : max (Int.log 2 x + 1) (format.unitExponent x) = top
  have bound : format.round x ≤ (2 : ℚ) ^ top := by
    obtain ⟨n, whole⟩ := exists_multiple (format.unitExponent x) top (by omega)
    have next : x < ((2 : Nat) : ℚ) ^ (Int.log 2 x + 1) :=
      Int.lt_zpow_succ_log_self (by norm_num) x
    have under : x ≤ (2 : ℚ) ^ top :=
      next.le.trans (zpow_le_zpow_right₀ (by norm_num) (by omega))
    rw [whole] at under ⊢
    exact round_le under
  rcases bound.lt_or_eq with less | same
  · rcases (@round_nonneg format x nonneg).lt_or_eq with some | none
    · have logs : Int.log 2 (format.round x) < top := by
        rw [← Int.lt_zpow_iff_log_lt (by norm_num) some]
        exact_mod_cast less
      have fine : format.unitExponent (format.round x) ≤ format.unitExponent x := by
        have least : format.unitExponent (format.round x) =
          max (Int.log 2 (format.round x) + 1 - format.precision) format.minExponent := rfl
        omega
      exact round_multiple fine
    · rw [← none, round_zero]
  · have log : Int.log 2 ((2 : ℚ) ^ top) = top := by
      exact_mod_cast Int.log_zpow (R := ℚ) (b := 2) (by decide) top
    have fine : format.unitExponent ((1 : Int) * (2 : ℚ) ^ top) ≤ top := by
      simp only [unitExponent, Int.cast_one, one_mul, log]
      omega
    have kept := round_multiple fine
    rwa [Int.cast_one, one_mul, ← same] at kept

end Format

/-! ### The numbers -/

structure Magnitude (format : Format) where
  val : ℚ
  nonneg : 0 ≤ val
  held : format.round val = val
  deriving DecidableEq

namespace Magnitude

variable {format : Format}

theorem val_injective : Function.Injective (val : Magnitude format → ℚ) := by
  rintro ⟨x, _, _⟩ ⟨_, _, _⟩ rfl
  rfl

instance : LinearOrder (Magnitude format) := LinearOrder.lift' val val_injective

theorem le_iff {a b : Magnitude format} : a ≤ b ↔ a.val ≤ b.val := Iff.rfl

def rounded (x : ℚ) (nonneg : 0 ≤ x) : Magnitude format :=
  ⟨format.round x, Format.round_nonneg nonneg, Format.round_round nonneg⟩

instance : Zero (Magnitude format) := ⟨0, le_refl 0, Format.round_zero⟩

instance : Add (Magnitude format) :=
  ⟨fun a b => rounded (a.val + b.val) (add_nonneg a.nonneg b.nonneg)⟩

instance : Mul (Magnitude format) :=
  ⟨fun a b => rounded (a.val * b.val) (mul_nonneg a.nonneg b.nonneg)⟩

instance : Div (Magnitude format) :=
  ⟨fun a b => rounded (a.val / b.val) (div_nonneg a.nonneg b.nonneg)⟩

theorem val_zero : (0 : Magnitude format).val = 0 := rfl

theorem val_add (a b : Magnitude format) : (a + b).val = format.round (a.val + b.val) := rfl

theorem zero_le (a : Magnitude format) : 0 ≤ a := a.nonneg

instance : AddZeroClass (Magnitude format) where
  zero_add a := val_injective (by rw [val_add, val_zero, zero_add, a.held])
  add_zero a := val_injective (by rw [val_add, val_zero, add_zero, a.held])

instance : AddLeftMono (Magnitude format) where
  elim base _ _ below := Format.round_mono (add_nonneg base.nonneg (zero_le _))
    (add_le_add_right (le_iff.mp below) base.val)

instance : AddRightMono (Magnitude format) where
  elim base _ _ below := Format.round_mono (add_nonneg (zero_le _) base.nonneg)
    (add_le_add_left (le_iff.mp below) base.val)

end Magnitude

/-- The doubles, without an infinity. -/
def binary64 : Format := ⟨53, -1074, by decide⟩

end BinaryFloat
