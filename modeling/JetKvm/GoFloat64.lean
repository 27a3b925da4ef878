import Mathlib.Algebra.Order.Field.Power
import Mathlib.Data.Int.Log
import Mathlib.Data.Rat.Floor
import Mathlib.Tactic.Linarith
import Mathlib.Tactic.Positivity
import Mathlib.Tactic.FieldSimp

/-!
# Double-precision numbers

Finite values of the IEEE 754 double format as rational numbers, the number that
a decimal is read as, and what is left of one without its fraction.
-/

namespace JetKvm

namespace GoFloat64

/-- The value has a significand of 53 bits at an exponent of the format. -/
def IsFloat (value : ℚ) : Prop :=
  ∃ significand exponent : ℤ, |significand| < 2 ^ 53 ∧ -1074 ≤ exponent ∧
    exponent ≤ 971 ∧ value = significand * 2 ^ exponent

/-- The exponent of the last bit of the significand -/
def lastBit (value : ℚ) : ℤ := max (-1074) (Int.log 2 |value| - 52)

/-- The nearest integer, an even one if there are two -/
def roundHalfEven (value : ℚ) : ℤ :=
  let low := ⌊value⌋
  if value - low < 1 / 2 then low
  else if 1 / 2 < value - low then low + 1
  else if low % 2 = 0 then low else low + 1

/-- `strconv.ParseFloat`, which fails if the number is too large -/
def parseFloat (value : ℚ) : Option ℚ :=
  let rounded : ℚ :=
    roundHalfEven (value / 2 ^ lastBit value) * 2 ^ lastBit value
  if |rounded| < 2 ^ 1024 then some rounded else none

/-- The value without its fraction -/
def truncated (value : ℚ) : ℤ := if 0 ≤ value then ⌊value⌋ else ⌈value⌉

@[simp] theorem truncated_intCast (n : ℤ) : truncated n = n := by
  unfold truncated
  split <;> simp

@[simp] theorem roundHalfEven_intCast (n : ℤ) : roundHalfEven n = n := by
  simp [roundHalfEven]

theorem parseFloat_zero : parseFloat 0 = some 0 := by
  have none : roundHalfEven 0 = 0 := by
    simpa using roundHalfEven_intCast 0
  simp [parseFloat, none]

/-- A double is not changed: its last bit is no further left than the bits that
it has. -/
theorem parseFloat_of_isFloat {value : ℚ} (float : IsFloat value) :
    parseFloat value = some value := by
  obtain ⟨significand, exponent, bits, least, most, rfl⟩ := float
  set value : ℚ := significand * 2 ^ exponent with here
  have size : |value| < 2 ^ (exponent + 53) := by
    have bits' : |(significand : ℚ)| < 2 ^ 53 := by exact_mod_cast bits
    have positive : (0 : ℚ) < 2 ^ exponent := by positivity
    rw [here, abs_mul, abs_of_pos positive, zpow_add₀ (by norm_num), mul_comm]
    exact mul_lt_mul_of_pos_left (by exact_mod_cast bits') positive
  rcases eq_or_ne value 0 with zero | nonzero
  · rw [zero, parseFloat_zero]
  have fits : lastBit value ≤ exponent := by
    have below := (Int.lt_zpow_iff_log_lt (by norm_num : 1 < 2)
      (abs_pos.mpr nonzero)).mp (by exact_mod_cast size)
    exact max_le least (by omega)
  have whole : value / 2 ^ lastBit value =
      ((significand * 2 ^ (exponent - lastBit value).toNat : ℤ) : ℚ) := by
    have split : (2 : ℚ) ^ exponent = 2 ^ (exponent - lastBit value).toNat *
        2 ^ lastBit value := by
      rw [← zpow_natCast, ← zpow_add₀ (by norm_num)]
      congr 1
      omega
    have positive : (2 : ℚ) ^ lastBit value ≠ 0 := by positivity
    push_cast
    rw [div_eq_iff positive, mul_assoc, ← split]
  have bounded : |value| < 2 ^ 1024 := by
    refine size.trans_le ?_
    exact_mod_cast zpow_le_zpow_right₀ (by norm_num : (1 : ℚ) ≤ 2)
      (by omega : exponent + 53 ≤ 1024)
  have same : (roundHalfEven (value / 2 ^ lastBit value) : ℚ) *
      2 ^ lastBit value = value := by
    rw [whole, roundHalfEven_intCast, ← whole,
      div_mul_cancel₀ _ (by positivity)]
  unfold parseFloat
  dsimp only
  rw [same, if_pos bounded]

theorem isFloat_intCast {n : ℤ} (small : |n| < 2 ^ 53) : IsFloat n :=
  ⟨n, 0, small, by norm_num, by norm_num, by simp⟩

/-- A number with no bits after the last one that is kept is read as an
integer. -/
theorem exists_intCast_of_parseFloat {value float : ℚ} (large : 2 ^ 53 ≤ |value|)
    (read : parseFloat value = some float) : ∃ n : ℤ, float = n := by
  have positive : 0 < |value| := lt_of_lt_of_le (by norm_num) large
  have high : 53 ≤ Int.log 2 |value| :=
    (Int.zpow_le_iff_le_log (by norm_num) positive).mp (by exact_mod_cast large)
  have whole : (2 : ℚ) ^ lastBit value = (2 ^ (lastBit value).toNat : ℤ) := by
    have nonneg : 0 ≤ lastBit value := le_max_of_le_right (by omega)
    push_cast
    rw [← zpow_natCast, Int.toNat_of_nonneg nonneg]
  unfold parseFloat at read
  dsimp only at read
  split at read
  · rw [whole] at read
    exact ⟨roundHalfEven _ * 2 ^ (lastBit value).toNat, by
      rw [← Option.some.inj read]
      push_cast
      rfl⟩
  · cases read

end GoFloat64

end JetKvm
