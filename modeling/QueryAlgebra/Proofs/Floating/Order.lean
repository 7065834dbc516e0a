import Mathlib.Algebra.Order.Field.Rat
import Mathlib.Order.Monotone.Basic
import Mathlib.Tactic.FieldSimp
import Mathlib.Tactic.Ring
import QueryAlgebra.Floating.Basic

/-!
Floating-point numbers as numbers. A larger rank stands for a larger number, so two floats are equal
as numbers only if they are one float or the two zeros, and this is the equality of floats.
-/

namespace QueryAlgebra

namespace FloatFormat

variable (format : FloatFormat)

theorem units_zero : format.units 0 = 0 := by
  simp [units]

theorem units_succ (rank : Nat) :
    format.units (rank + 1) = format.units rank + 2 ^ (rank / 2 ^ format.fractionBits - 1) := by
  have positive : 0 < 2 ^ format.fractionBits := Nat.two_pow_pos _
  have parts := Nat.div_add_mod rank (2 ^ format.fractionBits)
  have fraction := Nat.mod_lt rank positive
  unfold units
  generalize 2 ^ format.fractionBits = binade at *
  generalize quotient : rank / binade = exponent at *
  generalize rank % binade = place at *
  rw [Nat.mul_comm] at parts
  by_cases inside : place + 1 < binade
  · have next : (rank + 1) / binade = exponent := by
      rw [Nat.div_eq_iff positive]
      constructor <;> omega
    have below : (exponent - 1) * binade ≤ rank := by
      calc
        (exponent - 1) * binade ≤ exponent * binade := Nat.mul_le_mul_right _ (Nat.sub_le _ _)
        _ ≤ rank := by omega
    rw [next]
    dsimp only
    rw [Nat.sub_add_comm below, Nat.succ_mul]
  -- The next rank begins a binade: its significand is halved and its unit doubled.
  · have next : (rank + 1) / binade = exponent + 1 := by
      have whole : rank + 1 = (exponent + 1) * binade := by
        rw [Nat.succ_mul]
        omega
      rw [whole, Nat.mul_div_cancel _ positive]
    rw [next]
    dsimp only
    cases exponent with
    | zero => simp
    | succ shift =>
        have start : rank + 1 - (shift + 1) * binade = binade := by
          rw [Nat.succ_mul] at parts ⊢
          omega
        have last : rank - shift * binade + 1 = 2 * binade := by
          rw [Nat.succ_mul] at parts
          omega
        calc
          (rank + 1 - (shift + 1 + 1 - 1) * binade) * 2 ^ (shift + 1 + 1 - 1) =
              binade * 2 ^ (shift + 1) := by
            rw [Nat.add_sub_cancel, start]
          _ = (rank - shift * binade + 1) * 2 ^ shift := by
            rw [last, Nat.pow_succ]
            ring
          _ = (rank - (shift + 1 - 1) * binade) * 2 ^ (shift + 1 - 1) + 2 ^ (shift + 1 - 1) := by
            rw [Nat.add_sub_cancel, Nat.succ_mul]

theorem strictMono_units : StrictMono format.units := by
  apply strictMono_nat_of_lt_succ
  intro rank
  rw [units_succ]
  exact Nat.lt_add_of_pos_right (Nat.two_pow_pos _)

theorem units_inj (rank other : Nat) : format.units rank = format.units other ↔ rank = other :=
  format.strictMono_units.injective.eq_iff

end FloatFormat

namespace Floating

variable {format : FloatFormat}

def isInfinite (x : Floating format) : Bool := x.magnitude.val = format.infinity

def value (x : Floating format) : ℚ :=
  (if x.negative then -1 else 1) * format.units x.magnitude / 2 ^ format.subunit

/-- Equality as the standard for floats has it: of finite floats as numbers, of infinities by their
signs, and of nothing with a NaN. -/
def Equal (x y : Floating format) : Prop :=
  x.isFinite ∧ y.isFinite ∧ x.value = y.value ∨
    x.isInfinite ∧ y.isInfinite ∧ x.negative = y.negative

theorem same_iff (x y : Floating format) :
    x.same y = true ↔ x.isNan = false ∧ y.isNan = false ∧ (x = y ∨ x.isZero ∧ y.isZero) := by
  simp [same, and_assoc]

theorem same_trans (x y z : Floating format) (first : x.same y) (second : y.same z) :
    x.same z := by
  rw [same_iff] at first second ⊢
  rcases first with ⟨left, -, rfl | ⟨zero, other⟩⟩
  · exact second
  · rcases second with ⟨-, right, rfl | ⟨-, last⟩⟩
    · exact ⟨left, right, .inr ⟨zero, other⟩⟩
    · exact ⟨left, right, .inr ⟨zero, last⟩⟩

theorem ext_iff (x y : Floating format) :
    x = y ↔ x.negative = y.negative ∧ x.magnitude.val = y.magnitude.val := by
  cases x
  cases y
  simp [Fin.ext_iff]

theorem isZero_iff (x : Floating format) : x.isZero = true ↔ format.units x.magnitude = 0 := by
  have zero := format.units_inj x.magnitude 0
  rw [format.units_zero] at zero
  rw [isZero, decide_eq_true_eq, zero]

theorem value_eq_iff (x y : Floating format) :
    x.value = y.value ↔ x = y ∨ x.isZero ∧ y.isZero := by
  have unit : (2 : ℚ) ^ format.subunit ≠ 0 := pow_ne_zero _ two_ne_zero
  have magnitude : x.magnitude.val = y.magnitude.val ↔
      (format.units x.magnitude : ℚ) = format.units y.magnitude := by
    rw [Nat.cast_inj, format.units_inj]
  have left : x.isZero = true ↔ (format.units x.magnitude : ℚ) = 0 := by
    rw [isZero_iff, Nat.cast_eq_zero]
  have right : y.isZero = true ↔ (format.units y.magnitude : ℚ) = 0 := by
    rw [isZero_iff, Nat.cast_eq_zero]
  have low : (0 : ℚ) ≤ format.units x.magnitude := Nat.cast_nonneg _
  have high : (0 : ℚ) ≤ format.units y.magnitude := Nat.cast_nonneg _
  rw [ext_iff, value, value, div_left_inj' unit, magnitude, left, right]
  cases x.negative <;> cases y.negative <;> simp <;> grind

theorem same_iff_equal (proper : 0 < format.exponentBits) (x y : Floating format) :
    x.same y = true ↔ x.Equal y := by
  have infinity : 0 < format.infinity := by
    have more : 1 < 2 ^ format.exponentBits := Nat.one_lt_two_pow (Nat.ne_of_gt proper)
    exact Nat.mul_pos (Nat.sub_pos_of_lt more) (Nat.two_pow_pos _)
  rw [same_iff, Equal, value_eq_iff, ext_iff]
  simp only [isNan, isFinite, isInfinite, isZero, decide_eq_true_eq, decide_eq_false_iff_not]
  grind

end Floating
end QueryAlgebra
