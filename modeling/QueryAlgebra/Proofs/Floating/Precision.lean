import QueryAlgebra.Proofs.Floating.Nearest

/-!
The precision of a float format. Rounding moves a number that is not too small by less than one
part in a power of two, and numbers two such parts from each other round to floats that are at most
two floats apart.
-/

namespace QueryAlgebra.FloatFormat

variable (format : FloatFormat)

def step (rank : Nat) : ℚ := 2 ^ (rank / 2 ^ format.fractionBits - 1) / 2 ^ format.subunit

/-- One more than the greatest relative error of rounding. -/
def slack : ℚ := 1 + 1 / 2 ^ (format.fractionBits + 1)

theorem number_succ (rank : Nat) :
    format.number (rank + 1) = format.number rank + format.step rank := by
  rw [number, number, step, units_succ, ← add_div]
  push_cast
  rfl

theorem step_pos (rank : Nat) : 0 < format.step rank := by
  unfold step
  positivity

theorem step_mono : Monotone format.step := by
  intro rank other order
  apply div_le_div_of_nonneg_right _ (by positivity)
  apply pow_le_pow_right₀ one_le_two
  have binades : rank / 2 ^ format.fractionBits ≤ other / 2 ^ format.fractionBits :=
    Nat.div_le_div_right order
  omega

theorem step_le_of_normal (rank : Nat) (normal : 2 ^ format.fractionBits ≤ rank) :
    2 ^ format.fractionBits * format.step rank ≤ format.number rank := by
  have positive : 0 < 2 ^ format.fractionBits := Nat.two_pow_pos _
  have binade : 1 ≤ rank / 2 ^ format.fractionBits := (Nat.one_le_div_iff positive).mpr normal
  have below := Nat.div_mul_le_self rank (2 ^ format.fractionBits)
  have significand : 2 ^ format.fractionBits ≤
      rank - (rank / 2 ^ format.fractionBits - 1) * 2 ^ format.fractionBits := by
    have split : rank / 2 ^ format.fractionBits * 2 ^ format.fractionBits =
        (rank / 2 ^ format.fractionBits - 1) * 2 ^ format.fractionBits +
          2 ^ format.fractionBits := by
      rw [← Nat.succ_mul (rank / 2 ^ format.fractionBits - 1)]
      congr 1
      omega
    omega
  have units := Nat.mul_le_mul_right (2 ^ (rank / 2 ^ format.fractionBits - 1)) significand
  rw [step, number, mul_div_assoc', FloatFormat.units]
  apply div_le_div_of_nonneg_right _ (by positivity)
  exact_mod_cast units

theorem number_succ_le (rank : Nat) :
    format.number (rank + 1) ≤ 2 ^ (format.fractionBits + 1) * format.step rank := by
  have positive : 0 < 2 ^ format.fractionBits := Nat.two_pow_pos _
  have above := Nat.lt_div_mul_add (a := rank) positive
  have significand : rank - (rank / 2 ^ format.fractionBits - 1) * 2 ^ format.fractionBits + 1 ≤
      2 ^ (format.fractionBits + 1) := by
    have split : rank / 2 ^ format.fractionBits * 2 ^ format.fractionBits ≤
        (rank / 2 ^ format.fractionBits - 1) * 2 ^ format.fractionBits +
          2 ^ format.fractionBits := by
      rw [← Nat.succ_mul (rank / 2 ^ format.fractionBits - 1)]
      exact Nat.mul_le_mul_right _ (by omega)
    rw [Nat.pow_succ]
    omega
  have units := Nat.mul_le_mul_right (2 ^ (rank / 2 ^ format.fractionBits - 1)) significand
  rw [Nat.succ_mul (rank - _)] at units
  rw [number, step, mul_div_assoc', units_succ, FloatFormat.units]
  apply div_le_div_of_nonneg_right _ (by positivity)
  exact_mod_cast units

theorem exists_binade (power : Nat) (large : format.fractionBits < power) :
    ∃ start, format.number start = 2 ^ power / 2 ^ format.subunit ∧
      ∀ rank < start, 2 ^ (format.fractionBits + 1) * format.step rank ≤ format.number start := by
  obtain ⟨shift, rfl⟩ : ∃ shift, power = format.fractionBits + 1 + shift :=
    ⟨power - (format.fractionBits + 1), by omega⟩
  have positive : 0 < 2 ^ format.fractionBits := Nat.two_pow_pos _
  have number : format.number ((shift + 1) * 2 ^ format.fractionBits + 2 ^ format.fractionBits) =
      2 ^ (format.fractionBits + 1 + shift) / 2 ^ format.subunit := by
    rw [FloatFormat.number, format.units_of_parts _ _ (.inr le_rfl) (by omega), ← Nat.pow_add]
    push_cast
    congr 2
    omega
  refine ⟨_, number, ?_⟩
  intro rank before
  have binade : rank / 2 ^ format.fractionBits - 1 ≤ shift := by
    rw [← Nat.succ_mul, ← Nat.div_lt_iff_lt_mul positive] at before
    omega
  rw [number, step, mul_div_assoc', pow_add _ (format.fractionBits + 1) shift]
  apply div_le_div_of_nonneg_right _ (by positivity)
  exact mul_le_mul_of_nonneg_left (pow_le_pow_right₀ one_le_two binade) (by positivity)

theorem one_lt_slack : 1 < format.slack := by
  unfold slack
  linarith [show (0 : ℚ) < 1 / 2 ^ (format.fractionBits + 1) by positivity]

theorem half_step_le (rank : Nat) (normal : 2 ^ format.fractionBits ≤ rank) :
    format.number rank + format.step rank / 2 ≤ format.slack ^ 1 * format.number rank := by
  have bound := format.step_le_of_normal rank normal
  have binade : (0 : ℚ) < 2 ^ (format.fractionBits + 1) := by positivity
  have half : format.step rank / 2 ≤ 1 / 2 ^ (format.fractionBits + 1) * format.number rank := by
    rw [div_mul_eq_mul_div, one_mul, div_le_div_iff₀ two_pos binade, pow_succ]
    linarith
  rw [slack]
  linarith

theorem slack_sub_one_mul (rank : Nat) :
    (format.slack - 1) * (format.number rank + format.step rank) ≤ format.step rank := by
  have bound := format.number_succ_le rank
  have binade : (0 : ℚ) < 2 ^ (format.fractionBits + 1) := by positivity
  rw [number_succ] at bound
  rw [slack, add_sub_cancel_left, div_mul_eq_mul_div, one_mul, div_le_iff₀ binade]
  linarith

theorem slack_pow_nonneg (errors : Nat) : 0 ≤ format.slack ^ errors :=
  pow_nonneg (by linarith [format.one_lt_slack]) _

theorem le_slack_pow_mul_trans {errors more : Nat} {x y z : ℚ}
    (first : x ≤ format.slack ^ errors * y) (second : y ≤ format.slack ^ more * z) :
    x ≤ format.slack ^ (errors + more) * z := by
  calc
    x ≤ format.slack ^ errors * y := first
    _ ≤ format.slack ^ errors * (format.slack ^ more * z) :=
      mul_le_mul_of_nonneg_left second (format.slack_pow_nonneg errors)
    _ = format.slack ^ (errors + more) * z := by rw [pow_add, mul_assoc]

theorem mul_le_slack_pow_mul {errors more : Nat} {x y z w : ℚ}
    (first : x ≤ format.slack ^ errors * y) (second : z ≤ format.slack ^ more * w)
    (nonneg : 0 ≤ y) (nonneg' : 0 ≤ z) :
    x * z ≤ format.slack ^ (errors + more) * (y * w) := by
  calc
    x * z ≤ format.slack ^ errors * y * (format.slack ^ more * w) :=
      mul_le_mul first second nonneg' (mul_nonneg (format.slack_pow_nonneg errors) nonneg)
    _ = format.slack ^ (errors + more) * (y * w) := by
      rw [pow_add]
      ring

/-- Two numbers are equal but for so many relative errors of rounding. -/
structure Close (errors : Nat) (x y : ℚ) : Prop where
  below : x ≤ format.slack ^ errors * y
  above : y ≤ format.slack ^ errors * x

variable {format}

theorem Close.refl (x : ℚ) : format.Close 0 x x :=
  ⟨by simp, by simp⟩

theorem Close.trans {errors more : Nat} {x y z : ℚ} (first : format.Close errors x y)
    (second : format.Close more y z) : format.Close (errors + more) x z := by
  constructor
  · exact format.le_slack_pow_mul_trans first.below second.below
  · rw [Nat.add_comm]
    exact format.le_slack_pow_mul_trans second.above first.above

theorem Close.mul {errors more : Nat} {x y z w : ℚ} (first : format.Close errors x y)
    (second : format.Close more z w) (nonneg : 0 ≤ x) (nonneg' : 0 ≤ y) (positive : 0 ≤ z)
    (positive' : 0 ≤ w) : format.Close (errors + more) (x * z) (y * w) :=
  ⟨format.mul_le_slack_pow_mul first.below second.below nonneg' positive,
    format.mul_le_slack_pow_mul first.above second.above nonneg positive'⟩

theorem Close.inv {errors : Nat} {x y : ℚ} (close : format.Close errors x y) (positive : 0 < x)
    (positive' : 0 < y) : format.Close errors x⁻¹ y⁻¹ := by
  constructor
  · rw [← div_eq_mul_inv, inv_eq_one_div, div_le_div_iff₀ positive positive', one_mul]
    exact close.above
  · rw [← div_eq_mul_inv, inv_eq_one_div, div_le_div_iff₀ positive' positive, one_mul]
    exact close.below

theorem Close.div {errors more : Nat} {x y z w : ℚ} (first : format.Close errors x y)
    (second : format.Close more z w) (nonneg : 0 ≤ x) (nonneg' : 0 ≤ y) (positive : 0 < z)
    (positive' : 0 < w) : format.Close (errors + more) (x / z) (y / w) := by
  rw [div_eq_mul_inv, div_eq_mul_inv]
  exact first.mul (second.inv positive positive') nonneg nonneg' (inv_nonneg.mpr positive.le)
    (inv_nonneg.mpr positive'.le)

theorem Rounds.close {q : ℚ} {rank : Nat} (rounds : format.Rounds q rank)
    (normal : format.number (2 ^ format.fractionBits) ≤ q) :
    format.Close 1 q (format.number rank) := by
  have least : 2 ^ format.fractionBits ≤ rank := (format.rounds_number _).mono rounds normal
  constructor
  · have high := rounds.high
    have half := format.half_step_le rank least
    rw [number_succ] at high
    linarith
  · rcases Nat.eq_or_lt_of_le least with rfl | above
    · have slack := format.one_lt_slack
      have nonneg := rounds.nonneg
      calc
        format.number (2 ^ format.fractionBits) ≤ 1 * q := by rwa [one_mul]
        _ ≤ format.slack ^ 1 * q := by
          rw [pow_one]
          exact mul_le_mul_of_nonneg_right slack.le nonneg
    · obtain ⟨before, rfl⟩ := Nat.exists_eq_add_one.mpr (Nat.zero_lt_of_lt above)
      have half := format.half_step_le before (by omega)
      have positive := format.step_pos before
      have low := rounds.low
      rw [Nat.add_sub_cancel, number_succ] at low
      have error : (format.slack - 1) * format.number before ≤ (format.slack - 1) * q :=
        mul_le_mul_of_nonneg_left (by linarith) (by linarith [format.one_lt_slack])
      rw [number_succ]
      linarith

theorem Rounds.le_add_two {q q' : ℚ} {rank other : Nat} (rounds : format.Rounds q rank)
    (rounds' : format.Rounds q' other) (close : q' ≤ format.slack ^ 2 * q) : other ≤ rank + 2 := by
  by_contra above
  have high := rounds.high
  have low := rounds'.low
  have first : format.number (rank + 2) ≤ format.number (other - 1) :=
    format.strictMono_number.monotone (by omega)
  have second : format.number (rank + 3) ≤ format.number other :=
    format.strictMono_number.monotone (by omega)
  have widen : format.step rank ≤ format.step (rank + 1) := format.step_mono (by omega)
  have widen' : format.step rank ≤ format.step (rank + 2) := format.step_mono (by omega)
  have positive := format.step_pos rank
  -- The middle above the first float is above the second number by four distances.
  have apart : 2 * format.number rank + 5 * format.step rank ≤ 2 * q' := by
    rw [number_succ _ (rank + 2)] at second
    rw [number_succ _ (rank + 1), number_succ] at first second
    linarith
  have below : 2 * q ≤ 2 * format.number rank + format.step rank := by
    rw [number_succ] at high
    linarith
  have error := format.slack_sub_one_mul rank
  have relative := format.one_lt_slack
  generalize format.slack = slack at *
  generalize format.number rank = number at *
  generalize format.step rank = step at *
  have reach : (slack - 1) * (2 * number + step) ≤ (2 - (slack - 1)) * step := by
    linarith
  have twice : 2 * q' ≤ slack ^ 2 * (2 * number + step) := by
    calc
      2 * q' ≤ 2 * (slack ^ 2 * q) := by linarith
      _ = slack ^ 2 * (2 * q) := by ring
      _ ≤ slack ^ 2 * (2 * number + step) := mul_le_mul_of_nonneg_left below (by positivity)
  have spread : slack ^ 2 * (2 * number + step) < 2 * number + 5 * step := by
    calc
      slack ^ 2 * (2 * number + step) =
          2 * number + step + (slack + 1) * ((slack - 1) * (2 * number + step)) := by ring
      _ ≤ 2 * number + step + (slack + 1) * ((2 - (slack - 1)) * step) :=
        add_le_add_right (mul_le_mul_of_nonneg_left reach (by linarith)) _
      _ = 2 * number + 5 * step - (slack - 1) ^ 2 * step := by ring
      _ < 2 * number + 5 * step := by
        have square : 0 < (slack - 1) ^ 2 * step :=
          mul_pos (pow_pos (by linarith) 2) positive
        linarith
  linarith

theorem Rounds.near {q q' : ℚ} {rank other : Nat} (rounds : format.Rounds q rank)
    (rounds' : format.Rounds q' other) (close : format.Close 2 q q') :
    other ≤ rank + 2 ∧ rank ≤ other + 2 :=
  ⟨rounds.le_add_two rounds' close.above, rounds'.le_add_two rounds close.below⟩

end QueryAlgebra.FloatFormat
