import QueryAlgebra.Proofs.Floating.Arithmetic
import QueryAlgebra.Proofs.Floating.Fractions
import QueryAlgebra.Proofs.Floating.Middle

/-!
Reading the shortest decimal number of a 32-bit float with the precision of 64 bits. This goes wrong
only if the number lies within two errors of the wide format from a middle between narrow floats.
A middle is an odd multiple of half the distance of the floats in its binade, and the number is a
multiple of a power of ten that is not much smaller. So the question for each binade is whether a
fraction with a small odd denominator comes near to a fixed ratio; one convergent of the ratio
answers it. There is a single such number.
-/

namespace QueryAlgebra.FloatFormat

/-- The least exponent whose power of ten is no smaller than the distance of the 32-bit floats in a
binade. -/
def gridExponent (shift : Nat) : Int := -((149 - shift) * 30103 / 100000)

def halfStep (shift : Nat) (exponent : Int) : Fraction :=
  ⟨2 ^ shift * 10 ^ (-exponent).toNat, 2 ^ 150 * 10 ^ exponent.toNat⟩

def approximation (shift : Nat) : Fraction :=
  Fraction.convergent (2 ^ 25 + 2 ^ 21) 40 (halfStep shift (gridExponent shift)) ⟨0, 1⟩ ⟨1, 0⟩

/-- In each binade the next smaller power of ten is below the distance of the floats; a convergent
tells which fractions are near to the ratio, and but for one it is not near itself, or equal to the
ratio, or has a denominator that is even or too large; and the middle after the first float is not
near to the next finer grid either. -/
theorem binade_checks : ∀ shift < 254,
    10 ^ (gridExponent shift - 1).toNat * 2 ^ 175 <
        2 ^ shift * (2 ^ 26 - 1) * 10 ^ (1 - gridExponent shift).toNat ∧
      (Fraction.Settles 51 (2 ^ 25) (halfStep shift (gridExponent shift)) (approximation shift) ∧
        (2 ^ 25 < (approximation shift).denominator ∨ (approximation shift).denominator % 2 = 0 ∨
          (approximation shift).gap (halfStep shift (gridExponent shift)) = 0 ∨
          ¬Fraction.Near 51 (halfStep shift (gridExponent shift)) (approximation shift) ∨
          shift = 42 ∧ approximation shift = ⟨7038531, 22841339⟩)) ∧
      (0 < shift →
        let ratio := halfStep shift (gridExponent shift - 1)
        let product := ratio.numerator * (2 ^ 24 + 1)
        let rest := product % ratio.denominator
        (rest = 0 ∨ product < rest * 2 ^ 51) ∧
          product < (ratio.denominator - rest) * 2 ^ 51) := by
  decide +kernel

/-- The binade of a 32-bit float. -/
def binade (rank : Nat) : Nat := rank / 2 ^ 23 - 1

/-- The middle after a 32-bit float, in half distances of its binade. -/
def halves (rank : Nat) : Nat := 2 * (rank - binade rank * 2 ^ 23) + 1

theorem halves_lt (rank : Nat) : halves rank < 2 ^ 25 := by
  unfold halves binade
  omega

theorem step_eq (rank : Nat) : binary32.step rank = 2 ^ binade rank / 2 ^ 149 :=
  rfl

theorem middle_eq (rank : Nat) :
    binary32.middle rank = halves rank * (2 ^ binade rank / 2 ^ 150) := by
  have number : binary32.number rank =
      (rank - binade rank * 2 ^ 23 : Nat) * (2 ^ binade rank / 2 ^ 149) := by
    rw [FloatFormat.number, units_eq binary32 rank (binade rank) rfl, Nat.cast_mul, Nat.cast_pow,
      mul_div_assoc]
    rfl
  rw [middle, number, step_eq, halves]
  push_cast
  ring

theorem zpow_ten (exponent : Int) :
    (10 : ℚ) ^ exponent = 10 ^ exponent.toNat / 10 ^ (-exponent).toNat := by
  have value := Scientific.value_eq_zpow ⟨1, exponent⟩
  rw [Scientific.value, Scientific.numerator, Scientific.denominator] at value
  push_cast at value
  rw [← one_mul (10 ^ exponent), ← value, one_mul]

theorem halfStep_eq (shift : Nat) (exponent : Int) :
    ((halfStep shift exponent).numerator : ℚ) * 10 ^ exponent * 2 ^ 150 =
      2 ^ shift * (halfStep shift exponent).denominator := by
  have places : (10 : ℚ) ^ (-exponent).toNat ≠ 0 := by positivity
  rw [halfStep, zpow_ten]
  push_cast
  rw [mul_assoc (2 ^ shift), mul_div_cancel₀ _ places]
  ring

theorem Close.distance {x y : ℚ} (close : binary64.Close 2 x y) (nonneg : 0 ≤ y) :
    x * 2 ^ 51 ≤ y * 2 ^ 51 + y ∧ y * 2 ^ 51 ≤ x * 2 ^ 51 + y := by
  have below := close.below
  have above := close.above
  have slack : binary64.slack = 1 + 1 / 2 ^ 53 := rfl
  rw [slack] at below above
  constructor <;> linarith

theorem near_halfStep (digits halves shift : Nat) (exponent : Int)
    (close : binary64.Close 2 (digits * 10 ^ exponent) (halves * (2 ^ shift / 2 ^ 150))) :
    Fraction.Near 51 (halfStep shift exponent) ⟨digits, halves⟩ := by
  have distance := close.distance (by positivity)
  have ratio := halfStep_eq shift exponent
  have unit : (0 : ℚ) < (halfStep shift exponent).denominator :=
    Nat.cast_pos.mpr (Nat.mul_pos (Nat.two_pow_pos _) (Nat.pow_pos (by decide)))
  have power : (0 : ℚ) < 10 ^ exponent := zpow_pos (by norm_num) _
  generalize halfStep shift exponent = step at *
  have half : (2 : ℚ) ^ shift / 2 ^ 150 = step.numerator * 10 ^ exponent / step.denominator := by
    rw [div_eq_div_iff (by positivity) unit.ne', ratio]
  rw [half] at distance
  have scale (x y : ℚ) (order : x * (10 ^ exponent / step.denominator) ≤
      y * (10 ^ exponent / step.denominator)) : x ≤ y :=
    le_of_mul_le_mul_right order (div_pos power unit)
  have above : digits * step.denominator * 2 ^ 51 ≤
      step.numerator * halves * 2 ^ 51 + step.numerator * halves := by
    have order := scale (digits * step.denominator * 2 ^ 51)
      (step.numerator * halves * 2 ^ 51 + step.numerator * halves) (by
        have first := distance.1
        field_simp at first ⊢
        linarith)
    exact_mod_cast order
  have below : step.numerator * halves * 2 ^ 51 ≤
      digits * step.denominator * 2 ^ 51 + step.numerator * halves := by
    have order := scale (step.numerator * halves * 2 ^ 51)
      (digits * step.denominator * 2 ^ 51 + step.numerator * halves) (by
        have second := distance.2
        field_simp at second ⊢
        linarith)
    exact_mod_cast order
  exact Fraction.near_of_le above below

theorem value_eq_grid (s : Scientific) (exponent : Int) (least : exponent ≤ s.exponent) :
    s.value = (s.digits * 10 ^ (s.exponent - exponent).toNat : Nat) * 10 ^ exponent := by
  have split : (10 : ℚ) ^ s.exponent = 10 ^ (s.exponent - exponent).toNat * 10 ^ exponent := by
    rw [← zpow_natCast, ← zpow_add₀ (by norm_num), Int.toNat_of_nonneg (by omega), Int.sub_add_cancel]
  rw [Scientific.value_eq_zpow, split]
  push_cast
  ring

theorem gridExponent_le (shift : Nat) (exponent : Int) (finite : shift < 254)
    (coarse : 2 ^ shift / 2 ^ 149 * (1 - 1 / 2 ^ 26) ≤ (10 : ℚ) ^ exponent) :
    gridExponent shift ≤ exponent := by
  by_contra finer
  have order : (10 : ℚ) ^ exponent ≤ 10 ^ (gridExponent shift - 1) :=
    zpow_le_zpow_right₀ (by norm_num) (by omega)
  have bound := (Nat.cast_lt (α := ℚ)).mpr (binade_checks shift finite).1
  have places : (0 : ℚ) < 10 ^ (1 - gridExponent shift).toNat := by positivity
  have power := zpow_ten (gridExponent shift - 1)
  rw [neg_sub] at power
  rw [power, le_div_iff₀ places] at order
  have most := (mul_le_mul_of_nonneg_right coarse places.le).trans order
  push_cast at bound
  linarith

theorem eq_of_gap_eq_zero (digits halves shift : Nat) (exponent : Int)
    (exact : Fraction.gap ⟨digits, halves⟩ (halfStep shift exponent) = 0) :
    (digits : ℚ) * 10 ^ exponent = halves * (2 ^ shift / 2 ^ 150) := by
  have cross := congrArg (Nat.cast (R := ℚ)) (Nat.eq_of_dist_eq_zero exact)
  have ratio := halfStep_eq shift exponent
  have unit : ((halfStep shift exponent).denominator : ℚ) ≠ 0 :=
    Nat.cast_ne_zero.mpr (Nat.mul_pos (Nat.two_pow_pos _) (Nat.pow_pos (by decide))).ne'
  push_cast at cross
  apply mul_right_cancel₀ unit
  calc
    (digits : ℚ) * 10 ^ exponent * (halfStep shift exponent).denominator =
        digits * (halfStep shift exponent).denominator * 10 ^ exponent := by ring
    _ = halves * ((halfStep shift exponent).numerator * 10 ^ exponent * 2 ^ 150) / 2 ^ 150 := by
      rw [cross]
      ring
    _ = halves * (2 ^ shift / 2 ^ 150) * (halfStep shift exponent).denominator := by
      rw [ratio]
      ring

theorem exact_or_single (shift : Nat) (f : Fraction) (finite : shift < 254)
    (odd : f.denominator % 2 = 1) (small : f.denominator ≤ 2 ^ 25)
    (near : Fraction.Near 51 (halfStep shift (gridExponent shift)) f) :
    f.gap (halfStep shift (gridExponent shift)) = 0 ∨
      shift = 42 ∧ f = ⟨7038531, 22841339⟩ := by
  obtain ⟨-, ⟨settles, cases⟩, -⟩ := binade_checks shift finite
  generalize halfStep shift (gridExponent shift) = ratio at *
  generalize approximation shift = g at *
  obtain ⟨factor, nonzero, form⟩ := settles.exists_scale near (by omega) small
  have denominator : f.denominator = g.denominator * factor := by rw [form, Fraction.scale]
  rcases cases with large | even | exact | far | ⟨binade, convergent⟩
  · have most := Nat.le_mul_of_pos_right g.denominator nonzero
    omega
  · rw [denominator, Nat.mul_mod, even, Nat.zero_mul] at odd
    cases odd
  · rw [form, Fraction.gap_scale, exact, Nat.zero_mul]
    exact .inl rfl
  · rw [form] at near
    exact absurd (Fraction.near_scale 51 _ g factor nonzero near) far
  · right
    rw [convergent] at denominator form
    rw [denominator] at small
    have bound : 22841339 * factor < 22841339 * 2 := small.trans_lt (by decide)
    have single : factor = 1 := Nat.le_antisymm
      (Nat.le_of_lt_succ (Nat.lt_of_mul_lt_mul_left bound)) nonzero
    rw [single, Fraction.scale, Nat.mul_one, Nat.mul_one] at form
    exact ⟨binade, form⟩

theorem start_of_step_lt (rank : Nat) (sparser : binary32.step (rank - 1) < binary32.step rank) :
    0 < binade rank ∧ halves rank = 2 ^ 24 + 1 := by
  rw [step_eq, step_eq, div_lt_div_iff_of_pos_right (by positivity),
    pow_lt_pow_iff_right₀ one_lt_two] at sparser
  unfold binade at sparser
  unfold halves binade
  omega

theorem single_of_near_middle (tie : Tie) (rank other : Nat) (positive : rank ≠ 0)
    (finite : rank < binary32.infinity) (beside : other = rank ∨ other + 1 = rank)
    (differs : (binary32.shortest tie rank).value ≠ binary32.middle other)
    (close : binary64.Close 2 (binary32.shortest tie rank).value (binary32.middle other)) :
    (binary32.shortest tie rank).value = (⟨7038531, -32⟩ : Scientific).value := by
  have below : binade other < 254 := by
    have top : binary32.infinity = 255 * 2 ^ 23 := rfl
    unfold binade
    omega
  have distance := close.distance (binary32.middle_pos other).le
  have size : binary32.middle other ≤ 2 ^ 24 * binary32.step other := binary32.middle_le other
  have step := binary32.step_pos other
  have near : |(binary32.shortest tie rank).value - binary32.middle other| ≤
      binary32.middle other / 2 ^ 51 := by
    rw [abs_le]
    constructor <;> linarith
  have coarse := binary32.step_le_of_near_middle tie rank other _ positive beside near (by linarith)
  generalize binary32.shortest tie rank = s at *
  dsimp only at coarse
  rw [middle_eq] at differs close
  -- The grid is in the range of the table, or one place finer at the start of a binade.
  rcases coarse with coarse | ⟨rfl, sparser, coarse⟩
  · have least := gridExponent_le (binade other) s.exponent below (by
      rw [← step_eq]
      linarith)
    rw [value_eq_grid s _ least] at differs close ⊢
    have odd : halves other % 2 = 1 := by
      unfold halves
      omega
    -- The convergent leaves only the middle itself and a single other number.
    rcases exact_or_single (binade other) _ below odd (halves_lt other).le
      (near_halfStep _ _ _ _ close) with exact | ⟨shift, single⟩
    · exact absurd (eq_of_gap_eq_zero _ _ _ _ exact) differs
    · have digits := congrArg Fraction.numerator single
      dsimp only at digits
      rw [digits, shift, Scientific.value_eq_zpow]
      rfl
  · have least : gridExponent (binade other) ≤ s.exponent + 1 := by
      apply gridExponent_le _ _ below
      rw [← step_eq, zpow_add_one₀ (by norm_num)]
      have power : (0 : ℚ) < 10 ^ s.exponent := zpow_pos (by norm_num) _
      linarith
    rw [value_eq_grid s (gridExponent (binade other) - 1) (by omega)] at differs close
    have start := start_of_step_lt other sparser
    obtain ⟨small, large⟩ := (binade_checks (binade other) below).2.2 start.1
    rw [start.2] at differs close
    exact absurd (eq_of_gap_eq_zero _ _ _ _ ((near_halfStep _ _ _ _ close).gap_eq_zero small large))
      differs

/-- The 32-bit float whose shortest decimal number lies nearest to a middle. -/
def singular : Nat := 0x15AE43FD

/-- A number close to a shortest decimal number rounds to the same 32-bit float, if the middles
between floats are left as they are. One float is an exception. -/
theorem rounds_of_close_shortest (tie : Tie) (rank : Nat) (q : ℚ) (positive : rank ≠ 0)
    (finite : rank < binary32.infinity) (nonneg : 0 ≤ q)
    (close : binary64.Close 2 (binary32.shortest tie rank).value q)
    (exact : ∀ other, (binary32.shortest tie rank).value = binary32.middle other →
      q = (binary32.shortest tie rank).value)
    (regular : rank ≠ singular) : binary32.Rounds q rank := by
  by_contra misses
  have rounds := binary32.rounds_shortest tie rank
  obtain ⟨other, beside, differs, near⟩ := rounds.close_middle close nonneg exact misses
  have value := single_of_near_middle tie rank other positive finite beside differs near
  have inside : (binary32.interval singular).contains ⟨7038531, -32⟩ = true := by decide
  rw [contains_iff_rounds, ← value] at inside
  exact regular (rounds.unique inside)

/-! The middles that are shortest decimal numbers themselves. -/

theorem exists_number_eq_middle (rank : Nat) :
    ∃ wide, binary64.number wide = binary32.middle rank := by
  have short : halves rank ≤ 2 * 2 ^ binary64.fractionBits :=
    (halves_lt rank).le.trans (by decide)
  obtain ⟨wide, units⟩ := binary64.exists_units_eq (binade rank + 924) (halves rank) short
  have subunit : binary64.subunit = 150 + 924 := rfl
  refine ⟨wide, ?_⟩
  rw [number, units, middle_eq, subunit, pow_add, pow_add, Nat.cast_mul, Nat.cast_mul,
    Nat.cast_pow, Nat.cast_pow, Nat.cast_ofNat, mul_div_assoc,
    mul_div_mul_right _ _ (pow_ne_zero _ two_ne_zero)]

theorem le_of_five_pow_dvd (power n shift : Nat) (positive : 0 < n) (small : n < 5 ^ 23)
    (divides : 5 ^ power ∣ n * 2 ^ shift) : power ≤ 22 := by
  have prime : Nat.Coprime (5 ^ power) (2 ^ shift) := Nat.Coprime.pow _ _ (by decide)
  have below := (Nat.le_of_dvd positive (prime.dvd_of_dvd_mul_right divides)).trans_lt small
  exact Nat.le_of_lt_succ ((Nat.pow_lt_pow_iff_right (by decide)).mp below)

theorem exponent_of_eq_middle (s : Scientific) (rank : Nat) (nonzero : s.digits ≠ 0)
    (few : s.digits < 5 ^ 23) (same : s.value = binary32.middle rank) :
    -22 ≤ s.exponent ∧ s.exponent ≤ 22 := by
  rw [middle_eq] at same
  rcases le_or_gt 0 s.exponent with whole | small
  · rw [s.value_of_nonneg whole, mul_div_assoc', eq_div_iff (by positivity)] at same
    have cross : s.digits * 10 ^ s.exponent.toNat * 2 ^ 150 = halves rank * 2 ^ binade rank := by
      exact_mod_cast same
    have divides : 5 ^ s.exponent.toNat ∣ halves rank * 2 ^ binade rank := by
      rw [← cross, show 10 = 5 * 2 from rfl, Nat.mul_pow]
      exact ((dvd_mul_right _ _).mul_left _).mul_right _
    have bound := le_of_five_pow_dvd _ _ _ (by unfold halves; omega)
      ((halves_lt rank).trans (by decide)) divides
    omega
  · rw [s.value_of_nonpos small.le, mul_div_assoc', div_eq_div_iff (by positivity) (by positivity)]
      at same
    have cross : s.digits * 2 ^ 150 =
        halves rank * 2 ^ binade rank * 10 ^ (-s.exponent).toNat := by
      exact_mod_cast same
    have divides : 5 ^ (-s.exponent).toNat ∣ s.digits * 2 ^ 150 := by
      rw [cross, show 10 = 5 * 2 from rfl, Nat.mul_pow]
      exact (dvd_mul_right _ _).mul_left _
    have bound := le_of_five_pow_dvd _ _ _ (Nat.pos_of_ne_zero nonzero) few divides
    omega

end QueryAlgebra.FloatFormat
