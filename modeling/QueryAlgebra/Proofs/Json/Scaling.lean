import QueryAlgebra.Json.NumberLiteral
import QueryAlgebra.Proofs.Floating.Arithmetic
import QueryAlgebra.Proofs.Floating.Length

/-!
How far the float that a significand with an exponent is read as may lie from the one nearest to the
number. The significand and the power of ten are rounded, and so is their product or quotient: the
first two errors move the result by two floats at most. Below the least power of ten the number is
divided twice, and a third error comes in; but the greatest power of ten lies so near to its float
that the bound stays the same.
-/

namespace QueryAlgebra.NumberLiteral

open FloatFormat

theorem rounds_product (n m : Nat) : binary64.Rounds
    (binary64.number (binary64.ofNat n) * binary64.number (binary64.ofNat m))
    (binary64.product (binary64.ofNat n) (binary64.ofNat m)) :=
  binary64.rounds_product (by decide) _ _

theorem rounds_quotient (rank m : Nat) (positive : 0 < m) : binary64.Rounds
    (binary64.number rank / binary64.number (binary64.ofNat m))
    (binary64.quotient rank (binary64.ofNat m)) :=
  binary64.rounds_quotient (by decide) _ _
    (binary64.ofNat_ne_zero (by decide) (by decide) m positive)

theorem number_pos (n : Nat) (positive : 0 < n) : 0 < binary64.number (binary64.ofNat n) :=
  binary64.number_ofNat_pos (by decide) (by decide) n positive

theorem close_number (n : Nat) (positive : 0 < n) :
    binary64.Close 1 n (binary64.number (binary64.ofNat n)) :=
  binary64.close_ofNat (by decide) (by decide) n positive

theorem number_eq (n : Nat) (small : n ≤ 2 ^ 53) : binary64.number (binary64.ofNat n) = n := by
  have exact := binary64.number_ofNat (by decide) n 0 small
  rwa [Nat.pow_zero, Nat.mul_one, pow_zero, mul_one] at exact

theorem number_power (exponent : Nat) (small : exponent ≤ 22) :
    binary64.number (binary64.ofNat (10 ^ exponent)) = 10 ^ exponent := by
  have fits : 5 ^ exponent ≤ 2 * 2 ^ binary64.fractionBits := by
    calc
      5 ^ exponent ≤ 5 ^ 22 := Nat.pow_le_pow_right (by decide) small
      _ ≤ 2 * 2 ^ binary64.fractionBits := by decide
  have exact := binary64.number_ofNat (by decide) (5 ^ exponent) exponent fits
  rw [← Nat.mul_pow, Nat.cast_pow, ← mul_pow] at exact
  norm_num at exact
  exact exact

theorem near_product (n m rank : Nat) (positive : 0 < n) (positive' : 0 < m)
    (rounds : binary64.Rounds (n * m) rank) :
    binary64.product (binary64.ofNat n) (binary64.ofNat m) ≤ rank + 2 ∧
      rank ≤ binary64.product (binary64.ofNat n) (binary64.ofNat m) + 2 :=
  rounds.near (rounds_product n m) <|
    (close_number n positive).mul (close_number m positive') (Nat.cast_nonneg n)
      (binary64.number_nonneg _) (Nat.cast_nonneg m) (binary64.number_nonneg _)

theorem near_quotient (n m rank : Nat) (positive : 0 < n) (positive' : 0 < m)
    (rounds : binary64.Rounds (n / m) rank) :
    binary64.quotient (binary64.ofNat n) (binary64.ofNat m) ≤ rank + 2 ∧
      rank ≤ binary64.quotient (binary64.ofNat n) (binary64.ofNat m) + 2 :=
  rounds.near (rounds_quotient _ m positive') <|
    (close_number n positive).div (close_number m positive') (Nat.cast_nonneg n)
      (binary64.number_nonneg _) (Nat.cast_pos.mpr positive') (number_pos m positive')

/-! Division by the greatest power of ten. -/

def ten308 : ℚ := 10 ^ greatestPower

def unit308 : ℚ := 2 ^ 971

theorem ten308_pos : 0 < ten308 := by
  unfold ten308
  positivity

theorem unit308_pos : 0 < unit308 := by
  unfold unit308
  positivity

def float308 : ℚ := 5010420900022432 * unit308

theorem float308_pos : 0 < float308 := by
  unfold float308
  linarith [unit308_pos]

theorem number_ten308 : binary64.number (binary64.ofNat (10 ^ 308)) = float308 := by
  have rank : binary64.ofNat (10 ^ 308) =
      (971 + 1074) * 2 ^ binary64.fractionBits + 5010420900022432 := by
    decide +kernel
  have units := binary64.units_of_parts (971 + 1074) 5010420900022432 (.inr (by decide))
    (by decide)
  have subunit : binary64.subunit = 1074 := rfl
  rw [rank, number, units, subunit, Nat.cast_mul, Nat.cast_pow, Nat.cast_ofNat, Nat.cast_ofNat,
    pow_add, ← mul_assoc, mul_div_assoc, div_self (pow_ne_zero _ two_ne_zero), mul_one, float308,
    unit308]

theorem ten308_checks :
    10 ^ 308 ≤ 5010420900022432 * 2 ^ 971 ∧
      (2 * 5010420900022432 + 1) * 2 ^ 971 * 2 ^ 52 ≤ (2 ^ 53 + 1) * 10 ^ 308 ∧
      (2 ^ 53 + 1) * 10 ^ 308 * 5010420900022432 + 2 ^ 159 * (5010420900022432 * 2 ^ 971) ≤
        2 ^ 106 * ((2 ^ 53 + 1) * 10 ^ 308) ∧
      2 ^ 52 * (5010420900022432 * 2 ^ 971) ≤ 3 * 2 ^ 1074 := by
  decide +kernel

/-- The float of the greatest power of ten is above it, by so little that there is room for the
error of a significand no smaller than its own. -/
theorem ten308_bounds :
    ten308 ≤ float308 ∧
      (2 * 5010420900022432 + 1) * unit308 * 2 ^ 52 ≤ (2 ^ 53 + 1) * ten308 ∧
      (2 ^ 53 + 1) * ten308 * 5010420900022432 + 2 ^ 159 * float308 ≤
        2 ^ 106 * ((2 ^ 53 + 1) * ten308) := by
  obtain ⟨above, near, nearer, -⟩ := ten308_checks
  rw [← Nat.cast_le (α := ℚ)] at above near nearer
  simp only [Nat.cast_mul, Nat.cast_add, Nat.cast_pow, Nat.cast_ofNat, Nat.cast_one]
    at above near nearer
  rw [ten308, greatestPower]
  exact ⟨above, near, nearer⟩

theorem close_ten308 : binary64.Close 1 ten308 float308 := by
  have close := close_number (10 ^ 308) (by positivity)
  rwa [number_ten308, Nat.cast_pow, Nat.cast_ofNat, ← greatestPower, ← ten308] at close

theorem slack_eq : binary64.slack = (2 ^ 53 + 1) / 2 ^ 53 := by
  have bits : binary64.fractionBits = 52 := rfl
  rw [slack, bits]
  norm_num

def divided (rank : Nat) : Nat := binary64.quotient rank (binary64.ofNat (10 ^ greatestPower))

theorem rounds_divided (rank : Nat) :
    binary64.Rounds (binary64.number rank / float308) (divided rank) := by
  have rounds := rounds_quotient rank (10 ^ 308) (by positivity)
  rw [number_ten308] at rounds
  rwa [divided, greatestPower]

theorem number_normal : binary64.number (2 ^ binary64.fractionBits) = 2 ^ 52 / 2 ^ 1074 := by
  have units := binary64.units_of_parts 0 (2 ^ binary64.fractionBits) (.inl rfl) (by omega)
  have subunit : binary64.subunit = 1074 := rfl
  have bits : binary64.fractionBits = 52 := rfl
  rw [Nat.zero_mul, Nat.zero_add, Nat.pow_zero, Nat.mul_one] at units
  rw [number, units, subunit, bits, Nat.cast_pow, Nat.cast_ofNat]

theorem normal_divided (n : Nat) (large : 3 ≤ n) :
    binary64.number (2 ^ binary64.fractionBits) ≤
      binary64.number (binary64.ofNat n) / float308 := by
  have three : binary64.ofNat 3 ≤ binary64.ofNat n :=
    (binary64.rounds_ofNat (by decide) 3).mono (binary64.rounds_ofNat (by decide) n)
      (Nat.cast_le.mpr large)
  have above : (3 : ℚ) ≤ binary64.number (binary64.ofNat n) := by
    have exact := number_eq 3 (by decide)
    rw [Nat.cast_ofNat] at exact
    rw [← exact]
    exact binary64.strictMono_number.monotone three
  obtain ⟨-, -, -, small⟩ := ten308_checks
  rw [← Nat.cast_le (α := ℚ)] at small
  simp only [Nat.cast_mul, Nat.cast_pow, Nat.cast_ofNat] at small
  rw [number_normal, div_le_div_iff₀ (by positivity) float308_pos, float308, unit308]
  exact small.trans (mul_le_mul_of_nonneg_right above (by positivity))

theorem le_of_large (n a step : ℚ) (nonneg : 0 ≤ a) (near : 2 * n ≤ 2 * a + step)
    (large : 5010420900022432 * step ≤ a) :
    n * float308 ≤ binary64.slack * a * ten308 := by
  obtain ⟨-, bound, -⟩ := ten308_bounds
  have positive := unit308_pos.le
  have significand : 2 * 5010420900022432 * n ≤ (2 * 5010420900022432 + 1) * a := by
    linarith
  rw [slack_eq, float308]
  calc
    n * (5010420900022432 * unit308) = 2 * 5010420900022432 * n * unit308 / 2 := by ring
    _ ≤ (2 * 5010420900022432 + 1) * a * unit308 / 2 :=
      div_le_div_of_nonneg_right (mul_le_mul_of_nonneg_right significand positive) zero_le_two
    _ = a * ((2 * 5010420900022432 + 1) * unit308 * 2 ^ 52) / 2 ^ 53 := by ring
    _ ≤ a * ((2 ^ 53 + 1) * ten308) / 2 ^ 53 :=
      div_le_div_of_nonneg_right (mul_le_mul_of_nonneg_left bound nonneg) (by positivity)
    _ = (2 ^ 53 + 1) / 2 ^ 53 * a * ten308 := by ring

/-- If it is smaller, the quotient lies far up in its binade, and its error is less than one by more
than the error of the power of ten. -/
theorem le_of_small (a step quotient : ℚ) (positive : 0 ≤ step) (normal : 2 ^ 52 * step ≤ a)
    (near : a / float308 ≤ quotient + step / unit308 / 2 ^ 54) :
    a ≤ binary64.slack * quotient * ten308 := by
  obtain ⟨-, -, bound⟩ := ten308_bounds
  have unit : unit308 ≠ 0 := unit308_pos.ne'
  rw [div_le_iff₀ float308_pos] at near
  obtain ⟨reach, slackened⟩ : ∃ reach, reach = (2 ^ 53 + 1) / 2 ^ 53 * ten308 := ⟨_, rfl⟩
  have nonneg : 0 ≤ reach := by
    rw [slackened]
    exact mul_nonneg (by positivity) ten308_pos.le
  have room : reach * 5010420900022432 / 2 ^ 54 ≤ 2 ^ 52 * (reach - float308) := by
    rw [slackened]
    linarith
  have spare : 0 ≤ reach - float308 := by
    have part : 0 ≤ reach * 5010420900022432 / 2 ^ 54 := by positivity
    linarith
  have expand : (quotient + step / unit308 / 2 ^ 54) * float308 =
      quotient * float308 + step * 5010420900022432 / 2 ^ 54 := by
    rw [float308]
    field_simp
  have scaled : a * float308 ≤ reach * quotient * float308 := by
    have error := mul_le_mul_of_nonneg_left room positive
    have product := mul_le_mul_of_nonneg_left near nonneg
    have whole := mul_le_mul_of_nonneg_right normal spare
    rw [expand] at product
    linarith
  have below := le_of_mul_le_mul_right scaled float308_pos
  rw [slackened] at below
  rw [slack_eq]
  linarith

theorem number_le_of_small (rank : Nat) (first : 1076 * 2 ^ 52 ≤ rank)
    (small : binary64.number rank < 5010420900022432 * binary64.step rank) :
    binary64.number rank ≤ binary64.slack * binary64.number (divided rank) * ten308 := by
  have bits : binary64.fractionBits = 52 := rfl
  have rounds := rounds_divided rank
  obtain ⟨shift, binade⟩ : ∃ shift, rank / 2 ^ 52 - 1 = shift + 971 :=
    ⟨rank / 2 ^ 52 - 1 - 971, by omega⟩
  obtain ⟨start, top, steps⟩ := binary64.exists_binade shift (by rw [bits]; omega)
  have step : binary64.step rank = binary64.number start * unit308 := by
    rw [FloatFormat.step, bits, binade, top, pow_add, mul_div_right_comm, unit308]
  have below : binary64.number rank / float308 ≤ binary64.number start := by
    rw [div_le_iff₀ float308_pos, float308]
    rw [step] at small
    linarith
  -- The quotient is the first float of its binade or lies below it, where floats are twice as
  -- close.
  rcases (rounds.mono (binary64.rounds_number start) below).eq_or_lt with same | before
  · have power := close_ten308.above
    rw [pow_one] at power
    rw [div_le_iff₀ float308_pos, ← same] at below
    calc
      binary64.number rank ≤ binary64.number (divided rank) * float308 := below
      _ ≤ binary64.number (divided rank) * (binary64.slack * ten308) :=
        mul_le_mul_of_nonneg_left power (binary64.number_nonneg _)
      _ = binary64.slack * binary64.number (divided rank) * ten308 := by ring
  · have normal := binary64.step_le_of_normal rank (by rw [bits]; omega)
    apply le_of_small _ (binary64.step rank) _ (binary64.step_pos rank).le normal
    have high := rounds.high
    have half : 2 ^ 53 * binary64.step (divided rank) ≤ binary64.number start :=
      steps (divided rank) before
    rw [number_succ] at high
    rw [step, mul_div_assoc, div_self unit308_pos.ne', mul_one]
    linarith

theorem le_divided_of_large (n : Nat) (normal : 3 ≤ n)
    (large : 5010420900022432 * binary64.step (binary64.ofNat n) ≤
      binary64.number (binary64.ofNat n)) :
    (n : ℚ) ≤ binary64.slack *
      (binary64.slack * binary64.number (divided (binary64.ofNat n)) * ten308) := by
  have high := (binary64.rounds_ofNat (by decide) n).high
  rw [number_succ] at high
  -- One error is spent on the significand and the power of ten together, the other on the
  -- quotient.
  have both := le_of_large n _ (binary64.step (binary64.ofNat n)) (binary64.number_nonneg _)
    (by linarith) large
  have quotient := ((rounds_divided _).close (normal_divided n normal)).below
  rw [pow_one, div_le_iff₀ float308_pos] at quotient
  have slack := binary64.one_lt_slack
  have scaled : n * float308 ≤
      binary64.slack * (binary64.slack * binary64.number (divided (binary64.ofNat n)) * ten308) *
        float308 := by
    calc
      n * float308 ≤ binary64.slack * binary64.number (binary64.ofNat n) * ten308 := both
      _ = binary64.number (binary64.ofNat n) * (binary64.slack * ten308) := by ring
      _ ≤ binary64.slack * binary64.number (divided (binary64.ofNat n)) * float308 *
          (binary64.slack * ten308) :=
        mul_le_mul_of_nonneg_right quotient (mul_nonneg (by linarith) ten308_pos.le)
      _ = _ := by ring
  exact le_of_mul_le_mul_right scaled float308_pos

/-- A large significand divided by the greatest power of ten is within two errors below. -/
theorem le_divided (n : Nat) (large : 2 ^ 53 < n) :
    n / ten308 ≤ binary64.slack ^ 2 * binary64.number (divided (binary64.ofNat n)) := by
  have slack := binary64.one_lt_slack
  have near : (n : ℚ) ≤ binary64.slack *
      (binary64.slack * binary64.number (divided (binary64.ofNat n)) * ten308) := by
    rcases le_or_gt (5010420900022432 * binary64.step (binary64.ofNat n))
      (binary64.number (binary64.ofNat n)) with significand | small
    · exact le_divided_of_large n (by omega) significand
    · have first : 1076 * 2 ^ 52 ≤ binary64.ofNat n := by
        have start : binary64.ofNat (2 ^ 53) = 1076 * 2 ^ 52 := by decide +kernel
        rw [← start]
        exact (binary64.rounds_ofNat (by decide) _).mono (binary64.rounds_ofNat (by decide) n)
          (Nat.cast_le.mpr large.le)
      have single := (close_number n (by omega)).below
      rw [pow_one] at single
      exact single.trans
        (mul_le_mul_of_nonneg_left (number_le_of_small _ first small) (by linarith))
  rw [div_le_iff₀ ten308_pos]
  linarith

theorem close_divided (n : Nat) (large : 3 ≤ n) :
    binary64.Close 2 (n / ten308) (binary64.number (divided (binary64.ofNat n))) := by
  have slack := binary64.one_lt_slack
  have quotient := (rounds_divided _).close (normal_divided n large)
  rcases Nat.lt_or_ge (2 ^ 53) n with rounded | exact
  · refine ⟨le_divided n rounded, ?_⟩
    have significand := (close_number n (by omega)).above
    obtain ⟨above, -, -⟩ := ten308_bounds
    calc
      binary64.number (divided (binary64.ofNat n)) ≤
          binary64.slack ^ 1 * (binary64.number (binary64.ofNat n) / float308) := quotient.above
      _ ≤ binary64.slack ^ 1 * (binary64.slack ^ 1 * n / ten308) := by
        apply mul_le_mul_of_nonneg_left _ (by positivity)
        exact div_le_div₀ (by positivity) significand ten308_pos above
      _ = binary64.slack ^ 2 * (n / ten308) := by ring
  · have power : binary64.Close 1 (n / ten308) (n / float308) :=
      (Close.refl (n : ℚ)).div close_ten308 (Nat.cast_nonneg n) (Nat.cast_nonneg n) ten308_pos
        float308_pos
    rw [number_eq n exact] at quotient
    exact power.trans quotient

theorem near_divided (n exponent rank : Nat) (large : 3 ≤ n) (exact : exponent ≤ 22)
    (rounds : binary64.Rounds (n / ten308 / 10 ^ exponent) rank) :
    binary64.quotient (divided (binary64.ofNat n)) (binary64.ofNat (10 ^ exponent)) ≤ rank + 2 ∧
      rank ≤
        binary64.quotient (divided (binary64.ofNat n)) (binary64.ofNat (10 ^ exponent)) + 2 := by
  have power : (0 : ℚ) < 10 ^ exponent := by positivity
  have rounds' := rounds_quotient (divided (binary64.ofNat n)) (10 ^ exponent) (by positivity)
  rw [number_power exponent exact] at rounds'
  exact rounds.near rounds' <|
    (close_divided n large).div (Close.refl ((10 : ℚ) ^ exponent))
      (div_nonneg (Nat.cast_nonneg n) ten308_pos.le) (binary64.number_nonneg _) power power

theorem near_divided_small : ∀ n ∈ [1, 2], ∀ exponent < 17,
    binary64.quotient (divided (binary64.ofNat n)) (binary64.ofNat (10 ^ exponent)) ≤
        binary64.nearest n (10 ^ (greatestPower + exponent)) + 2 ∧
      binary64.nearest n (10 ^ (greatestPower + exponent)) ≤
        binary64.quotient (divided (binary64.ofNat n)) (binary64.ofNat (10 ^ exponent)) + 2 := by
  decide +kernel

theorem scaledRank_of_nonneg (s : Scientific) (nonzero : s.digits ≠ 0) (whole : 0 ≤ s.exponent)
    (greatest : s.exponent ≤ 308) :
    scaledRank s =
      binary64.product (binary64.ofNat s.digits) (binary64.ofNat (10 ^ s.exponent.toNat)) := by
  have inside : s.exponent ≤ greatestPower := greatest
  simp only [scaledRank, if_neg nonzero, if_pos whole, if_pos inside]

theorem scaledRank_of_places (s : Scientific) (nonzero : s.digits ≠ 0) (small : s.exponent < 0)
    (least : -308 ≤ s.exponent) :
    scaledRank s =
      binary64.quotient (binary64.ofNat s.digits) (binary64.ofNat (10 ^ (-s.exponent).toNat)) := by
  have places : (-s.exponent).toNat ≤ greatestPower := by
    unfold greatestPower
    omega
  simp only [scaledRank, if_neg nonzero, if_neg (not_le.mpr small), if_pos places]

theorem scaledRank_of_least (s : Scientific) (nonzero : s.digits ≠ 0) (exponent : Nat)
    (places : s.exponent = -(308 + exponent)) (positive : 0 < exponent) (few : exponent ≤ 308) :
    scaledRank s =
      binary64.quotient (divided (binary64.ofNat s.digits)) (binary64.ofNat (10 ^ exponent)) := by
  have negative : ¬0 ≤ s.exponent := by omega
  have size : (-s.exponent).toNat = greatestPower + exponent := by
    unfold greatestPower
    omega
  have large : ¬greatestPower + exponent ≤ greatestPower := by omega
  have twice : greatestPower + exponent ≤ 2 * greatestPower := by
    unfold greatestPower
    omega
  simp only [scaledRank, if_neg nonzero, if_neg negative, size, if_neg large, if_pos twice,
    Nat.add_sub_cancel_left, divided]

/-- A number is read as a float at most two floats from the one nearest to it. -/
theorem scaledRank_near (s : Scientific) (rank : Nat) (least : -324 ≤ s.exponent)
    (greatest : s.exponent ≤ 308) (rounds : binary64.Rounds s.value rank) :
    scaledRank s ≤ rank + 2 ∧ rank ≤ scaledRank s + 2 := by
  by_cases zero : s.digits = 0
  · rw [Scientific.value_eq_zpow, zero, Nat.cast_zero, zero_mul, ← binary64.number_zero] at rounds
    have first : rank = 0 := rounds.unique (binary64.rounds_number 0)
    have read : scaledRank s = 0 := by
      simp only [scaledRank, if_pos zero]
    omega
  · have digits : 0 < s.digits := Nat.pos_of_ne_zero zero
    rcases le_or_gt 0 s.exponent with whole | small
    · rw [s.value_of_nonneg whole] at rounds
      rw [scaledRank_of_nonneg s zero whole greatest]
      exact near_product s.digits _ rank digits (by positivity) rounds
    · rw [s.value_of_nonpos small.le] at rounds
      -- Beyond the greatest power of ten the significand is divided twice.
      rcases le_or_gt (-308) s.exponent with near | far
      · rw [scaledRank_of_places s zero small near]
        exact near_quotient s.digits _ rank digits (by positivity) rounds
      · obtain ⟨exponent, places⟩ : ∃ exponent : Nat, s.exponent = -(308 + exponent) :=
          ⟨(-308 - s.exponent).toNat, by omega⟩
        have size : (-s.exponent).toNat = greatestPower + exponent := by
          unfold greatestPower
          omega
        rw [size] at rounds
        rw [scaledRank_of_least s zero exponent places (by omega) (by omega)]
        rcases Nat.lt_or_ge s.digits 3 with few | large
        · have nearest := binary64.rounds_nearest s.digits (10 ^ (greatestPower + exponent))
            (by decide) (Nat.pow_pos (by decide))
          have member : s.digits ∈ [1, 2] := by
            rw [List.mem_cons, List.mem_singleton]
            omega
          rw [rounds.unique nearest]
          exact near_divided_small s.digits member exponent (by omega)
        · rw [Nat.cast_pow, Nat.cast_ofNat, pow_add, ← div_div] at rounds
          exact near_divided s.digits exponent rank large (by omega) rounds

theorem rounds_scaledRank (s : Scientific) (short : s.digits ≤ 2 ^ 53) (least : -22 ≤ s.exponent)
    (greatest : s.exponent ≤ 22) : binary64.Rounds s.value (scaledRank s) := by
  by_cases zero : s.digits = 0
  · have read : scaledRank s = 0 := by
      simp only [scaledRank, if_pos zero]
    rw [Scientific.value_eq_zpow, zero, Nat.cast_zero, zero_mul, read, ← binary64.number_zero]
    exact binary64.rounds_number 0
  · rcases le_or_gt 0 s.exponent with whole | small
    · have rounds := rounds_product s.digits (10 ^ s.exponent.toNat)
      rw [number_eq s.digits short, number_power _ (by omega)] at rounds
      rw [s.value_of_nonneg whole, scaledRank_of_nonneg s zero whole (by omega), Nat.cast_pow]
      exact rounds
    · have rounds := rounds_quotient (binary64.ofNat s.digits) (10 ^ (-s.exponent).toNat)
        (by positivity)
      rw [number_eq s.digits short, number_power _ (by omega)] at rounds
      rw [s.value_of_nonpos small.le, scaledRank_of_places s zero small (by omega), Nat.cast_pow]
      exact rounds

theorem normal_product (n m : Nat) (positive : 0 < n) (positive' : 0 < m) :
    binary64.number (2 ^ binary64.fractionBits) ≤ n * binary64.number (binary64.ofNat m) := by
  have one : 1 ≤ binary64.number (binary64.ofNat m) := by
    have first := number_eq 1 (by decide)
    have order : binary64.ofNat 1 ≤ binary64.ofNat m :=
      (binary64.rounds_ofNat (by decide) 1).mono (binary64.rounds_ofNat (by decide) m)
        (Nat.cast_le.mpr positive')
    rw [Nat.cast_one] at first
    rw [← first]
    exact binary64.strictMono_number.monotone order
  calc
    binary64.number (2 ^ binary64.fractionBits) ≤ 1 := binary64.number_normal_le_one (by decide)
    _ ≤ n * binary64.number (binary64.ofNat m) :=
      one_le_mul_of_one_le_of_one_le (Nat.one_le_cast.mpr positive) one

theorem normal_quotient (n exponent : Nat) (positive : 0 < n) (few : exponent ≤ 255) :
    binary64.number (2 ^ binary64.fractionBits) ≤
      n / binary64.number (binary64.ofNat (10 ^ exponent)) := by
  have power := number_pos (10 ^ exponent) (by positivity)
  have above := (close_number (10 ^ exponent) (by positivity)).above
  have twice : binary64.slack ^ 1 ≤ 2 := by
    rw [pow_one, slack_eq]
    norm_num
  have order : (10 : ℚ) ^ exponent ≤ 2 ^ 1020 := by
    calc
      (10 : ℚ) ^ exponent ≤ (2 ^ 4) ^ exponent :=
        pow_le_pow_left₀ (by norm_num) (by norm_num) exponent
      _ = 2 ^ (4 * exponent) := (pow_mul 2 4 exponent).symm
      _ ≤ 2 ^ 1020 := pow_le_pow_right₀ one_le_two (by omega)
  have small : (2 : ℚ) ^ 52 * (2 * 2 ^ 1020) ≤ 2 ^ 1074 := by
    rw [← pow_succ', ← pow_add]
    exact pow_le_pow_right₀ one_le_two (by decide)
  rw [Nat.cast_pow, Nat.cast_ofNat] at above
  rw [number_normal, div_le_div_iff₀ (by positivity) power]
  calc
    2 ^ 52 * binary64.number (binary64.ofNat (10 ^ exponent)) ≤
        2 ^ 52 * (2 * 2 ^ 1020) := by
      apply mul_le_mul_of_nonneg_left _ (by positivity)
      exact above.trans (mul_le_mul twice order (by positivity) zero_le_two)
    _ ≤ 2 ^ 1074 := small
    _ = 1 * 2 ^ 1074 := (one_mul _).symm
    _ ≤ n * 2 ^ 1074 :=
      mul_le_mul_of_nonneg_right (Nat.one_le_cast.mpr positive) (by positivity)

theorem close_scaledRank (s : Scientific) (nonzero : s.digits ≠ 0) (short : s.digits ≤ 2 ^ 53)
    (least : -255 ≤ s.exponent) (greatest : s.exponent ≤ 308) :
    binary64.Close 2 s.value (binary64.number (scaledRank s)) := by
  have digits : 0 < s.digits := Nat.pos_of_ne_zero nonzero
  rcases le_or_gt 0 s.exponent with whole | small
  · have power := close_number (10 ^ s.exponent.toNat) (by positivity)
    have rounds := rounds_product s.digits (10 ^ s.exponent.toNat)
    rw [number_eq s.digits short] at rounds
    have scaled := (Close.refl (s.digits : ℚ)).mul power (Nat.cast_nonneg _) (Nat.cast_nonneg _)
      (Nat.cast_nonneg _) (binary64.number_nonneg _)
    rw [s.value_of_nonneg whole, scaledRank_of_nonneg s nonzero whole greatest]
    exact scaled.trans (rounds.close (normal_product _ _ digits (by positivity)))
  · have power := close_number (10 ^ (-s.exponent).toNat) (by positivity)
    have rounds := rounds_quotient (binary64.ofNat s.digits) (10 ^ (-s.exponent).toNat)
      (by positivity)
    rw [number_eq s.digits short] at rounds
    have scaled := (Close.refl (s.digits : ℚ)).div power (Nat.cast_nonneg _) (Nat.cast_nonneg _)
      (Nat.cast_pos.mpr (by positivity)) (number_pos _ (by positivity))
    rw [s.value_of_nonpos small.le, scaledRank_of_places s nonzero small (by omega)]
    exact scaled.trans (rounds.close (normal_quotient _ _ digits (by omega)))

end QueryAlgebra.NumberLiteral
