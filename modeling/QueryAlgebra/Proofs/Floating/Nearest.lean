import Mathlib.Tactic.Linarith
import Mathlib.Tactic.Positivity
import QueryAlgebra.Floating.Rounding
import QueryAlgebra.Proofs.Floating.Order

/-!
Rounding to the nearest float. A number rounds to a float if it lies between the middles of the
float and its neighbours, and a middle rounds to the float of even rank. No larger number rounds to
a smaller float, so each number rounds to one float only, and this is the one that is computed.
-/

namespace QueryAlgebra

theorem divRoundEven_spec (numerator denominator : Nat) (positive : 0 < denominator) :
    let rounded := divRoundEven numerator denominator
    2 * (rounded * denominator) ≤ 2 * numerator + denominator ∧
      2 * numerator ≤ 2 * (rounded * denominator) + denominator ∧
      (2 * (rounded * denominator) = 2 * numerator + denominator → rounded % 2 = 0) ∧
      (2 * numerator = 2 * (rounded * denominator) + denominator → rounded % 2 = 0) := by
  have parts := Nat.div_add_mod' numerator denominator
  have small := Nat.mod_lt numerator positive
  unfold divRoundEven
  dsimp only
  split
  · rw [Nat.succ_mul (numerator / denominator)]
    generalize numerator / denominator * denominator = product at *
    omega
  · generalize numerator / denominator * denominator = product at *
    omega

namespace FloatFormat

variable (format : FloatFormat)

def number (rank : Nat) : ℚ := format.units rank / 2 ^ format.subunit

theorem strictMono_number : StrictMono format.number := by
  intro rank other less
  have units : (format.units rank : ℚ) < format.units other :=
    Nat.cast_lt.mpr (format.strictMono_units less)
  exact div_lt_div_of_pos_right units (pow_pos two_pos _)

theorem number_zero : format.number 0 = 0 := by
  simp [number, units_zero]

theorem number_nonneg (rank : Nat) : 0 ≤ format.number rank := by
  unfold number
  positivity

/-- A number lies among those that round to the float of a rank. -/
structure Rounds (q : ℚ) (rank : Nat) : Prop where
  low : format.number (rank - 1) + format.number rank ≤ 2 * q
  high : 2 * q ≤ format.number rank + format.number (rank + 1)
  even_of_low : format.number (rank - 1) + format.number rank = 2 * q → rank % 2 = 0
  even_of_high : 2 * q = format.number rank + format.number (rank + 1) → rank % 2 = 0

variable {format}

theorem Rounds.mono {q q' : ℚ} {rank other : Nat} (rounds : format.Rounds q rank)
    (rounds' : format.Rounds q' other) (less : q ≤ q') : rank ≤ other := by
  by_contra above
  have low := rounds.low
  have high := rounds'.high
  by_cases next : rank = other + 1
  · subst next
    rw [Nat.add_sub_cancel] at low
    -- The two floats are neighbours, and both numbers are the middle between them.
    have even := rounds.even_of_low (by rw [Nat.add_sub_cancel]; linarith)
    have even' := rounds'.even_of_high (by linarith)
    omega
  · have first : format.number other < format.number (rank - 1) :=
      format.strictMono_number (by omega)
    have second : format.number (other + 1) < format.number rank :=
      format.strictMono_number (by omega)
    linarith

theorem Rounds.unique {q : ℚ} {rank other : Nat} (rounds : format.Rounds q rank)
    (rounds' : format.Rounds q other) : rank = other :=
  Nat.le_antisymm (rounds.mono rounds' le_rfl) (rounds'.mono rounds le_rfl)

theorem Rounds.nonneg {q : ℚ} {rank : Nat} (rounds : format.Rounds q rank) : 0 ≤ q := by
  have low := rounds.low
  have first := format.number_nonneg (rank - 1)
  have second := format.number_nonneg rank
  linarith

theorem Rounds.nearest {q : ℚ} {rank : Nat} (rounds : format.Rounds q rank) (other : Nat) :
    |format.number rank - q| ≤ |format.number other - q| := by
  have low := rounds.low
  have high := rounds.high
  rcases Nat.lt_trichotomy other rank with below | rfl | above
  · have order : format.number other ≤ format.number (rank - 1) :=
      format.strictMono_number.monotone (by omega)
    have step : format.number (rank - 1) ≤ format.number rank :=
      format.strictMono_number.monotone (by omega)
    rw [abs_of_nonpos (a := format.number other - q) (by linarith), abs_le]
    constructor <;> linarith
  · exact le_rfl
  · have order : format.number (rank + 1) ≤ format.number other :=
      format.strictMono_number.monotone (by omega)
    have step : format.number rank ≤ format.number (rank + 1) :=
      format.strictMono_number.monotone (by omega)
    rw [abs_of_nonneg (a := format.number other - q) (by linarith), abs_le]
    constructor <;> linarith

variable (format)

theorem rounds_number (rank : Nat) : format.Rounds (format.number rank) rank := by
  have above : format.number rank < format.number (rank + 1) :=
    format.strictMono_number (Nat.lt_succ_self rank)
  have below : format.number (rank - 1) ≤ format.number rank :=
    format.strictMono_number.monotone (Nat.sub_le rank 1)
  refine ⟨by linarith, by linarith, ?_, fun same => absurd same (by linarith)⟩
  intro same
  by_contra odd
  have strict : format.number (rank - 1) < format.number rank :=
    format.strictMono_number (by omega)
  linarith

theorem units_eq (rank shift : Nat) (binade : rank / 2 ^ format.fractionBits - 1 = shift) :
    format.units rank = (rank - shift * 2 ^ format.fractionBits) * 2 ^ shift := by
  rw [units, binade]

theorem units_of_parts (shift significand : Nat)
    (normal : shift = 0 ∨ 2 ^ format.fractionBits ≤ significand)
    (small : significand ≤ 2 * 2 ^ format.fractionBits) :
    format.units (shift * 2 ^ format.fractionBits + significand) = significand * 2 ^ shift := by
  have positive : 0 < 2 ^ format.fractionBits := Nat.two_pow_pos _
  have split : (shift * 2 ^ format.fractionBits + significand) / 2 ^ format.fractionBits =
      shift + significand / 2 ^ format.fractionBits := by
    rw [Nat.add_comm, Nat.add_mul_div_right _ _ positive, Nat.add_comm]
  rcases Nat.lt_or_ge significand (2 ^ format.fractionBits) with below | above
  · obtain rfl : shift = 0 := by omega
    rw [format.units_eq _ 0 (by rw [split, Nat.div_eq_of_lt below])]
    simp
  · rcases Nat.lt_or_ge significand (2 * 2 ^ format.fractionBits) with inside | last
    · have one : significand / 2 ^ format.fractionBits = 1 :=
        Nat.div_eq_of_lt_le (by omega) (by omega)
      rw [format.units_eq _ shift (by rw [split, one, Nat.add_sub_cancel]), Nat.add_sub_cancel_left]
    · obtain rfl : significand = 2 * 2 ^ format.fractionBits := Nat.le_antisymm small last
      have two : 2 * 2 ^ format.fractionBits / 2 ^ format.fractionBits = 2 :=
        Nat.mul_div_cancel 2 positive
      rw [format.units_eq _ (shift + 1) (by rw [split, two]; rfl), ← Nat.add_mul, ← Nat.sub_mul,
        Nat.add_sub_add_left, Nat.pow_succ]
      ring

theorem units_infinity (proper : 0 < format.exponentBits) :
    format.units format.infinity =
      2 ^ (format.fractionBits + (2 ^ format.exponentBits - 2)) := by
  have two : 2 ≤ 2 ^ format.exponentBits := Nat.le_self_pow (by omega) 2
  have parts : format.infinity =
      (2 ^ format.exponentBits - 2) * 2 ^ format.fractionBits + 2 ^ format.fractionBits := by
    rw [infinity, ← Nat.succ_mul (2 ^ format.exponentBits - 2)]
    congr 1
    omega
  rw [parts, format.units_of_parts _ _ (.inr le_rfl) (by omega), Nat.pow_add]

theorem units_succ_of_parts (shift significand : Nat)
    (normal : shift = 0 ∨ 2 ^ format.fractionBits ≤ significand) :
    format.units (shift * 2 ^ format.fractionBits + significand) + 2 ^ shift ≤
      format.units (shift * 2 ^ format.fractionBits + significand + 1) := by
  have positive : 0 < 2 ^ format.fractionBits := Nat.two_pow_pos _
  rw [units_succ]
  apply Nat.add_le_add_left
  apply Nat.pow_le_pow_right (by decide)
  rw [Nat.add_comm, Nat.add_mul_div_right _ _ positive]
  rcases normal with none | above
  · omega
  · have one : 1 ≤ significand / 2 ^ format.fractionBits := (Nat.one_le_div_iff positive).mpr above
    omega

theorem units_pred_of_parts (shift significand : Nat) (nonzero : 0 < significand)
    (inside : shift = 0 ∨ 2 ^ format.fractionBits < significand)
    (small : significand ≤ 2 * 2 ^ format.fractionBits) :
    format.units (shift * 2 ^ format.fractionBits + significand - 1) + 2 ^ shift =
      format.units (shift * 2 ^ format.fractionBits + significand) := by
  have before : shift * 2 ^ format.fractionBits + significand - 1 =
      shift * 2 ^ format.fractionBits + (significand - 1) := by omega
  rw [before, format.units_of_parts shift (significand - 1) (by omega) (by omega),
    format.units_of_parts shift significand (by omega) small, ← Nat.succ_mul]
  congr 1
  omega

theorem number_add (rank other : Nat) :
    format.number rank + format.number other =
      (format.units rank + format.units other : Nat) / (2 ^ format.subunit : Nat) := by
  rw [number, number, ← add_div]
  push_cast
  rfl

theorem rounds_iff (numerator denominator rank : Nat) (positive : 0 < denominator) :
    format.Rounds (numerator / denominator) rank ↔
      (format.units (rank - 1) + format.units rank) * denominator ≤
          2 * numerator * 2 ^ format.subunit ∧
        2 * numerator * 2 ^ format.subunit ≤
          (format.units rank + format.units (rank + 1)) * denominator ∧
        ((format.units (rank - 1) + format.units rank) * denominator =
          2 * numerator * 2 ^ format.subunit → rank % 2 = 0) ∧
        (2 * numerator * 2 ^ format.subunit =
          (format.units rank + format.units (rank + 1)) * denominator → rank % 2 = 0) := by
  have unit : (0 : ℚ) < (2 ^ format.subunit : Nat) := Nat.cast_pos.mpr (Nat.two_pow_pos _)
  have proper : (0 : ℚ) < denominator := Nat.cast_pos.mpr positive
  have twice : 2 * ((numerator : ℚ) / denominator) = (2 * numerator : Nat) / denominator := by
    push_cast
    ring
  have low : format.number (rank - 1) + format.number rank ≤ 2 * ((numerator : ℚ) / denominator) ↔
      (format.units (rank - 1) + format.units rank) * denominator ≤
        2 * numerator * 2 ^ format.subunit := by
    rw [number_add, twice, div_le_div_iff₀ unit proper, ← Nat.cast_mul, ← Nat.cast_mul,
      Nat.cast_le]
  have high : 2 * ((numerator : ℚ) / denominator) ≤ format.number rank + format.number (rank + 1) ↔
      2 * numerator * 2 ^ format.subunit ≤
        (format.units rank + format.units (rank + 1)) * denominator := by
    rw [number_add, twice, div_le_div_iff₀ proper unit, ← Nat.cast_mul, ← Nat.cast_mul,
      Nat.cast_le]
  have lowest :
      format.number (rank - 1) + format.number rank = 2 * ((numerator : ℚ) / denominator) ↔
        (format.units (rank - 1) + format.units rank) * denominator =
          2 * numerator * 2 ^ format.subunit := by
    rw [number_add, twice, div_eq_div_iff unit.ne' proper.ne', ← Nat.cast_mul, ← Nat.cast_mul,
      Nat.cast_inj]
  have highest :
      2 * ((numerator : ℚ) / denominator) = format.number rank + format.number (rank + 1) ↔
        2 * numerator * 2 ^ format.subunit =
          (format.units rank + format.units (rank + 1)) * denominator := by
    rw [number_add, twice, div_eq_div_iff proper.ne' unit.ne', ← Nat.cast_mul, ← Nat.cast_mul,
      Nat.cast_inj]
  rw [← low, ← high, ← lowest, ← highest]
  exact ⟨fun rounds => ⟨rounds.low, rounds.high, rounds.even_of_low, rounds.even_of_high⟩,
    fun ⟨low, high, even, even'⟩ => ⟨low, high, even, even'⟩⟩

theorem low_of_parts (shift significand : Nat)
    (inside : shift = 0 ∨ 2 ^ format.fractionBits < significand) (nonzero : 0 < significand)
    (small : significand ≤ 2 * 2 ^ format.fractionBits) :
    format.units (shift * 2 ^ format.fractionBits + significand - 1) +
        format.units (shift * 2 ^ format.fractionBits + significand) + 2 ^ shift =
      2 * (significand * 2 ^ shift) := by
  have step := format.units_pred_of_parts shift significand nonzero inside small
  have here := format.units_of_parts shift significand (by omega) small
  omega

theorem lower_of_parts (numerator denominator shift significand : Nat) (positive : 0 < denominator)
    (normal : shift = 0 ∨ 2 ^ format.fractionBits * (denominator * 2 ^ shift) ≤
      numerator * 2 ^ format.subunit)
    (normalized : shift = 0 ∨ 2 ^ format.fractionBits ≤ significand)
    (fits : significand ≤ 2 * 2 ^ format.fractionBits)
    (below : 2 * (significand * (denominator * 2 ^ shift)) ≤
      2 * (numerator * 2 ^ format.subunit) + denominator * 2 ^ shift)
    (even : 2 * (significand * (denominator * 2 ^ shift)) =
      2 * (numerator * 2 ^ format.subunit) + denominator * 2 ^ shift → significand % 2 = 0) :
    (format.units (shift * 2 ^ format.fractionBits + significand - 1) +
        format.units (shift * 2 ^ format.fractionBits + significand)) * denominator ≤
          2 * numerator * 2 ^ format.subunit ∧
      ((format.units (shift * 2 ^ format.fractionBits + significand - 1) +
        format.units (shift * 2 ^ format.fractionBits + significand)) * denominator =
          2 * numerator * 2 ^ format.subunit → significand % 2 = 0) := by
  have binade : 0 < 2 ^ format.fractionBits := Nat.two_pow_pos _
  rcases Nat.eq_zero_or_pos significand with rfl | nonzero
  · obtain rfl : shift = 0 := by omega
    simp [units_zero]
  · by_cases inside : shift = 0 ∨ 2 ^ format.fractionBits < significand
    · have middle := format.low_of_parts shift significand inside nonzero fits
      have scaled := congrArg (fun units => units * denominator) middle
      exact ⟨by linarith, fun same => even (by linarith)⟩
    · -- At the start of a binade the ratio is not below the float.
      have start : significand = 2 ^ format.fractionBits := by omega
      have large := normal.resolve_left (by omega)
      have here := format.units_of_parts shift significand normalized fits
      have before := format.strictMono_units
        (show shift * 2 ^ format.fractionBits + significand - 1 <
          shift * 2 ^ format.fractionBits + significand by omega)
      have strict : (format.units (shift * 2 ^ format.fractionBits + significand - 1) +
          format.units (shift * 2 ^ format.fractionBits + significand)) * denominator <
            2 * (significand * 2 ^ shift) * denominator :=
        Nat.mul_lt_mul_of_pos_right (by omega) positive
      rw [← start] at large
      exact ⟨by linarith, fun same => absurd same (by linarith)⟩

theorem rounds_of_parts (numerator denominator shift significand : Nat)
    (precise : 0 < format.fractionBits) (positive : 0 < denominator)
    (normal : shift = 0 ∨ 2 ^ format.fractionBits * (denominator * 2 ^ shift) ≤
      numerator * 2 ^ format.subunit)
    (small : numerator * 2 ^ format.subunit <
      2 * 2 ^ format.fractionBits * (denominator * 2 ^ shift))
    (rounded : significand =
      divRoundEven (numerator * 2 ^ format.subunit) (denominator * 2 ^ shift)) :
    format.Rounds (numerator / denominator)
      (shift * 2 ^ format.fractionBits + significand) := by
  have unit : 0 < denominator * 2 ^ shift := Nat.mul_pos positive (Nat.two_pow_pos shift)
  obtain ⟨below, above, evenBelow, evenAbove⟩ :=
    divRoundEven_spec (numerator * 2 ^ format.subunit) (denominator * 2 ^ shift) unit
  rw [← rounded] at below above evenBelow evenAbove
  have fits : significand ≤ 2 * 2 ^ format.fractionBits := by
    have scaled : 2 * significand * (denominator * 2 ^ shift) <
        (4 * 2 ^ format.fractionBits + 1) * (denominator * 2 ^ shift) := by
      linarith
    have least := Nat.lt_of_mul_lt_mul_right scaled
    omega
  have normalized : shift = 0 ∨ 2 ^ format.fractionBits ≤ significand := by
    refine normal.imp_right fun large => ?_
    have scaled : 2 * 2 ^ format.fractionBits * (denominator * 2 ^ shift) ≤
        (2 * significand + 1) * (denominator * 2 ^ shift) := by
      linarith
    have most := Nat.le_of_mul_le_mul_right scaled unit
    omega
  -- Ties go to the even rank, and a rank is even exactly if its significand is.
  have parity : (shift * 2 ^ format.fractionBits + significand) % 2 = significand % 2 := by
    have even : 2 ^ format.fractionBits % 2 = 0 := Nat.two_pow_mod_two_eq_zero.mpr precise
    rw [Nat.add_mod, Nat.mul_mod, even, Nat.mul_zero, Nat.zero_mod, Nat.zero_add, Nat.mod_mod]
  have here := format.units_of_parts shift significand normalized fits
  have next := format.units_succ_of_parts shift significand normalized
  have upper : (2 * significand + 1) * (denominator * 2 ^ shift) ≤
      (format.units (shift * 2 ^ format.fractionBits + significand) +
        format.units (shift * 2 ^ format.fractionBits + significand + 1)) * denominator := by
    calc
      _ = (significand * 2 ^ shift + (significand * 2 ^ shift + 2 ^ shift)) * denominator := by ring
      _ ≤ _ := Nat.mul_le_mul_right _ (by omega)
  obtain ⟨lower, evenLower⟩ := format.lower_of_parts numerator denominator shift significand
    positive normal normalized fits below evenBelow
  rw [format.rounds_iff _ _ _ positive, parity]
  exact ⟨lower, by linarith, evenLower, fun same => evenAbove (by linarith)⟩

/-- The float that is computed is the one that a ratio rounds to. -/
theorem rounds_nearest (numerator denominator : Nat) (precise : 0 < format.fractionBits)
    (positive : 0 < denominator) :
    format.Rounds (numerator / denominator) (format.nearest numerator denominator) := by
  unfold nearest
  dsimp only
  generalize levels : (numerator * 2 ^ format.subunit / denominator).log2 = log
  generalize shifted : log - format.fractionBits = shift
  have above : numerator * 2 ^ format.subunit / denominator < 2 ^ (log + 1) :=
    levels ▸ Nat.lt_log2_self
  have most : 2 ^ (log + 1) ≤ 2 ^ (1 + format.fractionBits + shift) :=
    Nat.pow_le_pow_right (by decide) (by omega)
  apply format.rounds_of_parts _ _ _ _ precise positive _ _ rfl
  · by_cases none : shift = 0
    · exact .inl none
    · have nonzero : numerator * 2 ^ format.subunit / denominator ≠ 0 := by
        intro zero
        rw [zero, Nat.log2_zero] at levels
        omega
      have below := Nat.log2_self_le nonzero
      rw [levels, Nat.le_div_iff_mul_le positive] at below
      have binade : log = format.fractionBits + shift := by omega
      rw [binade, Nat.pow_add] at below
      exact .inr (by linarith)
  · rw [Nat.div_lt_iff_lt_mul positive] at above
    calc
      numerator * 2 ^ format.subunit < 2 ^ (log + 1) * denominator := above
      _ ≤ 2 ^ (1 + format.fractionBits + shift) * denominator := Nat.mul_le_mul_right _ most
      _ = 2 * 2 ^ format.fractionBits * (denominator * 2 ^ shift) := by
        rw [Nat.pow_add, Nat.pow_add]
        ring

end FloatFormat
end QueryAlgebra
