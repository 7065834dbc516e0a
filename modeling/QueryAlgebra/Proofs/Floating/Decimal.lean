import QueryAlgebra.Proofs.Floating.Shortest

/-!
Decimal numbers rounded to floats. The size of a decimal number is judged first by its exponent,
which never changes the float it rounds to.
-/

namespace QueryAlgebra

namespace FloatFormat

variable (format : FloatFormat)

theorem number_infinity_le (proper : 0 < format.exponentBits) :
    format.number format.infinity ≤ 2 ^ (2 ^ format.exponentBits) := by
  have two : 2 ≤ 2 ^ format.exponentBits := Nat.le_self_pow (by omega) 2
  rw [number, format.units_infinity proper, Nat.cast_pow, Nat.cast_ofNat,
    div_le_iff₀ (pow_pos two_pos _), ← pow_add]
  apply pow_le_pow_right₀ one_le_two
  unfold subunit
  omega

theorem Rounds.eq_zero {format : FloatFormat} {q : ℚ} {rank : Nat} (rounds : format.Rounds q rank)
    (small : 2 * q < format.number 1) : rank = 0 := by
  by_contra positive
  have least : format.number 1 ≤ format.number rank :=
    format.strictMono_number.monotone (by omega)
  have low := rounds.low
  have before := format.number_nonneg (rank - 1)
  linarith

theorem number_one : format.number 1 = 1 / 2 ^ format.subunit := by
  have first := format.units_succ 0
  rw [units_zero] at first
  simp [number, first]

theorem not_exceeds_of_rounds (proper : 0 < format.exponentBits) (s : Scientific) (rank : Nat)
    (rounds : format.Rounds s.value rank) (finite : rank < format.infinity) :
    format.exceeds s = false := by
  by_contra large
  simp only [exceeds, Bool.not_eq_false, Bool.and_eq_true, decide_eq_true_eq] at large
  obtain ⟨positive, exponent⟩ := large
  have exponents : 2 ^ format.exponentBits ≤ s.exponent.toNat := by
    have whole := Int.toNat_le_toNat exponent
    rwa [Int.toNat_pow_of_nonneg (by decide)] at whole
  have some : 0 < 2 ^ format.exponentBits := Nat.two_pow_pos _
  have whole : (-s.exponent).toNat = 0 := by omega
  have power : 2 ^ 2 ^ format.exponentBits < s.numerator := by
    calc
      2 ^ 2 ^ format.exponentBits < 10 ^ 2 ^ format.exponentBits :=
        Nat.pow_lt_pow_left (by decide) (Nat.two_pow_pos _).ne'
      _ ≤ 10 ^ s.exponent.toNat := Nat.pow_le_pow_right (by decide) exponents
      _ ≤ s.numerator := Nat.le_mul_of_pos_left _ positive
  have value : (2 ^ 2 ^ format.exponentBits : ℚ) < s.value := by
    rw [Scientific.value, Scientific.denominator, whole, Nat.pow_zero, Nat.cast_one, div_one]
    exact_mod_cast power
  have bound := format.number_infinity_le proper
  have high := rounds.high
  have here : format.number rank ≤ format.number format.infinity :=
    format.strictMono_number.monotone (by omega)
  have next : format.number (rank + 1) ≤ format.number format.infinity :=
    format.strictMono_number.monotone (by omega)
  linarith

theorem value_lt_of_vanishes (s : Scientific) (vanishes : format.vanishes s = true) :
    2 * s.value < format.number 1 := by
  rw [number_one, lt_div_iff₀ (pow_pos two_pos _)]
  by_cases zero : s.digits = 0
  · simp [Scientific.value, Scientific.numerator, zero]
  · have small : (s.digits.log2 + format.subunit + 2 : Int) ≤ -3 * s.exponent := by
      simpa [FloatFormat.vanishes, zero] using vanishes
    have places : s.exponent.toNat = 0 := by omega
    have digits : s.digits < 2 ^ (s.digits.log2 + 1) := Nat.lt_log2_self
    have tens : 2 ^ (s.digits.log2 + format.subunit + 2) ≤ 10 ^ (-s.exponent).toNat := by
      calc
        2 ^ (s.digits.log2 + format.subunit + 2) ≤ 2 ^ (3 * (-s.exponent).toNat) :=
          Nat.pow_le_pow_right (by decide) (by omega)
        _ = 8 ^ (-s.exponent).toNat := by rw [Nat.pow_mul]
        _ ≤ 10 ^ (-s.exponent).toNat := Nat.pow_le_pow_left (by decide) _
    have scaled : 2 * s.digits * 2 ^ format.subunit < 10 ^ (-s.exponent).toNat := by
      calc
        2 * s.digits * 2 ^ format.subunit < 2 * 2 ^ (s.digits.log2 + 1) * 2 ^ format.subunit :=
          Nat.mul_lt_mul_of_pos_right (by omega) (Nat.two_pow_pos _)
        _ = 2 ^ (s.digits.log2 + format.subunit + 2) := by
          rw [Nat.pow_add, Nat.pow_add, Nat.pow_add]
          ring
        _ ≤ 10 ^ (-s.exponent).toNat := tens
    have positive : (0 : ℚ) < s.denominator := Nat.cast_pos.mpr s.denominator_pos
    rw [Scientific.value, mul_div_assoc', div_mul_eq_mul_div, div_lt_one positive,
      Scientific.numerator, places, Nat.pow_zero, Nat.mul_one, Scientific.denominator]
    exact_mod_cast scaled

theorem rankOf?_of_rounds (precise : 0 < format.fractionBits) (proper : 0 < format.exponentBits)
    (s : Scientific) (rank : Nat) (rounds : format.Rounds s.value rank)
    (finite : rank < format.infinity) : format.rankOf? s = some rank := by
  have read : (if format.vanishes s then 0 else format.nearest s.numerator s.denominator) =
      rank := by
    split
    · rename_i vanishes
      exact (rounds.eq_zero (format.value_lt_of_vanishes s vanishes)).symm
    · exact (format.rounds_nearest _ _ precise s.denominator_pos).unique rounds
  rw [rankOf?, format.not_exceeds_of_rounds proper s rank rounds finite,
    if_neg Bool.false_ne_true]
  dsimp only
  rw [read, if_pos finite]

end FloatFormat

namespace Floating

variable {format : FloatFormat}

theorem ofRank_magnitude (x : Floating format) (finite : x.isFinite) :
    ofRank x.negative x.magnitude = x := by
  have below : x.magnitude.val < format.infinity := of_decide_eq_true finite
  rw [ext_iff]
  exact ⟨rfl, Nat.min_eq_left below.le⟩

theorem ofScientific?_of_rounds (precise : 0 < format.fractionBits)
    (proper : 0 < format.exponentBits) (x : Floating format) (finite : x.isFinite) (s : Scientific)
    (rounds : format.Rounds s.value x.magnitude) : ofScientific? x.negative s = some x := by
  rw [ofScientific?, format.rankOf?_of_rounds precise proper s x.magnitude rounds
    (of_decide_eq_true finite), Option.map_some, x.ofRank_magnitude finite]

end Floating
end QueryAlgebra
