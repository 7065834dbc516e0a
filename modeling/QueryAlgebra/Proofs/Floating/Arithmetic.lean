import QueryAlgebra.Floating.Arithmetic
import QueryAlgebra.Proofs.Floating.Precision

/-!
Products, quotients and whole numbers as floats: each is the exact result rounded. A whole number is
exact if its significand is short enough, and close to its float in any case.
-/

namespace QueryAlgebra.FloatFormat

variable (format : FloatFormat)

theorem rounds_ofNat (precise : 0 < format.fractionBits) (n : Nat) :
    format.Rounds n (format.ofNat n) := by
  have rounds := format.rounds_nearest n 1 precise Nat.one_pos
  rwa [Nat.cast_one, div_one] at rounds

theorem rounds_product (precise : 0 < format.fractionBits) (a b : Nat) :
    format.Rounds (format.number a * format.number b) (format.product a b) := by
  have exact : format.number a * format.number b =
      (format.units a * format.units b : Nat) / (2 ^ (2 * format.subunit) : Nat) := by
    rw [number, number, div_mul_div_comm, ← pow_add, ← two_mul]
    push_cast
    rfl
  rw [exact]
  exact format.rounds_nearest _ _ precise (Nat.two_pow_pos _)

theorem rounds_quotient (precise : 0 < format.fractionBits) (a b : Nat) (positive : b ≠ 0) :
    format.Rounds (format.number a / format.number b) (format.quotient a b) := by
  have divisor : 0 < format.units b := by
    have above := format.strictMono_units (Nat.pos_of_ne_zero positive)
    rwa [units_zero] at above
  have exact : format.number a / format.number b = format.units a / format.units b := by
    rw [number, number, div_div_div_cancel_right₀ (pow_ne_zero _ two_ne_zero)]
  rw [exact]
  exact format.rounds_nearest _ _ precise divisor

theorem exists_units_eq (shift significand : Nat)
    (small : significand ≤ 2 * 2 ^ format.fractionBits) :
    ∃ rank, format.units rank = significand * 2 ^ shift := by
  induction shift generalizing significand with
  | zero => exact ⟨_, format.units_of_parts 0 significand (.inl rfl) small⟩
  | succ shift ih =>
      by_cases normal : 2 ^ format.fractionBits ≤ significand
      · exact ⟨_, format.units_of_parts (shift + 1) significand (.inr normal) small⟩
      · obtain ⟨rank, same⟩ := ih (2 * significand) (by omega)
        refine ⟨rank, same.trans ?_⟩
        rw [Nat.pow_succ]
        ring

theorem number_ofNat (precise : 0 < format.fractionBits) (significand shift : Nat)
    (small : significand ≤ 2 * 2 ^ format.fractionBits) :
    format.number (format.ofNat (significand * 2 ^ shift)) = significand * 2 ^ shift := by
  obtain ⟨rank, same⟩ := format.exists_units_eq (shift + format.subunit) significand small
  have exact : format.number rank = (significand * 2 ^ shift : Nat) := by
    rw [number, same, Nat.pow_add, div_eq_iff (pow_ne_zero _ two_ne_zero)]
    push_cast
    ring
  have rounds := format.rounds_number rank
  rw [exact] at rounds
  rw [(format.rounds_ofNat precise _).unique rounds, exact]
  push_cast
  rfl

theorem number_normal_le_one (small : format.fractionBits ≤ format.subunit) :
    format.number (2 ^ format.fractionBits) ≤ 1 := by
  have units := format.units_of_parts 0 (2 ^ format.fractionBits) (.inl rfl) (by omega)
  rw [Nat.zero_mul, Nat.zero_add, Nat.pow_zero, Nat.mul_one] at units
  rw [number, units, Nat.cast_pow, Nat.cast_ofNat, div_le_one (by positivity)]
  exact pow_le_pow_right₀ one_le_two small

theorem close_ofNat (precise : 0 < format.fractionBits)
    (small : format.fractionBits ≤ format.subunit) (n : Nat) (positive : 0 < n) :
    format.Close 1 n (format.number (format.ofNat n)) :=
  (format.rounds_ofNat precise n).close <|
    (format.number_normal_le_one small).trans (Nat.one_le_cast.mpr positive)

theorem number_ofNat_pos (precise : 0 < format.fractionBits)
    (small : format.fractionBits ≤ format.subunit) (n : Nat) (positive : 0 < n) :
    0 < format.number (format.ofNat n) := by
  have below := (format.close_ofNat precise small n positive).below
  have size : (0 : ℚ) < n := Nat.cast_pos.mpr positive
  have slack : 0 < format.slack ^ 1 := by
    rw [pow_one]
    linarith [format.one_lt_slack]
  exact pos_of_mul_pos_right (size.trans_le below) slack.le

theorem ofNat_ne_zero (precise : 0 < format.fractionBits)
    (small : format.fractionBits ≤ format.subunit) (n : Nat) (positive : 0 < n) :
    format.ofNat n ≠ 0 := by
  intro zero
  have number := format.number_ofNat_pos precise small n positive
  rw [zero, number_zero] at number
  exact lt_irrefl 0 number

end QueryAlgebra.FloatFormat
