import QueryAlgebra.Proofs.Floating.Decimal
import QueryAlgebra.Proofs.Floating.Narrowing
import QueryAlgebra.Proofs.Json.Floats

/-!
32-bit floats read from their JSON texts. The text is read with the precision of 64 bits, and the
result is narrowed. Any reader with at most two errors that takes a middle as it is gives the float
back, except for a single one. The reader of JSON texts is right there too.
-/

namespace QueryAlgebra

namespace FloatFormat

theorem lt_infinity_of_rounds (wide rank : Nat) (finite : rank < binary32.infinity)
    (rounds : binary32.Rounds (binary64.number wide) rank) : wide < binary64.infinity := by
  by_contra large
  have bound := binary32.number_infinity_le (by decide)
  have here : binary32.number rank ≤ binary32.number binary32.infinity :=
    binary32.strictMono_number.monotone (by omega)
  have next : binary32.number (rank + 1) ≤ binary32.number binary32.infinity :=
    binary32.strictMono_number.monotone (by omega)
  have above : binary64.number binary64.infinity ≤ binary64.number wide :=
    binary64.strictMono_number.monotone (by omega)
  have high := rounds.high
  have apart : (2 : ℚ) ^ 2 ^ binary32.exponentBits < 2 ^ 1024 :=
    pow_lt_pow_right₀ one_lt_two (by decide)
  rw [number_infinity] at above
  generalize (2 : ℚ) ^ 1024 = most at *
  linarith

end FloatFormat

namespace Floating

open FloatFormat (binary32 binary64 singular)

theorem convert_ofRank (x : Binary32) (wide : Nat) (below : wide < binary64.infinity)
    (finite : x.isFinite) (rounds : binary32.Rounds (binary64.number wide) x.magnitude) :
    (ofRank x.negative wide : Binary64).convert .binary32 = x := by
  have rank : (ofRank x.negative wide : Binary64).magnitude.val = wide := Nat.min_eq_left below.le
  have nearest := binary32.rounds_nearest (binary64.units wide) (2 ^ binary64.subunit) (by decide)
    (Nat.two_pow_pos _)
  rw [Nat.cast_pow, Nat.cast_ofNat] at nearest
  rw [convert, rank, nearest.unique rounds]
  exact x.ofRank_magnitude finite

theorem exponent_shortest_lt_256 (tie : Tie) (rank : Nat) (finite : rank < binary32.infinity) :
    (binary32.shortest tie rank).exponent < 256 := by
  by_cases zero : rank = 0
  · simp [FloatFormat.shortest, zero]
  · have small := binary32.not_exceeds_of_rounds (by decide) _ rank
      (binary32.rounds_shortest tie rank) finite
    have digits := binary32.digits_shortest_ne_zero tie rank zero
    have bits : binary32.exponentBits = 8 := rfl
    simp only [FloatFormat.exceeds, bits, Bool.and_eq_false_iff, decide_eq_false_iff_not] at small
    omega

theorem literal_bounds (x : Binary32) (finite : x.isFinite) :
    x.literal.magnitude.digits ≤ 2 ^ 53 ∧ -255 ≤ x.literal.magnitude.exponent ∧
      x.literal.magnitude.exponent ≤ 308 := by
  have digits := binary32.digits_shortest_lt .even x.magnitude
  have least := binary32.neg_subunit_le_exponent_shortest .even x.magnitude
  have greatest := exponent_shortest_lt_256 .even x.magnitude (of_decide_eq_true finite)
  have window : binary32.jsonWindow = ⟨-6, 12⟩ := by decide
  have bits : binary32.fractionBits = 23 := rfl
  have subunit : binary32.subunit = 149 := rfl
  rw [bits] at digits
  rw [subunit] at least
  rw [literal, window]
  generalize binary32.shortest .even x.magnitude = s at *
  split
  · rename_i inside
    dsimp only at inside
    rw [NumberLiteral.magnitude_positional]
    split
    · rename_i whole
      have size : s.digits * 10 ^ s.exponent.toNat < 10 ^ 13 :=
        (s.lt_pow_leading whole).trans_le (Nat.pow_le_pow_right (by decide) (by omega))
      dsimp only
      rw [Nat.mul_assoc]
      omega
    · omega
  · rw [NumberLiteral.magnitude_scientific]
    omega

theorem digits_literal_ne_zero (x : Binary32) (nonzero : x.magnitude.val ≠ 0) :
    x.literal.magnitude.digits ≠ 0 := by
  intro none
  have rounds := x.rounds_literal
  rw [Scientific.value_eq_zpow, none, Nat.cast_zero, zero_mul, ← binary32.number_zero] at rounds
  exact nonzero (rounds.unique (binary32.rounds_number 0))

theorem literal_zero (x : Binary32) (zero : x.magnitude.val = 0) :
    x.literal.magnitude.digits = 0 := by
  have value := x.value_literal
  have none : (binary32.shortest .even 0).value = 0 := by
    simp [FloatFormat.shortest, Scientific.value, Scientific.numerator]
  rw [zero, none, Scientific.value_eq_zpow] at value
  exact_mod_cast (mul_eq_zero.mp value).resolve_right (zpow_ne_zero _ (by norm_num))

theorem rounds_of_close (x : Binary32) (finite : x.isFinite) (wide : Nat)
    (nonzero : x.magnitude.val ≠ 0) (regular : x.magnitude.val ≠ singular)
    (close : binary64.Close 2 x.literal.magnitude.value (binary64.number wide))
    (exact : ∀ other, x.literal.magnitude.value = binary32.middle other →
      binary64.Rounds x.literal.magnitude.value wide) :
    binary32.Rounds (binary64.number wide) x.magnitude := by
  rw [x.value_literal] at close exact
  apply FloatFormat.rounds_of_close_shortest .even _ _ nonzero (of_decide_eq_true finite)
    (binary64.number_nonneg wide) close _ regular
  intro other same
  obtain ⟨middle, number⟩ := FloatFormat.exists_number_eq_middle other
  have rounds := exact other same
  rw [same, ← number] at rounds
  rw [rounds.unique (binary64.rounds_number middle), number, same]

/-! The reader of JSON texts. -/

theorem nearest_singular : ∀ negative,
    binary32.nearest
      (binary64.units (NumberLiteral.scaledRank
        (literal (ofRank negative singular : Binary32)).magnitude))
      (2 ^ binary64.subunit) = singular := by
  decide +kernel

theorem rounds_scaledRank (x : Binary32) (finite : x.isFinite) :
    binary32.Rounds (binary64.number (NumberLiteral.scaledRank x.literal.magnitude))
      x.magnitude := by
  by_cases zero : x.magnitude.val = 0
  · have read : NumberLiteral.scaledRank x.literal.magnitude = 0 := by
      simp only [NumberLiteral.scaledRank, if_pos (x.literal_zero zero)]
    rw [read, zero, binary64.number_zero, ← binary32.number_zero]
    exact binary32.rounds_number 0
  · obtain ⟨short, least, greatest⟩ := x.literal_bounds finite
    have digits := x.digits_literal_ne_zero zero
    by_cases regular : x.magnitude.val = singular
    · have nearest := binary32.rounds_nearest
        (binary64.units (NumberLiteral.scaledRank x.literal.magnitude)) (2 ^ binary64.subunit)
        (by decide) (Nat.two_pow_pos _)
      have same := nearest_singular x.negative
      rw [← regular, x.ofRank_magnitude finite] at same
      rw [same, Nat.cast_pow, Nat.cast_ofNat] at nearest
      exact nearest
    · apply x.rounds_of_close finite _ zero regular
      · exact NumberLiteral.close_scaledRank _ digits short least greatest
      · intro other same
        obtain ⟨low, high⟩ := FloatFormat.exponent_of_eq_middle _ other digits
          (short.trans_lt (by decide)) same
        exact NumberLiteral.rounds_scaledRank _ short low high

theorem number?_literal (x : Binary32) (finite : x.isFinite) :
    ∃ (wide : Binary64) (wideFinite : wide.isFinite),
      x.literal.number? = some (.float wide wideFinite) ∧ wide.convert .binary32 = x := by
  have short := (x.literal_bounds finite).1
  have gathered := NumberLiteral.gathered_eq_magnitude x.literal (short.trans_lt (by decide))
  have rounds := x.rounds_scaledRank finite
  rw [← gathered] at rounds
  have below := FloatFormat.lt_infinity_of_rounds _ _ (of_decide_eq_true finite) rounds
  refine ⟨_, _, NumberLiteral.number?_of_lt x.literal x.integer?_literal below, ?_⟩
  rw [x.negative_literal]
  exact x.convert_ofRank _ below finite rounds

/-! Reading with a single rounding to the wide format. -/

theorem close_nearest (x : Binary32) (wide : Nat) (nonzero : x.magnitude.val ≠ 0)
    (rounds : binary64.Rounds x.literal.magnitude.value wide) :
    binary64.Close 1 x.literal.magnitude.value (binary64.number wide) := by
  apply rounds.close
  have least : binary32.number 1 ≤ 2 * x.literal.magnitude.value := by
    by_contra small
    exact nonzero (x.rounds_literal.eq_zero (not_le.mp small))
  have first : binary32.number 1 = 1 / 2 ^ 149 := binary32.number_one
  have power : (2 : ℚ) ^ 52 * 2 ^ 150 ≤ 2 ^ 1074 := by
    rw [← pow_add]
    exact pow_le_pow_right₀ one_le_two (by decide)
  rw [first] at least
  rw [NumberLiteral.number_normal, div_le_iff₀ (by positivity)]
  calc
    (2 : ℚ) ^ 52 = 1 / 2 ^ 150 * (2 ^ 52 * 2 ^ 150) := by ring
    _ ≤ x.literal.magnitude.value * 2 ^ 1074 :=
      mul_le_mul (by linarith) power (by positivity) x.rounds_literal.nonneg

/-- The wide float nearest to the literal of a 32-bit float narrows to it, unless the float is the
exception. -/
theorem exists_nearest (x : Binary32) (finite : x.isFinite) (regular : x.magnitude.val ≠ singular) :
    ∃ wide : Binary64, ofScientific? x.negative x.literal.magnitude = some wide ∧
      wide.convert .binary32 = x := by
  have nearest : binary64.Rounds x.literal.magnitude.value
      (binary64.nearest x.literal.magnitude.numerator x.literal.magnitude.denominator) :=
    binary64.rounds_nearest _ _ (by decide) x.literal.magnitude.denominator_pos
  generalize binary64.nearest x.literal.magnitude.numerator x.literal.magnitude.denominator = wide
    at nearest
  have narrow : binary32.Rounds (binary64.number wide) x.magnitude := by
    by_cases zero : x.magnitude.val = 0
    · rw [Scientific.value_eq_zpow, x.literal_zero zero, Nat.cast_zero, zero_mul,
        ← binary64.number_zero] at nearest
      have first : wide = 0 := nearest.unique (binary64.rounds_number 0)
      rw [first, zero, binary64.number_zero, ← binary32.number_zero]
      exact binary32.rounds_number 0
    · have close := x.close_nearest wide zero nearest
      exact x.rounds_of_close finite wide zero regular
        (close.succ (binary64.number_nonneg wide)) fun _ _ => nearest
  have below := FloatFormat.lt_infinity_of_rounds _ _ (of_decide_eq_true finite) narrow
  refine ⟨ofRank x.negative wide, ?_, x.convert_ofRank wide below finite narrow⟩
  rw [ofScientific?, binary64.rankOf?_of_rounds (by decide) (by decide) _ wide nearest below]
  rfl

end Floating
end QueryAlgebra
