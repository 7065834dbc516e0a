import QueryAlgebra.Floating.Shortest
import QueryAlgebra.Proofs.Floating.Nearest

/-!
The shortest decimal number of a float lies among the numbers that round to the float. No number
rounds to two floats, so the shortest decimal number tells which float it belongs to.
-/

namespace QueryAlgebra

def Scientific.value (s : Scientific) : ℚ := s.numerator / s.denominator

theorem Scientific.denominator_pos (s : Scientific) : 0 < s.denominator :=
  Nat.pow_pos (by decide)

namespace RoundingInterval

theorem contains_nearer (i : RoundingInterval) (tie : Tie) (lower upper : Scientific)
    (lowerInside : i.contains lower = true) (upperInside : i.contains upper = true) :
    i.contains (i.nearer tie lower upper) = true := by
  unfold nearer
  cases tie <;> simp only <;> repeat' split
  all_goals assumption

theorem contains_of_onGrid? (i : RoundingInterval) (tie : Tie) (exponent : Int) (s : Scientific)
    (found : i.onGrid? tie exponent = some s) : i.contains s = true := by
  unfold onGrid? at found
  dsimp only at found
  split at found
  · rename_i lowerInside upperInside
    cases found
    exact contains_nearer i tie _ _ lowerInside upperInside
  · rename_i lowerInside _
    cases found
    exact lowerInside
  · rename_i _ upperInside
    cases found
    exact upperInside
  · cases found

end RoundingInterval

namespace FloatFormat

variable (format : FloatFormat)

/-- The interval of a rank holds the numbers that round to it. -/
theorem contains_iff_rounds (rank : Nat) (s : Scientific) :
    (format.interval rank).contains s = true ↔ format.Rounds s.value rank := by
  have point : s.numerator * 2 ^ (format.subunit + 1) =
      2 * s.numerator * 2 ^ format.subunit := by
    rw [Nat.pow_succ]
    ring
  rw [Scientific.value, format.rounds_iff _ _ rank s.denominator_pos]
  simp only [RoundingInterval.contains, interval, point, decide_eq_true_eq]
  split
  · simp only [Bool.and_eq_true, decide_eq_true_eq]
    omega
  · simp only [Bool.and_eq_true, decide_eq_true_eq]
    omega

theorem contains_exact (rank : Nat) (positive : rank ≠ 0) :
    (format.interval rank).contains (format.exact rank) = true := by
  have below : format.units (rank - 1) < format.units rank :=
    format.strictMono_units (by omega)
  have above : format.units rank < format.units (rank + 1) :=
    format.strictMono_units (by omega)
  have stretch : 0 < (format.exact rank).denominator := (format.exact rank).denominator_pos
  have point : (format.exact rank).numerator * (format.interval rank).denominator =
      (format.interval rank).middle * (format.exact rank).denominator := by
    have ten : 10 ^ format.subunit = 5 ^ format.subunit * 2 ^ format.subunit := by
      rw [← Nat.mul_pow]
    have places : (format.exact rank).denominator = 10 ^ format.subunit := by
      simp [exact, Scientific.denominator]
    have whole : (format.exact rank).numerator = format.units rank * 5 ^ format.subunit := by
      simp [exact, Scientific.numerator]
    rw [places, whole, ten, interval, Nat.pow_succ]
    ring
  have low : (format.interval rank).low * (format.exact rank).denominator <
      (format.interval rank).middle * (format.exact rank).denominator := by
    apply Nat.mul_lt_mul_of_pos_right _ stretch
    simp only [interval]
    omega
  have high : (format.interval rank).middle * (format.exact rank).denominator <
      (format.interval rank).high * (format.exact rank).denominator := by
    apply Nat.mul_lt_mul_of_pos_right _ stretch
    simp only [interval]
    omega
  unfold RoundingInterval.contains
  rw [point]
  split
  · simp [Nat.le_of_lt low, Nat.le_of_lt high]
  · simp [low, high]

theorem contains_shortest (tie : Tie) (rank : Nat) :
    (format.interval rank).contains (format.shortest tie rank) = true := by
  by_cases zero : rank = 0
  · subst zero
    simp [shortest, RoundingInterval.contains, interval, units_zero, Scientific.numerator]
  · rw [shortest, if_neg zero]
    dsimp only
    generalize grids : List.range _ = exponents
    cases found : exponents.findSome? fun finer : Nat =>
        (format.interval rank).onGrid? tie ((format.interval rank).topExponent - finer) with
    | none => exact format.contains_exact rank zero
    | some s =>
        obtain ⟨finer, -, grid⟩ := List.exists_of_findSome?_eq_some found
        exact RoundingInterval.contains_of_onGrid? _ tie _ s grid

theorem rounds_shortest (tie : Tie) (rank : Nat) :
    format.Rounds (format.shortest tie rank).value rank :=
  (format.contains_iff_rounds rank _).mp (format.contains_shortest tie rank)

theorem rank_eq_of_shortest (tie tie' : Tie) (rank other : Nat)
    (value : (format.shortest tie rank).value = (format.shortest tie' other).value) :
    rank = other := by
  have left := format.rounds_shortest tie rank
  rw [value] at left
  exact left.unique (format.rounds_shortest tie' other)

end FloatFormat
end QueryAlgebra
