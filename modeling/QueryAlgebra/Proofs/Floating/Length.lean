import QueryAlgebra.Proofs.Floating.Precision
import QueryAlgebra.Proofs.Floating.Shortest
import QueryAlgebra.Proofs.Text.Numeral

/-!
How long the shortest decimal number of a float is, and what a tie does to it. A grid with steps of
at most half the distance to the next float has a point in the interval, so the grid that is found
is nearly that coarse, which leaves few digits. The two ways to resolve a tie find the same grid,
and differ only where the float is the middle of two of its points.
-/

namespace QueryAlgebra

namespace Scientific

theorem value_of_nonneg (s : Scientific) (whole : 0 ≤ s.exponent) :
    s.value = s.digits * (10 ^ s.exponent.toNat : Nat) := by
  have none : (-s.exponent).toNat = 0 := by omega
  rw [value, denominator, none, Nat.pow_zero, Nat.cast_one, div_one, numerator, Nat.cast_mul]

theorem value_of_nonpos (s : Scientific) (small : s.exponent ≤ 0) :
    s.value = s.digits / (10 ^ (-s.exponent).toNat : Nat) := by
  have none : s.exponent.toNat = 0 := by omega
  rw [value, numerator, none, Nat.pow_zero, Nat.mul_one, denominator]

theorem value_eq_zpow (s : Scientific) : s.value = s.digits * 10 ^ s.exponent := by
  rcases Int.le_total 0 s.exponent with whole | small
  · rw [s.value_of_nonneg whole, Nat.cast_pow, Nat.cast_ofNat, ← zpow_natCast,
      Int.toNat_of_nonneg whole]
  · rw [s.value_of_nonpos small, Nat.cast_pow, Nat.cast_ofNat, div_eq_mul_inv, ← zpow_natCast,
      ← zpow_neg, Int.toNat_of_nonneg (by omega), neg_neg]

end Scientific

namespace RoundingInterval

theorem exponent_of_onGrid? (i : RoundingInterval) (tie : Tie) (exponent : Int) (s : Scientific)
    (found : i.onGrid? tie exponent = some s) : s.exponent = exponent := by
  unfold onGrid? nearer at found
  dsimp only at found
  grind

end RoundingInterval

namespace FloatFormat

variable (format : FloatFormat)

def lower (rank : Nat) (exponent : Int) : Scientific :=
  ⟨(format.interval rank).middle * 10 ^ (-exponent).toNat /
    (10 ^ exponent.toNat * (format.interval rank).denominator), exponent⟩

def upper (rank : Nat) (exponent : Int) : Scientific :=
  ⟨(format.lower rank exponent).digits + 1, exponent⟩

theorem onGrid?_eq (tie : Tie) (rank : Nat) (exponent : Int) :
    (format.interval rank).onGrid? tie exponent =
      match (format.interval rank).contains (format.lower rank exponent),
        (format.interval rank).contains (format.upper rank exponent) with
      | true, true => some ((format.interval rank).nearer tie (format.lower rank exponent)
          (format.upper rank exponent))
      | true, false => some (format.lower rank exponent)
      | false, true => some (format.upper rank exponent)
      | false, false => none :=
  rfl

theorem value_le_number_iff (s : Scientific) (rank : Nat) :
    s.value ≤ format.number rank ↔
      s.numerator * 2 ^ format.subunit ≤ format.units rank * s.denominator := by
  have places : (0 : ℚ) < s.denominator := Nat.cast_pos.mpr s.denominator_pos
  have unit : (0 : ℚ) < 2 ^ format.subunit := by positivity
  rw [Scientific.value, number, div_le_div_iff₀ places unit]
  exact_mod_cast Iff.rfl

theorem lower_le (rank : Nat) (exponent : Int) :
    (format.lower rank exponent).value ≤ format.number rank := by
  have floor := Nat.div_mul_le_self ((format.interval rank).middle * 10 ^ (-exponent).toNat)
    (10 ^ exponent.toNat * (format.interval rank).denominator)
  rw [value_le_number_iff]
  simp only [lower, interval, Scientific.numerator, Scientific.denominator] at floor ⊢
  rw [Nat.pow_succ] at floor ⊢
  linarith

theorem lt_upper (rank : Nat) (exponent : Int) :
    format.number rank < (format.upper rank exponent).value := by
  have positive : 0 < 10 ^ exponent.toNat * (format.interval rank).denominator :=
    Nat.mul_pos (Nat.pow_pos (by decide)) (Nat.two_pow_pos _)
  have ceiling := Nat.lt_div_mul_add (a := (format.interval rank).middle * 10 ^ (-exponent).toNat)
    positive
  rw [← not_le, value_le_number_iff, not_le]
  simp only [upper, lower, interval, Scientific.numerator, Scientific.denominator] at ceiling ⊢
  rw [Nat.pow_succ] at ceiling ⊢
  linarith

theorem value_upper (rank : Nat) (exponent : Int) :
    (format.upper rank exponent).value = (format.lower rank exponent).value + 10 ^ exponent := by
  rw [Scientific.value_eq_zpow, Scientific.value_eq_zpow, upper, lower]
  push_cast
  ring

theorem isSome_onGrid? (tie : Tie) (rank : Nat) (exponent : Int)
    (fine : 10 ^ exponent ≤ format.step rank / 2) :
    ((format.interval rank).onGrid? tie exponent).isSome = true := by
  have below := format.lower_le rank exponent
  have above := format.lt_upper rank exponent
  have apart := format.value_upper rank exponent
  have before : format.number (rank - 1) ≤ format.number rank :=
    format.strictMono_number.monotone (Nat.sub_le rank 1)
  have inside : (format.interval rank).contains (format.lower rank exponent) = true ∨
      (format.interval rank).contains (format.upper rank exponent) = true := by
    rcases below.eq_or_lt with exact | strict
    · rw [contains_iff_rounds, exact]
      exact .inl (format.rounds_number rank)
    · right
      rw [contains_iff_rounds]
      have next := format.number_succ rank
      exact ⟨by linarith, by linarith, fun same => absurd same (by linarith),
        fun same => absurd same (by linarith)⟩
  rw [onGrid?_eq]
  split <;> simp_all

theorem le_topExponent (rank : Nat) (exponent : Int) (fine : 10 ^ exponent ≤ format.step rank / 2) :
    exponent ≤ (format.interval rank).topExponent := by
  by_contra large
  have digits : (format.interval rank).high / (format.interval rank).denominator <
      10 ^ (format.interval rank).topExponent :=
    lt_pow_length_decimalDigits _
  have unit : 0 < (format.interval rank).denominator := Nat.two_pow_pos _
  rw [Nat.div_lt_iff_lt_mul unit] at digits
  have power : (10 : ℚ) ^ (format.interval rank).topExponent ≤ 10 ^ exponent := by
    rw [← zpow_natCast]
    exact zpow_le_zpow_right₀ (by norm_num) (by omega)
  have high : format.number rank + format.number (rank + 1) <
      10 ^ (format.interval rank).topExponent * 2 := by
    rw [number_add, div_lt_iff₀ (by positivity)]
    generalize (format.interval rank).topExponent = top at digits ⊢
    have cast := (Nat.cast_lt (α := ℚ)).mpr digits
    simp only [interval, Nat.pow_succ] at cast
    push_cast at cast ⊢
    linarith
  have nonneg := format.number_nonneg rank
  rw [number_succ] at high
  linarith

def search (tie : Tie) (rank : Nat) (grids : List Nat) : Option Scientific :=
  grids.findSome? fun finer : Nat =>
    (format.interval rank).onGrid? tie ((format.interval rank).topExponent - finer)

theorem shortest_eq (tie : Tie) (rank : Nat) (positive : rank ≠ 0) :
    format.shortest tie rank =
      (format.search tie rank
        (List.range ((format.interval rank).topExponent + format.subunit))).getD
          (format.exact rank) := by
  rw [shortest, if_neg positive]
  rfl

theorem search_range (tie : Tie) (rank count index : Nat) (inside : index < count)
    (hit : ((format.interval rank).onGrid? tie
      ((format.interval rank).topExponent - index)).isSome = true) :
    ∃ finer ≤ index, ∃ s, format.search tie rank (List.range count) = some s ∧
      (format.interval rank).onGrid? tie ((format.interval rank).topExponent - finer) = some s := by
  have member : index ∈ List.range count := List.mem_range.mpr inside
  cases found : format.search tie rank (List.range count) with
  | none =>
      rw [List.findSome?_eq_none_iff.mp found index member] at hit
      cases hit
  | some s =>
      obtain ⟨coarser, finer, others, split, grid, none⟩ := List.findSome?_eq_some_iff.mp found
      have ordered : (List.range count).Pairwise (· < ·) := List.pairwise_lt_range
      rw [split] at member ordered
      refine ⟨finer, ?_, s, rfl, grid⟩
      rcases List.mem_append.mp member with early | late
      · rw [none index early] at hit
        cases hit
      · rcases List.mem_cons.mp late with rfl | after
        · exact le_rfl
        · have tail := (List.pairwise_append.mp ordered).2.1
          exact ((List.pairwise_cons.mp tail).1 index after).le

theorem le_exponent_shortest (tie : Tie) (rank : Nat) (positive : rank ≠ 0) (exponent : Int)
    (least : -format.subunit < exponent) (fine : 10 ^ exponent ≤ format.step rank / 2) :
    exponent ≤ (format.shortest tie rank).exponent := by
  have top := format.le_topExponent rank exponent fine
  have hit := format.isSome_onGrid? tie rank exponent fine
  obtain ⟨index, rfl⟩ : ∃ index : Nat, exponent = (format.interval rank).topExponent - index :=
    ⟨((format.interval rank).topExponent - exponent).toNat, by omega⟩
  obtain ⟨finer, coarser, s, found, grid⟩ := format.search_range tie rank
    ((format.interval rank).topExponent + format.subunit) index (by omega) hit
  rw [format.shortest_eq tie rank positive, found, Option.getD_some,
    RoundingInterval.exponent_of_onGrid? _ tie _ s grid]
  omega

theorem neg_subunit_le_exponent_shortest (tie : Tie) (rank : Nat) :
    -format.subunit ≤ (format.shortest tie rank).exponent := by
  by_cases zero : rank = 0
  · simp [shortest, zero]
  · rw [format.shortest_eq tie rank zero]
    cases found : format.search tie rank
        (List.range ((format.interval rank).topExponent + format.subunit)) with
    | none => exact le_rfl
    | some s =>
        obtain ⟨finer, member, grid⟩ := List.exists_of_findSome?_eq_some found
        have inside := List.mem_range.mp member
        rw [Option.getD_some, RoundingInterval.exponent_of_onGrid? _ tie _ s grid]
        omega

theorem digits_shortest_lt (tie : Tie) (rank : Nat) :
    (format.shortest tie rank).digits < 10 * 2 ^ (format.fractionBits + 2) := by
  by_cases zero : rank = 0
  · simp [shortest, zero]
  · have least := format.neg_subunit_le_exponent_shortest tie rank
    -- On a coarse enough grid the search would have ended one step earlier.
    have coarse : format.step rank / 2 < 10 ^ ((format.shortest tie rank).exponent + 1) := by
      by_contra fine
      have finer := format.le_exponent_shortest tie rank zero _ (by omega) (not_lt.mp fine)
      omega
    have high := (format.rounds_shortest tie rank).high
    have bound := format.number_succ_le rank
    have positive := format.step_pos rank
    have tens : (0 : ℚ) < 10 ^ (format.shortest tie rank).exponent :=
      zpow_pos (by norm_num) _
    rw [number_succ] at high bound
    rw [zpow_add_one₀ (by norm_num)] at coarse
    rw [Scientific.value_eq_zpow] at high
    generalize (10 : ℚ) ^ (format.shortest tie rank).exponent = power at *
    have scaled : ((format.shortest tie rank).digits : ℚ) * power <
        10 * 2 ^ (format.fractionBits + 2) * power := by
      have binade : (0 : ℚ) < 2 ^ (format.fractionBits + 2) := by positivity
      calc
        ((format.shortest tie rank).digits : ℚ) * power ≤
            2 ^ (format.fractionBits + 2) * (format.step rank / 2) := by
          rw [pow_succ _ (format.fractionBits + 1)]
          linarith
        _ < 2 ^ (format.fractionBits + 2) * (power * 10) :=
          mul_lt_mul_of_pos_left coarse binade
        _ = 10 * 2 ^ (format.fractionBits + 2) * power := by ring
    exact_mod_cast lt_of_mul_lt_mul_right scaled tens.le

/-! The two ways to resolve a tie. -/

theorem middle_cmp (rank : Nat) (exponent : Int) :
    let twice := 2 * (format.interval rank).middle * (format.lower rank exponent).denominator
    let sum := ((format.lower rank exponent).numerator + (format.upper rank exponent).numerator) *
      (format.interval rank).denominator
    (twice < sum ↔ 2 * format.number rank <
        (format.lower rank exponent).value + (format.upper rank exponent).value) ∧
      (sum < twice ↔ (format.lower rank exponent).value + (format.upper rank exponent).value <
        2 * format.number rank) := by
  have unit : (0 : ℚ) < 2 ^ format.subunit := by positivity
  have places : (0 : ℚ) < (format.lower rank exponent).denominator :=
    Nat.cast_pos.mpr (format.lower rank exponent).denominator_pos
  have shared : (format.upper rank exponent).denominator =
      (format.lower rank exponent).denominator := rfl
  dsimp only
  rw [Scientific.value, Scientific.value, shared, ← add_div, number, mul_div_assoc',
    div_lt_div_iff₀ unit places, div_lt_div_iff₀ places unit, ← Nat.cast_lt (α := ℚ),
    ← Nat.cast_lt (α := ℚ)]
  simp only [interval, Nat.pow_succ]
  push_cast
  constructor
  · constructor <;> intro <;> linarith
  · constructor <;> intro <;> linarith

theorem nearer_eq (tie : Tie) (rank : Nat) (exponent : Int) :
    (format.interval rank).nearer tie (format.lower rank exponent) (format.upper rank exponent) =
      if 2 * format.number rank <
          (format.lower rank exponent).value + (format.upper rank exponent).value then
        format.lower rank exponent
      else if (format.lower rank exponent).value + (format.upper rank exponent).value <
          2 * format.number rank then
        format.upper rank exponent
      else match tie with
        | .up => format.upper rank exponent
        | .even =>
            if (format.lower rank exponent).digits % 2 = 0 then format.lower rank exponent
            else format.upper rank exponent := by
  have order := format.middle_cmp rank exponent
  cases tie <;> simp only [RoundingInterval.nearer, order.1, order.2]

theorem onGrid?_up_even (rank : Nat) (exponent : Int) :
    (format.interval rank).onGrid? .up exponent = (format.interval rank).onGrid? .even exponent ∨
      (format.interval rank).onGrid? .even exponent = some (format.lower rank exponent) ∧
      (format.interval rank).onGrid? .up exponent = some (format.upper rank exponent) ∧
      (format.lower rank exponent).digits % 2 = 0 ∧
      (format.lower rank exponent).value + (format.upper rank exponent).value =
        2 * format.number rank := by
  rw [onGrid?_eq, onGrid?_eq]
  split
  · rw [nearer_eq, nearer_eq]
    grind
  · exact .inl rfl
  · exact .inl rfl
  · exact .inl rfl

theorem search_up_even (rank : Nat) (grids : List Nat) :
    format.search .up rank grids = format.search .even rank grids ∨
      ∃ exponent,
        format.search .even rank grids = some (format.lower rank exponent) ∧
        format.search .up rank grids = some (format.upper rank exponent) ∧
        (format.lower rank exponent).digits % 2 = 0 ∧
        (format.lower rank exponent).value + (format.upper rank exponent).value =
          2 * format.number rank := by
  induction grids with
  | nil => exact .inl rfl
  | cons finer grids ih =>
      unfold search at ih ⊢
      rcases format.onGrid?_up_even rank ((format.interval rank).topExponent - finer) with
        same | ⟨even, up, tie⟩
      · rw [List.findSome?_cons, List.findSome?_cons, same]
        cases (format.interval rank).onGrid? .even
          ((format.interval rank).topExponent - finer) with
        | none => exact ih
        | some s => exact .inl rfl
      · right
        rw [List.findSome?_cons, List.findSome?_cons, even, up]
        exact ⟨_, rfl, rfl, tie⟩

/-- The two shortest decimal numbers of a float are the same one, unless the float is the middle of
two neighbours on their grid: then one of them is the lower neighbour, which is even, and the other
one the upper. -/
theorem shortest_up_even (rank : Nat) :
    format.shortest .up rank = format.shortest .even rank ∨
      (format.shortest .even rank).digits % 2 = 0 ∧
      format.shortest .up rank =
        ⟨(format.shortest .even rank).digits + 1, (format.shortest .even rank).exponent⟩ ∧
      (format.shortest .even rank).value + (format.shortest .up rank).value =
        2 * format.number rank := by
  by_cases zero : rank = 0
  · rw [shortest, shortest, if_pos zero, if_pos zero]
    exact .inl rfl
  · rw [format.shortest_eq _ rank zero, format.shortest_eq _ rank zero]
    rcases format.search_up_even rank
        (List.range ((format.interval rank).topExponent + format.subunit)) with
      same | ⟨exponent, even, up, parity, middle⟩
    · rw [same]
      exact .inl rfl
    · rw [even, up]
      exact .inr ⟨parity, rfl, middle⟩

theorem digits_shortest_ne_zero (tie : Tie) (rank : Nat) (positive : rank ≠ 0) :
    (format.shortest tie rank).digits ≠ 0 := by
  intro none
  have rounds := format.rounds_shortest tie rank
  rw [Scientific.value_eq_zpow, none, Nat.cast_zero, zero_mul, ← format.number_zero] at rounds
  exact positive (rounds.unique (format.rounds_number 0))

/-! The exponents of the binary format of 64 bits. -/

theorem power_checks : 2 ^ 1074 * 2 ≤ 10 ^ 324 ∧ 2 ^ 1024 < 10 ^ 309 := by
  decide +kernel

theorem neg_324_le_exponent_shortest (tie : Tie) (rank : Nat) :
    -324 ≤ (binary64.shortest tie rank).exponent := by
  by_cases zero : rank = 0
  · simp [shortest, zero]
  · have subunit : binary64.subunit = 1074 := rfl
    apply binary64.le_exponent_shortest tie rank zero (-324)
    · rw [subunit]
      decide
    · have least : binary64.step 0 ≤ binary64.step rank := binary64.step_mono (Nat.zero_le rank)
      have first : binary64.step 0 = 1 / 2 ^ 1074 := by
        rw [step, subunit, Nat.zero_div, Nat.zero_sub, pow_zero]
      have cast := (Nat.cast_le (α := ℚ)).mpr power_checks.1
      rw [Nat.cast_mul, Nat.cast_pow, Nat.cast_pow, Nat.cast_ofNat, Nat.cast_ofNat] at cast
      have small : (10 : ℚ) ^ (-324 : Int) ≤ 1 / 2 ^ 1074 / 2 := by
        rw [zpow_neg, zpow_ofNat, ← one_div, div_div]
        exact one_div_le_one_div_of_le (by positivity) cast
      rw [first] at least
      exact small.trans (div_le_div_of_nonneg_right least zero_le_two)

theorem number_infinity : binary64.number binary64.infinity = 2 ^ 1024 := by
  have subunit : binary64.subunit = 1074 := rfl
  rw [number, binary64.units_infinity (by decide), subunit, Nat.cast_pow, Nat.cast_ofNat,
    div_eq_iff (by positivity), ← pow_add]
  rfl

theorem exponent_shortest_le_308 (tie : Tie) (rank : Nat) (finite : rank < binary64.infinity) :
    (binary64.shortest tie rank).exponent ≤ 308 := by
  by_cases zero : rank = 0
  · simp [shortest, zero]
  · by_contra large
    have high := (binary64.rounds_shortest tie rank).high
    have here : binary64.number rank ≤ binary64.number binary64.infinity :=
      binary64.strictMono_number.monotone (by omega)
    have next : binary64.number (rank + 1) ≤ binary64.number binary64.infinity :=
      binary64.strictMono_number.monotone (by omega)
    have digits : (1 : ℚ) ≤ (binary64.shortest tie rank).digits :=
      Nat.one_le_cast.mpr (Nat.pos_of_ne_zero (binary64.digits_shortest_ne_zero tie rank zero))
    have power : (10 : ℚ) ^ 309 ≤ 10 ^ (binary64.shortest tie rank).exponent := by
      rw [← zpow_natCast]
      exact zpow_le_zpow_right₀ (by norm_num) (by omega)
    have value : (10 : ℚ) ^ 309 ≤ (binary64.shortest tie rank).value := by
      rw [Scientific.value_eq_zpow]
      calc
        (10 : ℚ) ^ 309 ≤ 1 * 10 ^ (binary64.shortest tie rank).exponent := by rwa [one_mul]
        _ ≤ _ := mul_le_mul_of_nonneg_right digits (zpow_pos (by norm_num) _).le
    have most : (2 : ℚ) ^ 1024 < 10 ^ 309 := by
      have cast := (Nat.cast_lt (α := ℚ)).mpr power_checks.2
      rwa [Nat.cast_pow, Nat.cast_pow, Nat.cast_ofNat, Nat.cast_ofNat] at cast
    rw [number_infinity] at here next
    generalize (10 : ℚ) ^ 309 = tens at *
    generalize (2 : ℚ) ^ 1024 = bound at *
    linarith

end FloatFormat
end QueryAlgebra
