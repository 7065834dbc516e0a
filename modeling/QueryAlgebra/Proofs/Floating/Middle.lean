import QueryAlgebra.Proofs.Floating.Length

/-!
The middles between neighbouring floats. A number that is close to one which rounds to a float, and
does not round to it itself, has a middle between the two. The shortest decimal number of a float
comes near to a middle only on a coarse grid, one whose steps are not much smaller than the distance
between the floats.
-/

namespace QueryAlgebra.FloatFormat

variable (format : FloatFormat)

def middle (rank : Nat) : ℚ := format.number rank + format.step rank / 2

theorem two_mul_middle (rank : Nat) :
    2 * format.middle rank = format.number rank + format.number (rank + 1) := by
  rw [middle, number_succ]
  ring

theorem middle_pos (rank : Nat) : 0 < format.middle rank := by
  have number := format.number_nonneg rank
  have step := format.step_pos rank
  rw [middle]
  linarith

theorem middle_le (rank : Nat) :
    format.middle rank ≤ 2 ^ (format.fractionBits + 1) * format.step rank := by
  have step := format.step_pos rank
  have next := format.number_succ_le rank
  rw [number_succ] at next
  rw [middle]
  linarith

variable {format}

theorem rounds_of_between {q : ℚ} {rank : Nat} (nonneg : 0 ≤ q)
    (above : ∀ before, before + 1 = rank → format.middle before < q)
    (below : q < format.middle rank) : format.Rounds q rank := by
  have high := format.two_mul_middle rank
  cases rank with
  | zero =>
      have zero := format.number_zero
      exact ⟨by rw [zero]; linarith, by linarith, fun _ => rfl, fun same => absurd same (by linarith)⟩
  | succ before =>
      have low := format.two_mul_middle before
      have inside := above before rfl
      refine ⟨?_, by linarith, ?_, fun same => absurd same (by linarith)⟩
      · rw [Nat.add_sub_cancel]
        linarith
      · rw [Nat.add_sub_cancel]
        exact fun same => absurd same (by linarith)

theorem Rounds.le_middle {q : ℚ} {rank : Nat} (rounds : format.Rounds q rank) :
    q ≤ format.middle rank := by
  have high := rounds.high
  rw [← two_mul_middle] at high
  linarith

theorem Rounds.middle_le {q : ℚ} {before : Nat} (rounds : format.Rounds q (before + 1)) :
    format.middle before ≤ q := by
  have low := rounds.low
  rw [Nat.add_sub_cancel, ← two_mul_middle] at low
  linarith

theorem Close.succ {fine : FloatFormat} {errors : Nat} {x y : ℚ} (close : fine.Close errors x y)
    (nonneg : 0 ≤ y) : fine.Close (errors + 1) x y := by
  have slack : 1 ≤ fine.slack ^ 1 := one_le_pow₀ fine.one_lt_slack.le
  have same : fine.Close 1 y y :=
    ⟨le_mul_of_one_le_left nonneg slack, le_mul_of_one_le_left nonneg slack⟩
  exact close.trans same

theorem Close.between {fine : FloatFormat} {errors : Nat} {x y m : ℚ} (close : fine.Close errors x y)
    (nonneg : 0 ≤ x) (nonneg' : 0 ≤ m) (between : x ≤ m ∧ m ≤ y ∨ y ≤ m ∧ m ≤ x) :
    fine.Close errors x m := by
  have slack : 1 ≤ fine.slack ^ errors := one_le_pow₀ fine.one_lt_slack.le
  rcases between with ⟨above, below⟩ | ⟨above, below⟩
  · refine ⟨above.trans ?_, below.trans close.above⟩
    exact le_mul_of_one_le_left nonneg' slack
  · refine ⟨close.below.trans ?_, below.trans ?_⟩
    · exact mul_le_mul_of_nonneg_left above (by linarith)
    · exact le_mul_of_one_le_left nonneg slack

/-- A number close to one that rounds to a float rounds to it too, unless a middle beside the float
is close to the first number. A first number that is a middle itself is no exception if the second
one is the same then. -/
theorem Rounds.close_middle {fine : FloatFormat} {errors : Nat} {q q' : ℚ} {rank : Nat}
    (rounds : format.Rounds q rank) (close : fine.Close errors q q') (nonneg : 0 ≤ q')
    (exact : ∀ other, q = format.middle other → q' = q) (misses : ¬format.Rounds q' rank) :
    ∃ other, (other = rank ∨ other + 1 = rank) ∧ q ≠ format.middle other ∧
      fine.Close errors q (format.middle other) := by
  have differs (other : Nat) : q ≠ format.middle other := by
    intro same
    rw [exact other same] at misses
    exact misses rounds
  have near (other : Nat) (between : q ≤ format.middle other ∧ format.middle other ≤ q' ∨
      q' ≤ format.middle other ∧ format.middle other ≤ q) :
      fine.Close errors q (format.middle other) :=
    close.between rounds.nonneg (format.middle_pos other).le between
  by_cases below : q' < format.middle rank
  · by_contra none
    apply misses
    apply rounds_of_between nonneg _ below
    rintro before rfl
    by_contra above
    exact none ⟨before, .inr rfl, differs before,
      near before (.inr ⟨not_lt.mp above, rounds.middle_le⟩)⟩
  · exact ⟨rank, .inl rfl, differs rank, near rank (.inl ⟨rounds.le_middle, not_lt.mp below⟩)⟩

variable (format)

/-! The grid of the shortest decimal number. -/

theorem value_exact (rank : Nat) : (format.exact rank).value = format.number rank := by
  have ten : (10 : ℚ) ^ format.subunit = 5 ^ format.subunit * 2 ^ format.subunit := by
    rw [← mul_pow]
    norm_num
  have five : (5 : ℚ) ^ format.subunit ≠ 0 := by positivity
  rw [Scientific.value_of_nonpos _ (by simp [exact]), number]
  simp only [exact, neg_neg, Int.toNat_natCast]
  push_cast
  rw [ten, mul_comm (5 ^ format.subunit), mul_div_mul_right _ _ five]

theorem onGrid?_shortest (tie : Tie) (rank : Nat) (positive : rank ≠ 0) :
    (format.shortest tie rank).value = format.number rank ∨
      (format.interval rank).onGrid? tie (format.shortest tie rank).exponent =
        some (format.shortest tie rank) := by
  rw [format.shortest_eq tie rank positive]
  cases found : format.search tie rank
      (List.range ((format.interval rank).topExponent + format.subunit)) with
  | none => exact .inl (format.value_exact rank)
  | some s =>
      obtain ⟨finer, -, grid⟩ := List.exists_of_findSome?_eq_some found
      rw [Option.getD_some]
      right
      rw [RoundingInterval.exponent_of_onGrid? _ tie _ s grid, grid]

theorem nearer_cases (tie : Tie) (rank : Nat) (exponent : Int) :
    let lower := format.lower rank exponent
    let upper := format.upper rank exponent
    (format.interval rank).nearer tie lower upper = lower ∧
        2 * format.number rank ≤ lower.value + upper.value ∨
      (format.interval rank).nearer tie lower upper = upper ∧
        lower.value + upper.value ≤ 2 * format.number rank := by
  dsimp only
  rw [nearer_eq]
  split
  · rename_i nearer
    exact .inl ⟨rfl, nearer.le⟩
  · rename_i notLower
    split
    · rename_i nearer
      exact .inr ⟨rfl, nearer.le⟩
    · rename_i notUpper
      have tied := le_antisymm (not_lt.mp notLower) (not_lt.mp notUpper)
      cases tie with
      | up => exact .inr ⟨rfl, tied.le⟩
      | even =>
          dsimp only
          split
          · exact .inl ⟨rfl, tied.ge⟩
          · exact .inr ⟨rfl, tied.le⟩

/-- The shortest decimal number of a float is the float itself or one of its neighbours on the grid,
the nearer one if the other rounds to the float too. -/
theorem shortest_cases (tie : Tie) (rank : Nat) (positive : rank ≠ 0) :
    let s := format.shortest tie rank
    let lower := format.lower rank s.exponent
    let upper := format.upper rank s.exponent
    s.value = format.number rank ∨
      s = lower ∧ (format.Rounds upper.value rank →
        2 * format.number rank ≤ lower.value + upper.value) ∨
      s = upper ∧ (format.Rounds lower.value rank →
        lower.value + upper.value ≤ 2 * format.number rank) := by
  dsimp only
  rcases format.onGrid?_shortest tie rank positive with same | grid
  · exact .inl same
  · right
    have nearer := format.nearer_cases tie rank (format.shortest tie rank).exponent
    simp only [← contains_iff_rounds]
    rw [onGrid?_eq] at grid
    generalize format.shortest tie rank = s at *
    split at grid
    · rcases nearer with ⟨form, order⟩ | ⟨form, order⟩
      · rw [form] at grid
        exact .inl ⟨(Option.some.inj grid).symm, fun _ => order⟩
      · rw [form] at grid
        exact .inr ⟨(Option.some.inj grid).symm, fun _ => order⟩
    · rename_i outside
      exact .inl ⟨(Option.some.inj grid).symm, fun inside => by simp [inside] at outside⟩
    · rename_i outside _
      exact .inr ⟨(Option.some.inj grid).symm, fun inside => by simp [inside] at outside⟩
    · cases grid

/-- A shortest decimal number above the float leaves no grid point on the other side that is nearer,
so the step of its grid is twice the way to the float or reaches beyond the middle below. -/
theorem power_of_lt_shortest (tie : Tie) (before : Nat)
    (above : format.number (before + 1) < (format.shortest tie (before + 1)).value) :
    let s := format.shortest tie (before + 1)
    2 * (s.value - format.number (before + 1)) ≤ 10 ^ s.exponent ∨
      s.value - 10 ^ s.exponent ≤ format.middle before := by
  have cases := format.shortest_cases tie (before + 1) (Nat.succ_ne_zero before)
  dsimp only at cases ⊢
  generalize format.shortest tie (before + 1) = s at *
  have below := format.lower_le (before + 1) s.exponent
  have apart := format.value_upper (before + 1) s.exponent
  rcases cases with same | ⟨form, -⟩ | ⟨form, nearer⟩
  · exact absurd same above.ne'
  · rw [← form] at below
    exact absurd below (not_le.mpr above)
  · rw [← form] at apart nearer
    by_cases inside : format.Rounds (format.lower (before + 1) s.exponent).value (before + 1)
    · have order := nearer inside
      exact .inl (by linarith)
    · right
      by_contra far
      have low := format.middle_pos before
      have step := format.step_pos (before + 1)
      -- The lower neighbour would round to the float as well.
      apply inside
      apply rounds_of_between (by linarith)
      · intro other same
        rw [Nat.add_right_cancel same]
        linarith
      · rw [middle]
        linarith

theorem power_of_shortest_lt (tie : Tie) (rank : Nat)
    (below : (format.shortest tie rank).value < format.number rank) :
    let s := format.shortest tie rank
    2 * (format.number rank - s.value) ≤ 10 ^ s.exponent ∨
      format.middle rank ≤ s.value + 10 ^ s.exponent := by
  have positive : rank ≠ 0 := by
    rintro rfl
    rw [number_zero] at below
    exact absurd below (not_lt.mpr (format.rounds_shortest tie 0).nonneg)
  have cases := format.shortest_cases tie rank positive
  dsimp only at cases ⊢
  generalize format.shortest tie rank = s at *
  have above := format.lt_upper rank s.exponent
  have apart := format.value_upper rank s.exponent
  rcases cases with same | ⟨form, nearer⟩ | ⟨form, -⟩
  · exact absurd same below.ne
  · rw [← form] at apart nearer
    by_cases inside : format.Rounds (format.upper rank s.exponent).value rank
    · have order := nearer inside
      exact .inl (by linarith)
    · right
      by_contra far
      have nonneg := format.number_nonneg rank
      apply inside
      apply rounds_of_between (by linarith) _ (by linarith)
      rintro before rfl
      have step := format.step_pos before
      rw [number_succ] at above
      rw [middle]
      linarith
  · rw [← form] at above
    exact absurd above (not_lt.mpr below.le)

/-- A shortest decimal number near to a middle beside its float lies on a coarse grid. Only where
the floats get sparser, at the middle above the float, the grid may be somewhat finer. -/
theorem step_le_of_near_middle (tie : Tie) (rank other : Nat) (error : ℚ) (positive : rank ≠ 0)
    (beside : other = rank ∨ other + 1 = rank)
    (near : |(format.shortest tie rank).value - format.middle other| ≤ error)
    (small : 2 * error < format.step other) :
    let power : ℚ := 10 ^ (format.shortest tie rank).exponent
    format.step other - 2 * error ≤ power ∨
      other = rank ∧ format.step (rank - 1) < format.step rank ∧
        format.step other - 2 * error ≤ 2 * power := by
  obtain ⟨least, greatest⟩ := abs_le.mp near
  dsimp only
  rcases beside with rfl | rfl
  · obtain ⟨before, rfl⟩ := Nat.exists_eq_succ_of_ne_zero positive
    have widen := format.step_mono (Nat.le_succ before)
    have step := format.step_pos before
    have next := format.number_succ before
    rw [middle] at least greatest
    rcases format.power_of_lt_shortest tie before (by linarith) with twice | beyond
    · exact .inl (by linarith)
    · rw [middle] at beyond
      rcases widen.eq_or_lt with same | sparser
      · exact .inl (by linarith)
      · exact .inr ⟨rfl, sparser, by linarith⟩
  · have widen := format.step_mono (Nat.le_succ other)
    have next := format.number_succ other
    rw [middle] at least greatest
    left
    rcases format.power_of_shortest_lt tie (other + 1) (by linarith) with twice | beyond
    · linarith
    · rw [middle] at beyond
      linarith

end QueryAlgebra.FloatFormat
