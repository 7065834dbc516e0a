import QueryAlgebra.Proofs.Floating.Decimal
import QueryAlgebra.Proofs.Json.Scaling
import QueryAlgebra.Proofs.Json.Unique

/-!
The literals of a float. Both of its texts are literals of its shortest digits, so rounding what
they show gives the float back. The JSON reader rounds more than once and may miss it by two floats;
a short literal with a small exponent it reads exactly.
-/

namespace QueryAlgebra

namespace NumberLiteral

def scientific (negative : Bool) (s : Scientific) : NumberLiteral :=
  match decimalDigits s.digits with
  | [] => ⟨negative, [], none, none⟩
  | digit :: rest =>
      ⟨negative, [digit], if rest = [] then none else some rest,
        some (s.leading < 0, decimalDigits s.leading.natAbs)⟩

theorem read?_scientific (negative : Bool) (s : Scientific) :
    read? (if negative then '-' :: s.scientific else s.scientific) =
      some (scientific negative s) := by
  have allDigits := isDigit_of_mem_decimalDigits s.digits
  have nonempty := decimalDigits_ne_nil s.digits
  have mark := exponent?_digits (s.leading < 0) (decimalDigits s.leading.natAbs)
    (decimalDigits_ne_nil _) (isDigit_of_mem_decimalDigits _)
  have sign : 'e' :: s.leadingText =
      'e' :: (if decide (s.leading < 0) then '-' else '+') :: decimalDigits s.leading.natAbs := by
    rw [Scientific.leadingText]
    simp only [decide_eq_true_eq]
  rw [← sign] at mark
  have ends : ∀ c ∈ ('e' :: s.leadingText).head?, c.isDigit = false := by
    intro c member
    rw [← Option.some_inj.mp member]
    decide
  rw [Scientific.scientific_eq, scientific]
  generalize decimalDigits s.digits = digits at *
  rcases digits with _ | ⟨digit, rest⟩
  · exact absurd rfl nonempty
  · have front : IsWhole [digit] := isWhole_singleton digit (allDigits digit (by simp))
    rcases rest with _ | ⟨second, rest⟩
    · exact read?_append negative [digit] _ _ none _ front ends rfl mark
    · have point := fraction?_digits (second :: rest) ('e' :: s.leadingText) (by simp)
        (fun c member => allDigits c (List.mem_cons_of_mem digit member)) ends
      exact read?_append negative [digit] _ _ _ _ front (by simp) point mark

theorem magnitude_scientific (negative : Bool) (s : Scientific) :
    (scientific negative s).magnitude = s := by
  have nonempty := decimalDigits_ne_nil s.digits
  have value := ofDecimalDigits_decimalDigits s.digits
  have size : (if decide (s.leading < 0) then -(s.leading.natAbs : Int) else s.leading.natAbs) =
      s.leading := by
    by_cases small : s.leading < 0
    · rw [if_pos (decide_eq_true small)]
      omega
    · rw [if_neg (by simpa using small)]
      omega
  have leading : s.leading = s.exponent + (decimalDigits s.digits).length - 1 := rfl
  have written := ofDecimalDigits_decimalDigits s.leading.natAbs
  rw [scientific]
  generalize decimalDigits s.digits = digits at *
  rcases digits with _ | ⟨digit, rest⟩
  · exact absurd rfl nonempty
  · have fraction : (if rest = [] then none else some rest).getD [] = rest := by
      split <;> simp_all
    rw [List.length_cons] at leading
    have exponent : s.leading - rest.length = s.exponent := by omega
    simp only [magnitude, writtenExponent, fraction, List.singleton_append, value, written, size,
      exponent]

def positional (negative : Bool) (s : Scientific) : NumberLiteral :=
  if 0 ≤ s.exponent then pointed negative (10 * s.numerator) 1
  else pointed negative s.numerator (-s.exponent).toNat

theorem read?_positional (negative : Bool) (s : Scientific) :
    read? (if negative then '-' :: s.pointed else s.pointed) = some (positional negative s) := by
  rcases le_or_gt 0 s.exponent with whole | small
  · rw [s.pointed_of_nonneg whole, positional, if_pos whole]
    exact read?_pointDigits negative _ _
  · rw [s.pointed_of_neg small, positional, if_neg (not_le.mpr small)]
    exact read?_pointDigits negative _ _

theorem magnitude_positional (negative : Bool) (s : Scientific) :
    (positional negative s).magnitude =
      if 0 ≤ s.exponent then ⟨10 * s.digits * 10 ^ s.exponent.toNat, -1⟩ else s := by
  rcases le_or_gt 0 s.exponent with whole | small
  · rw [positional, if_pos whole, if_pos whole, magnitude_pointed, Scientific.numerator,
      Nat.mul_assoc]
    rfl
  · have none : s.exponent.toNat = 0 := by omega
    rw [positional, if_neg (not_le.mpr small), if_neg (not_le.mpr small), magnitude_pointed,
      Scientific.numerator, none, Nat.pow_zero, Nat.mul_one, Int.toNat_of_nonneg (by omega),
      neg_neg]

theorem value_positional (negative : Bool) (s : Scientific) :
    (positional negative s).magnitude.value = s.value := by
  rw [magnitude_positional]
  split
  · rename_i whole
    rw [s.value_of_nonneg whole, Scientific.value_of_nonpos _ (by simp)]
    push_cast
    ring
  · rfl

theorem not_integer_positional (negative : Bool) (s : Scientific) :
    ((positional negative s).fraction.isSome ||
      (positional negative s).exponent.isSome) = true := by
  rcases le_or_gt 0 s.exponent with whole | small
  · rw [positional, if_pos whole]
    rfl
  · have places : (-s.exponent).toNat ≠ 0 := by omega
    rw [positional, if_neg (not_le.mpr small), pointed, if_neg places]
    rfl

theorem not_integer_scientific (negative : Bool) (s : Scientific) :
    ((scientific negative s).fraction.isSome ||
      (scientific negative s).exponent.isSome) = true := by
  rw [scientific]
  split
  · rename_i empty
    exact absurd empty (decimalDigits_ne_nil _)
  · exact Bool.or_true _

theorem number?_of_lt (literal : NumberLiteral) (notInteger : literal.integer? = none)
    (below : scaledRank literal.gathered < FloatFormat.binary64.infinity) :
    literal.number? = some (.float (.ofRank literal.negative (scaledRank literal.gathered))
      (Floating.ofRank_isFinite _ _ below)) := by
  rw [number?, notInteger, float?]
  simp only [dif_pos below]
  rfl

end NumberLiteral

theorem Scientific.lt_pow_leading (s : Scientific) (whole : 0 ≤ s.exponent) :
    s.digits * 10 ^ s.exponent.toNat < 10 ^ (s.leading + 1).toNat := by
  have length := lt_pow_length_decimalDigits s.digits
  have places : (s.leading + 1).toNat = (decimalDigits s.digits).length + s.exponent.toNat := by
    rw [leading]
    omega
  rw [places, Nat.pow_add]
  exact Nat.mul_lt_mul_of_pos_right length (Nat.pow_pos (by decide))

namespace Floating

def plainLiteral (x : Binary64) : NumberLiteral :=
  let s := FloatFormat.binary64.shortest .up x.magnitude
  .pointed x.negative s.numerator (-s.exponent).toNat

theorem read?_plainText (x : Binary64) (finite : x.isFinite) :
    NumberLiteral.read? x.plainText = some x.plainLiteral := by
  have number : x.isNan = false := by
    simp only [isNan, isFinite, decide_eq_true_eq, decide_eq_false_iff_not] at finite ⊢
    omega
  rw [x.plainText_eq number, plainSize, if_pos finite, Scientific.positional_eq]
  exact NumberLiteral.read?_pointDigits x.negative _ _

theorem value_plainLiteral (x : Binary64) :
    x.plainLiteral.magnitude.value = (FloatFormat.binary64.shortest .up x.magnitude).value := by
  rw [plainLiteral, NumberLiteral.magnitude_pointed, Scientific.value_of_nonpos _ (by simp),
    neg_neg, Int.toNat_natCast, Nat.cast_pow, Nat.cast_ofNat, Scientific.value_eq]

section Literal

variable {format : FloatFormat} (x : Floating format)

def literal : NumberLiteral :=
  let s := format.shortest .even x.magnitude
  if format.jsonWindow.least ≤ s.leading ∧ s.leading ≤ format.jsonWindow.greatest then
    .positional x.negative s
  else .scientific x.negative s

theorem read?_literal (finite : x.isFinite) :
    NumberLiteral.read? x.jsonText = some x.literal := by
  rw [x.jsonText_eq finite, jsonSize, literal]
  generalize format.shortest .even x.magnitude = s
  by_cases inside : format.jsonWindow.least ≤ s.leading ∧ s.leading ≤ format.jsonWindow.greatest
  · rw [if_pos inside, if_pos inside]
    exact NumberLiteral.read?_positional x.negative s
  · rw [if_neg inside, if_neg inside]
    exact NumberLiteral.read?_scientific x.negative s

theorem literal_cases :
    x.literal = .positional x.negative (format.shortest .even x.magnitude) ∨
      x.literal = .scientific x.negative (format.shortest .even x.magnitude) := by
  rw [literal]
  split
  · exact .inl rfl
  · exact .inr rfl

theorem value_literal :
    x.literal.magnitude.value = (format.shortest .even x.magnitude).value := by
  rcases x.literal_cases with form | form
  · rw [form, NumberLiteral.value_positional]
  · rw [form, NumberLiteral.magnitude_scientific]

theorem negative_literal : x.literal.negative = x.negative := by
  rcases x.literal_cases with form | form
  · rw [form, NumberLiteral.positional]
    split <;> rfl
  · rw [form, NumberLiteral.scientific]
    split <;> rfl

theorem integer?_literal : x.literal.integer? = none := by
  have mark : (x.literal.fraction.isSome || x.literal.exponent.isSome) = true := by
    rcases x.literal_cases with form | form
    · rw [form]
      exact NumberLiteral.not_integer_positional x.negative _
    · rw [form]
      exact NumberLiteral.not_integer_scientific x.negative _
  rw [NumberLiteral.integer?, mark, Bool.true_or]
  rfl

theorem isWord_jsonText (finite : x.isFinite) (number : JsonNumber)
    (reads : x.literal.number? = some number) :
    (JsonToken.number number).IsWord x.jsonText := by
  refine ⟨x.jsonText_ne_nil finite, x.isWordChar_of_mem_jsonText finite, ?_⟩
  rw [JsonToken.ofWord?_of_literal _ _ (x.read?_literal finite), reads]
  rfl

theorem rounds_literal : format.Rounds x.literal.magnitude.value x.magnitude := by
  rw [x.value_literal]
  exact format.rounds_shortest .even x.magnitude

end Literal

def jsonLiteral (x : Binary64) : NumberLiteral :=
  let s := FloatFormat.binary64.shortest .even x.magnitude
  if -5 ≤ s.leading ∧ s.leading ≤ 15 then .positional x.negative s else .scientific x.negative s

theorem jsonLiteral_eq (x : Binary64) : x.jsonLiteral = x.literal :=
  rfl

theorem read?_jsonText (x : Binary64) (finite : x.isFinite) :
    NumberLiteral.read? x.jsonText = some x.jsonLiteral := by
  rw [x.jsonLiteral_eq]
  exact x.read?_literal finite

theorem value_jsonLiteral (x : Binary64) :
    x.jsonLiteral.magnitude.value = (FloatFormat.binary64.shortest .even x.magnitude).value := by
  rw [x.jsonLiteral_eq, x.value_literal]

theorem negative_jsonLiteral (x : Binary64) : x.jsonLiteral.negative = x.negative := by
  rw [x.jsonLiteral_eq, x.negative_literal]

theorem integer?_jsonLiteral (x : Binary64) : x.jsonLiteral.integer? = none := by
  rw [x.jsonLiteral_eq, x.integer?_literal]

theorem jsonLiteral_bounds (x : Binary64) (finite : x.isFinite) :
    x.jsonLiteral.magnitude.digits < 2 ^ 64 ∧ -324 ≤ x.jsonLiteral.magnitude.exponent ∧
      x.jsonLiteral.magnitude.exponent ≤ 308 := by
  have below : x.magnitude.val < FloatFormat.binary64.infinity := of_decide_eq_true finite
  have digits := FloatFormat.binary64.digits_shortest_lt .even x.magnitude
  have least := FloatFormat.neg_324_le_exponent_shortest .even x.magnitude
  have greatest := FloatFormat.exponent_shortest_le_308 .even x.magnitude below
  rw [jsonLiteral]
  generalize FloatFormat.binary64.shortest .even x.magnitude = s at *
  have few : s.digits < 2 ^ 64 := by
    have bound : 10 * 2 ^ (FloatFormat.binary64.fractionBits + 2) < 2 ^ 64 := by decide
    exact digits.trans bound
  split
  · rename_i window
    rw [NumberLiteral.magnitude_positional]
    split
    · rename_i whole
      have size : s.digits * 10 ^ s.exponent.toNat < 10 ^ 16 :=
        (s.lt_pow_leading whole).trans_le (Nat.pow_le_pow_right (by decide) (by omega))
      dsimp only
      rw [Nat.mul_assoc]
      omega
    · exact ⟨few, least, greatest⟩
  · rw [NumberLiteral.magnitude_scientific]
    exact ⟨few, least, greatest⟩

/-- What the JSON text of a float is read as. -/
def reread (x : Binary64) : Binary64 :=
  .ofRank x.negative (NumberLiteral.scaledRank x.jsonLiteral.gathered)

theorem gathered_jsonLiteral (x : Binary64) (finite : x.isFinite) :
    x.jsonLiteral.gathered = x.jsonLiteral.magnitude :=
  NumberLiteral.gathered_eq_magnitude _ (x.jsonLiteral_bounds finite).1

theorem rounds_jsonLiteral (x : Binary64) :
    FloatFormat.binary64.Rounds x.jsonLiteral.magnitude.value x.magnitude := by
  rw [x.jsonLiteral_eq]
  exact x.rounds_literal

theorem near_scaledRank (x : Binary64) (finite : x.isFinite) :
    NumberLiteral.scaledRank x.jsonLiteral.gathered ≤ x.magnitude + 2 ∧
      x.magnitude ≤ NumberLiteral.scaledRank x.jsonLiteral.gathered + 2 := by
  obtain ⟨-, least, greatest⟩ := x.jsonLiteral_bounds finite
  rw [x.gathered_jsonLiteral finite]
  exact NumberLiteral.scaledRank_near _ _ least greatest x.rounds_jsonLiteral

theorem greatest_below : ∀ negative, ∀ distance : Fin 2,
    NumberLiteral.scaledRank (jsonLiteral (ofRank negative
        (FloatFormat.binary64.infinity - 1 - distance))).gathered <
      FloatFormat.binary64.infinity := by
  decide +kernel

theorem scaledRank_lt_infinity (x : Binary64) (finite : x.isFinite) :
    NumberLiteral.scaledRank x.jsonLiteral.gathered < FloatFormat.binary64.infinity := by
  have below : x.magnitude.val < FloatFormat.binary64.infinity := of_decide_eq_true finite
  have near := (x.near_scaledRank finite).1
  by_cases room : x.magnitude.val + 2 < FloatFormat.binary64.infinity
  · omega
  · have same := x.ofRank_magnitude finite
    have top := greatest_below x.negative
      ⟨FloatFormat.binary64.infinity - 1 - x.magnitude, by omega⟩
    have rank : FloatFormat.binary64.infinity - 1 -
        (FloatFormat.binary64.infinity - 1 - x.magnitude) = x.magnitude := by omega
    dsimp only at top
    rw [rank, same] at top
    exact top

theorem reread_isFinite (x : Binary64) (finite : x.isFinite) : x.reread.isFinite :=
  ofRank_isFinite _ _ (x.scaledRank_lt_infinity finite)

theorem number?_jsonLiteral (x : Binary64) (finite : x.isFinite) :
    x.jsonLiteral.number? = some (.float x.reread (x.reread_isFinite finite)) := by
  rw [NumberLiteral.number?_of_lt _ x.integer?_jsonLiteral (x.scaledRank_lt_infinity finite)]
  simp only [x.negative_jsonLiteral]
  rfl

/-- A float is reread with its sign, at most two floats away. -/
theorem reread_near (x : Binary64) (finite : x.isFinite) :
    x.reread.negative = x.negative ∧ x.reread.magnitude.val ≤ x.magnitude + 2 ∧
      x.magnitude.val ≤ x.reread.magnitude + 2 := by
  have below := x.scaledRank_lt_infinity finite
  have rank : x.reread.magnitude.val = NumberLiteral.scaledRank x.jsonLiteral.gathered :=
    Nat.min_eq_left below.le
  rw [rank]
  exact ⟨rfl, x.near_scaledRank finite⟩

/-! The float written 9.909648243529041e-54 is read as the second one before it. -/

example :
    (ofBits .binary64 0x34EE5F7BD8916ABF).reread = ofBits .binary64 0x34EE5F7BD8916ABD := by
  decide +kernel

theorem reread_eq (x : Binary64) (finite : x.isFinite)
    (short : x.jsonLiteral.magnitude.digits ≤ 2 ^ 53)
    (least : -22 ≤ x.jsonLiteral.magnitude.exponent)
    (greatest : x.jsonLiteral.magnitude.exponent ≤ 22) : x.reread = x := by
  have rounds := NumberLiteral.rounds_scaledRank _ short least greatest
  rw [reread, x.gathered_jsonLiteral finite, rounds.unique x.rounds_jsonLiteral,
    x.ofRank_magnitude finite]

end Floating

def JsonNumber.reread : JsonNumber → JsonNumber
  | integer n inRange => integer n inRange
  | float x finite => float x.reread (x.reread_isFinite finite)

theorem JsonNumber.readsAs_reread (number : JsonNumber) : number.ReadsAs number.reread := by
  cases number with
  | integer n inRange => exact readsBack_integer n inRange
  | float x finite => exact x.isWord_jsonText finite _ (x.number?_jsonLiteral finite)

end QueryAlgebra
