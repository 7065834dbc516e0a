import QueryAlgebra.Json.NumberLiteral
import QueryAlgebra.Proofs.Text.Unique

/-!
Number literals are read back from the texts of their parts: a sign, digits before the point, digits
after it and an exponent. A significand of 64 bits gathers all the digits of a literal that make a
number below that bound.
-/

namespace QueryAlgebra.NumberLiteral

/-- Digits that may stand before the point: a zero among them is not in front of others. -/
structure IsWhole (digits : List Char) : Prop where
  allDigits : ∀ c ∈ digits, c.isDigit = true
  proper : ¬(digits = [] ∨ digits.head? = some '0' ∧ digits ≠ ['0'])

theorem isWhole_decimalDigits (n : Nat) : IsWhole (decimalDigits n) := by
  refine ⟨isDigit_of_mem_decimalDigits n, ?_⟩
  rintro (empty | ⟨zeroFirst, longer⟩)
  · exact decimalDigits_ne_nil _ empty
  · have zero : n = 0 := head?_decimalDigits _ zeroFirst
    rw [zero] at longer
    exact longer rfl

theorem isWhole_singleton (c : Char) (digit : c.isDigit = true) : IsWhole [c] := by
  refine ⟨by simpa using digit, ?_⟩
  rintro (empty | ⟨zeroFirst, longer⟩)
  · cases empty
  · exact longer (by simpa using zeroFirst)

theorem fraction?_digits (digits rest : List Char) (nonempty : digits ≠ [])
    (allDigits : ∀ c ∈ digits, c.isDigit = true) (ends : ∀ c ∈ rest.head?, c.isDigit = false) :
    fraction? ('.' :: (digits ++ rest)) = some (some digits, rest) := by
  simp only [fraction?, spanDigits_append digits rest allDigits ends, if_neg nonempty]

theorem exponent?_digits (negative : Bool) (digits : List Char) (nonempty : digits ≠ [])
    (allDigits : ∀ c ∈ digits, c.isDigit = true) :
    exponent? ('e' :: (if negative then '-' else '+') :: digits) =
      some (some (negative, digits)) := by
  have all : digits.all Char.isDigit = true := List.all_eq_true.mpr allDigits
  cases negative <;> simp [exponent?, nonempty, all]

theorem read?_append (negative : Bool) (whole rest after : List Char)
    (fraction : Option (List Char)) (exponent : Option (Bool × List Char)) (isWhole : IsWhole whole)
    (ends : ∀ c ∈ rest.head?, c.isDigit = false) (point : fraction? rest = some (fraction, after))
    (mark : exponent? after = some exponent) :
    read? (if negative then '-' :: (whole ++ rest) else whole ++ rest) =
      some ⟨negative, whole, fraction, exponent⟩ := by
  have front := spanDigits_append whole rest isWhole.allDigits ends
  have nonempty : whole ≠ [] := fun empty => isWhole.proper (.inl empty)
  cases negative with
  | true =>
      simp only [read?, if_true, front, if_neg isWhole.proper, point, mark,
        Option.bind_eq_bind, Option.bind_some]
      rfl
  | false =>
      have unsigned (tail : List Char) : whole ++ rest ≠ '-' :: tail :=
        digits_append_ne_cons whole rest tail '-' nonempty isWhole.allDigits (by decide)
      simp only [read?, Bool.false_eq_true, if_false, front, if_neg isWhole.proper, point, mark,
        Option.bind_eq_bind, Option.bind_some]
      rfl

theorem read?_intDigits (n : Int) :
    read? (intDigits n) = some ⟨n < 0, decimalDigits n.natAbs, none, none⟩ := by
  have read := read?_append (n < 0) (decimalDigits n.natAbs) [] [] none none
    (isWhole_decimalDigits n.natAbs) (by simp) rfl rfl
  simpa only [intDigits, List.append_nil, decide_eq_true_eq] using read

def pointed (negative : Bool) (n places : Nat) : NumberLiteral :=
  ⟨negative, decimalDigits (n / 10 ^ places),
    if places = 0 then none else some (paddedDigits places (n % 10 ^ places)), none⟩

theorem read?_pointDigits (negative : Bool) (n places : Nat) :
    read? (if negative then '-' :: pointDigits n places else pointDigits n places) =
      some (pointed negative n places) := by
  rw [pointDigits_eq]
  apply read?_append negative _ _ [] _ none (isWhole_decimalDigits _) (placesText_ends n places)
  · unfold placesText
    split
    · rfl
    · simpa using fraction?_digits (paddedDigits places (n % 10 ^ places)) []
        (paddedDigits_ne_nil _ _) (isDigit_of_mem_paddedDigits _ _) (by simp)
  · rfl

theorem magnitude_pointed (negative : Bool) (n places : Nat) :
    (pointed negative n places).magnitude = ⟨n, -places⟩ := by
  by_cases none : places = 0
  · subst none
    simp [pointed, magnitude, writtenExponent, ofDecimalDigits_decimalDigits]
  · have positive : 0 < places := Nat.pos_of_ne_zero none
    have digits : ofDecimalDigits
        (decimalDigits (n / 10 ^ places) ++ paddedDigits places (n % 10 ^ places)) = n := by
      have whole : Nat.ofDigitChars 10 (decimalDigits (n / 10 ^ places)) 0 = n / 10 ^ places :=
        ofDecimalDigits_decimalDigits _
      rw [ofDecimalDigits, Nat.ofDigitChars_append, whole, ofDigitChars_places n places positive]
    have length := length_paddedDigits places (n % 10 ^ places) positive
      (Nat.mod_lt n (Nat.pow_pos (by decide)))
    simp [pointed, magnitude, writtenExponent, none, digits, length]

theorem gatherWhole_of_lt (digits : List Char) (significand : Nat)
    (fits : Nat.ofDigitChars 10 digits significand < 2 ^ 64) :
    gatherWhole significand digits = ⟨Nat.ofDigitChars 10 digits significand, 0⟩ := by
  induction digits generalizing significand with
  | nil => rfl
  | cons digit rest ih =>
      rw [Nat.ofDigitChars_cons] at fits ⊢
      have next := le_ofDigitChars rest (10 * significand + (digit.toNat - '0'.toNat))
      rw [gatherWhole]
      rw [if_pos (Nat.lt_of_le_of_lt next fits), ih _ fits]

theorem gatherFraction_of_lt (digits : List Char) (gathered : Scientific)
    (fits : Nat.ofDigitChars 10 digits gathered.digits < 2 ^ 64) :
    gatherFraction gathered digits =
      ⟨Nat.ofDigitChars 10 digits gathered.digits, gathered.exponent - digits.length⟩ := by
  induction digits generalizing gathered with
  | nil => simp [gatherFraction]
  | cons digit rest ih =>
      rw [Nat.ofDigitChars_cons] at fits ⊢
      have next := le_ofDigitChars rest (10 * gathered.digits + (digit.toNat - '0'.toNat))
      rw [gatherFraction]
      rw [if_pos (Nat.lt_of_le_of_lt next fits), ih _ fits, List.length_cons]
      congr 1
      dsimp only
      omega

theorem gathered_eq_magnitude (literal : NumberLiteral)
    (fits : literal.magnitude.digits < 2 ^ 64) : literal.gathered = literal.magnitude := by
  simp only [magnitude, ofDecimalDigits, Nat.ofDigitChars_append] at fits
  have front := le_ofDigitChars (literal.fraction.getD [])
    (Nat.ofDigitChars 10 literal.whole 0)
  have whole := gatherWhole_of_lt literal.whole 0 (Nat.lt_of_le_of_lt front fits)
  rw [gathered]
  rw [whole, gatherFraction_of_lt _ _ fits]
  simp only [magnitude, ofDecimalDigits, Nat.ofDigitChars_append]
  congr 1
  omega

end QueryAlgebra.NumberLiteral
