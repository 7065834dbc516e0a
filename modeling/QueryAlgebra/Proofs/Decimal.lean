import Mathlib.Algebra.Order.Field.Rat
import Mathlib.Tactic.FieldSimp
import QueryAlgebra.Decimal
import QueryAlgebra.Proofs.Text.Unique

/-!
The text of a decimal is read back with the same coefficient and the same number of places. Only the
sign of a zero is lost. The text shows that sign too, and with it all there is to a decimal; equality
is that of the numbers and leaves the places and the sign of a zero open.
-/

namespace QueryAlgebra

namespace Decimal

theorem unsigned?_digit (digitSeen pointSeen : Bool) (coefficient scale : Nat) (c : Char)
    (rest : List Char) (digit : c.isDigit = true)
    (fits : 10 * coefficient + (c.toNat - '0'.toNat) < 2 ^ 96) (room : scale < 28) :
    unsigned? digitSeen pointSeen coefficient scale (c :: rest) =
      unsigned? true pointSeen (10 * coefficient + (c.toNat - '0'.toNat))
        (if pointSeen then scale + 1 else scale) rest := by
  have notUnderscore : c ≠ '_' := by
    rintro rfl
    exact absurd digit (by decide)
  have notPoint : c ≠ '.' := by
    rintro rfl
    exact absurd digit (by decide)
  simp only [unsigned?, if_neg notUnderscore, if_neg notPoint, digit, fits, room]
  simp

theorem unsigned?_digits (digits rest : List Char) (digitSeen pointSeen : Bool)
    (coefficient scale : Nat) (allDigits : ∀ c ∈ digits, c.isDigit = true)
    (fits : Nat.ofDigitChars 10 digits coefficient < 2 ^ 96)
    (room : ∀ k < digits.length, (if pointSeen then scale + k else scale) < 28) :
    unsigned? digitSeen pointSeen coefficient scale (digits ++ rest) =
      unsigned? (digitSeen || digits ≠ []) pointSeen (Nat.ofDigitChars 10 digits coefficient)
        (if pointSeen then scale + digits.length else scale) rest := by
  induction digits generalizing digitSeen coefficient scale with
  | nil => simp
  | cons c digits ih =>
      rw [Nat.ofDigitChars_cons] at fits ⊢
      have next := le_ofDigitChars digits (10 * coefficient + (c.toNat - '0'.toNat))
      have here : scale < 28 := by
        simpa using room 0 (by simp)
      have after : ∀ k < digits.length,
          (if pointSeen then (if pointSeen then scale + 1 else scale) + k
            else if pointSeen then scale + 1 else scale) < 28 := by
        intro k member
        have later := room (k + 1) (by simpa using member)
        cases pointSeen
        · exact here
        · simp only [if_true] at later ⊢
          omega
      rw [List.cons_append, unsigned?_digit digitSeen pointSeen coefficient scale c _
        (allDigits c (by simp)) (by omega) here,
        ih true _ _ (fun d member => allDigits d (by simp [member])) fits after]
      cases pointSeen <;> simp [Nat.add_assoc, Nat.add_comm 1]

theorem unsigned?_pointDigits (n places : Nat) (small : n < 2 ^ 96) (few : places ≤ 28) :
    unsigned? false false 0 0 (pointDigits n places) = some (n, places) := by
  have wholeDigits := isDigit_of_mem_decimalDigits (n / 10 ^ places)
  have wholeValue : Nat.ofDigitChars 10 (decimalDigits (n / 10 ^ places)) 0 = n / 10 ^ places :=
    ofDecimalDigits_decimalDigits _
  have wholeFits : n / 10 ^ places < 2 ^ 96 := by
    have below := Nat.div_le_self n (10 ^ places)
    omega
  have whole (rest : List Char) :
      unsigned? false false 0 0 (decimalDigits (n / 10 ^ places) ++ rest) =
        unsigned? true false (n / 10 ^ places) 0 rest := by
    rw [unsigned?_digits _ rest false false 0 0 wholeDigits (by rw [wholeValue]; exact wholeFits)
      (by simp), wholeValue]
    simp [decimalDigits_ne_nil]
  rw [pointDigits, whole]
  by_cases none : places = 0
  · rw [if_pos none, none]
    simp [unsigned?]
  · have part : n % 10 ^ places < 10 ^ places := Nat.mod_lt n (Nat.pow_pos (by decide))
    have length := length_paddedDigits places (n % 10 ^ places) (by omega) part
    have digits := isDigit_of_mem_paddedDigits places (n % 10 ^ places)
    have value := ofDigitChars_places n places (by omega)
    have room : ∀ k < (paddedDigits places (n % 10 ^ places)).length,
        (if true then 0 + k else 0) < 28 := by
      intro k member
      rw [if_pos rfl]
      omega
    have run := unsigned?_digits _ [] true true (n / 10 ^ places) 0 digits
      (by rw [value]; exact small) room
    have point : unsigned? true false (n / 10 ^ places) 0
        ('.' :: paddedDigits places (n % 10 ^ places)) =
          unsigned? true true (n / 10 ^ places) 0 (paddedDigits places (n % 10 ^ places)) := by
      simp [unsigned?]
    rw [value, length, List.append_nil] at run
    rw [if_neg none, point, run]
    simp [unsigned?]

def plainZero (d : Decimal) : Decimal :=
  { d with negative := d.negative && d.digits ≠ 0 }

theorem coefficient_plainZero (d : Decimal) : d.plainZero.coefficient = d.coefficient := by
  by_cases zero : d.digits = 0
  · simp [plainZero, coefficient, zero]
  · simp [plainZero, coefficient, zero]

theorem signed?_pointDigits (d : Decimal) :
    signed? d.negative (pointDigits d.digits d.scale) = some d.plainZero := by
  rw [signed?, unsigned?_pointDigits d.digits d.scale d.digits_lt d.scale_le, Option.bind_eq_bind,
    Option.bind_some]
  exact dif_pos ⟨d.digits_lt, d.scale_le⟩

theorem ofPositional?_text (d : Decimal) : ofPositional? d.text = some d.plainZero := by
  have signed := d.signed?_pointDigits
  by_cases negative : d.negative
  · rw [text, if_pos negative, ofPositional?, ← negative, signed]
  · have unsigned (mark : Char) (tail : List Char) (other : mark.isDigit = false) :
        pointDigits d.digits d.scale ≠ mark :: tail :=
      digits_append_ne_cons _ _ tail mark (decimalDigits_ne_nil _) (isDigit_of_mem_decimalDigits _)
        other
    rw [text, if_neg negative]
    unfold ofPositional?
    split
    · rename_i tail minus
      exact absurd minus (unsigned '-' tail (by decide))
    · rename_i tail plus
      exact absurd plus (unsigned '+' tail (by decide))
    · rw [Bool.not_eq_true] at negative
      rw [← negative, signed]

theorem read?_text (d : Decimal) : read? d.text = some d.plainZero := by
  rw [read?, d.ofPositional?_text]
  rfl

theorem text_inj (a b : Decimal) : a.text = b.text ↔ a = b := by
  refine ⟨?_, congrArg text⟩
  intro same
  rw [text, text, signed_inj _ _ _ _ (pointDigits_ne_minus _ _) (pointDigits_ne_minus _ _),
    pointDigits_inj, ← Bool.eq_iff_iff] at same
  obtain ⟨negative, digits, scale⟩ := same
  cases a
  cases b
  simp_all

theorem natAbs_coefficient (d : Decimal) : d.coefficient.natAbs = d.digits := by
  unfold coefficient
  split
  · exact Int.natAbs_neg d.digits
  · rfl

theorem coefficient_neg_iff (d : Decimal) (nonzero : d.digits ≠ 0) :
    d.coefficient < 0 ↔ d.negative = true := by
  have positive : (0 : Int) < d.digits := by omega
  by_cases negative : d.negative = true
  · rw [coefficient, if_pos negative, iff_true_right negative]
    omega
  · rw [coefficient, if_neg negative, iff_false_right negative]
    omega

def zeroSign? (d : Decimal) : Option Bool :=
  if d.digits = 0 then some d.negative else none

theorem eq_of_same (a b : Decimal) (equal : a.same b = true) (scale : a.scale = b.scale)
    (signs : a.zeroSign? = b.zeroSign?) : a = b := by
  have stretch : (10 : Int) ^ b.scale ≠ 0 := pow_ne_zero _ (by decide)
  have coefficient : a.coefficient = b.coefficient := by
    have scaled : a.coefficient * 10 ^ b.scale = b.coefficient * 10 ^ b.scale := by
      rw [same, decide_eq_true_eq, scale] at equal
      exact equal
    exact mul_right_cancel₀ stretch scaled
  have digits : a.digits = b.digits := by
    rw [← a.natAbs_coefficient, coefficient, b.natAbs_coefficient]
  have negative : a.negative = b.negative := by
    by_cases zero : b.digits = 0
    · rw [zeroSign?, zeroSign?, if_pos (digits.trans zero), if_pos zero] at signs
      exact Option.some.inj signs
    · rw [Bool.eq_iff_iff, ← a.coefficient_neg_iff (digits ▸ zero), coefficient,
        b.coefficient_neg_iff zero]
  cases a
  cases b
  simp_all

def value (d : Decimal) : ℚ := d.coefficient / 10 ^ d.scale

theorem same_iff_value (a b : Decimal) : a.same b = true ↔ a.value = b.value := by
  have left : (10 : ℚ) ^ a.scale ≠ 0 := pow_ne_zero _ (by norm_num)
  have right : (10 : ℚ) ^ b.scale ≠ 0 := pow_ne_zero _ (by norm_num)
  rw [same, decide_eq_true_eq, value, value, div_eq_div_iff left right]
  norm_cast

end Decimal
end QueryAlgebra
