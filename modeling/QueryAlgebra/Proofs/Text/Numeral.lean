import Mathlib.Data.List.TakeDrop
import Mathlib.Tactic.IntervalCases
import QueryAlgebra.Text.Numeral

/-!
Reading numerals back: what decimal and hexadecimal digits look like, how many there are, and the
number they denote.
-/

namespace QueryAlgebra

theorem isDigit_of_mem_decimalDigits (n : Nat) (c : Char) (member : c ∈ decimalDigits n) :
    c.isDigit = true :=
  Nat.isDigit_of_mem_toDigits (by decide) (by decide) member

theorem decimalDigits_ne_nil (n : Nat) : decimalDigits n ≠ [] :=
  Nat.toDigits_ne_nil

theorem head?_decimalDigits (n : Nat) (zeroFirst : (decimalDigits n).head? = some '0') : n = 0 := by
  induction n using Nat.strongRecOn with
  | ind n ih =>
      by_cases small : n < 10
      · rw [decimalDigits, Nat.toDigits_of_lt_base small] at zeroFirst
        have digit : n.digitChar = '0' := by simpa using zeroFirst
        revert digit
        interval_cases n <;> decide
      · have split : decimalDigits n = decimalDigits (n / 10) ++ [(n % 10).digitChar] :=
          Nat.toDigits_of_base_le (by decide) (by omega)
        have front : (decimalDigits (n / 10)).head?.isSome := by simp [decimalDigits_ne_nil]
        rw [split, List.head?_append, Option.or_of_isSome front] at zeroFirst
        have shorter := ih (n / 10) (by omega) zeroFirst
        omega

theorem length_decimalDigits_le (width n : Nat) (positive : 0 < width) (small : n < 10 ^ width) :
    (decimalDigits n).length ≤ width :=
  (Nat.length_toDigits_le_iff (by decide) positive).mpr small

theorem lt_pow_length_decimalDigits (n : Nat) : n < 10 ^ (decimalDigits n).length :=
  (Nat.length_toDigits_le_iff (by decide) (List.length_pos_iff.mpr (decimalDigits_ne_nil n))).mp
    le_rfl

theorem isDigit_of_mem_paddedDigits (width n : Nat) (c : Char) (member : c ∈ paddedDigits width n) :
    c.isDigit = true := by
  rcases List.mem_append.mp member with zero | digit
  · rw [List.eq_of_mem_replicate zero]
    decide
  · exact isDigit_of_mem_decimalDigits n c digit

theorem paddedDigits_ne_nil (width n : Nat) : paddedDigits width n ≠ [] := by
  simp [paddedDigits, decimalDigits_ne_nil]

theorem length_paddedDigits (width n : Nat) (positive : 0 < width) (small : n < 10 ^ width) :
    (paddedDigits width n).length = width := by
  have fits := length_decimalDigits_le width n positive small
  simp only [paddedDigits, List.length_append, List.length_replicate]
  omega

theorem ofDecimalDigits_paddedDigits (width n : Nat) :
    ofDecimalDigits (paddedDigits width n) = n := by
  rw [paddedDigits, ofDecimalDigits, Nat.ofDigitChars_append, Nat.ofDigitChars_replicate_zero,
    Nat.mul_zero]
  exact ofDecimalDigits_decimalDigits n

theorem ofDigitChars_places (n places : Nat) (positive : 0 < places) :
    Nat.ofDigitChars 10 (paddedDigits places (n % 10 ^ places)) (n / 10 ^ places) = n := by
  have part : n % 10 ^ places < 10 ^ places := Nat.mod_lt n (Nat.pow_pos (by decide))
  have value : Nat.ofDigitChars 10 (paddedDigits places (n % 10 ^ places)) 0 = n % 10 ^ places :=
    ofDecimalDigits_paddedDigits places _
  calc
    Nat.ofDigitChars 10 (paddedDigits places (n % 10 ^ places)) (n / 10 ^ places) =
        10 ^ (paddedDigits places (n % 10 ^ places)).length * (n / 10 ^ places) +
          n % 10 ^ places := by
      rw [Nat.ofDigitChars_eq_ofDigitChars_zero, value]
    _ = 10 ^ places * (n / 10 ^ places) + n % 10 ^ places := by
      rw [length_paddedDigits places _ positive part]
    _ = n := Nat.div_add_mod n (10 ^ places)

theorem le_ofDigitChars (digits : List Char) (start : Nat) :
    start ≤ Nat.ofDigitChars 10 digits start := by
  induction digits generalizing start with
  | nil => simp
  | cons c digits ih =>
      rw [Nat.ofDigitChars_cons]
      calc
        start ≤ 10 * start + (c.toNat - '0'.toNat) := by omega
        _ ≤ _ := ih _

theorem spanDigits_append (digits rest : List Char) (allDigits : ∀ c ∈ digits, c.isDigit = true)
    (ends : ∀ c ∈ rest.head?, c.isDigit = false) :
    spanDigits (digits ++ rest) = (digits, rest) := by
  rw [spanDigits, List.span_eq_takeWhile_dropWhile, List.takeWhile_append_of_pos allDigits,
    List.dropWhile_append_of_pos allDigits]
  cases rest with
  | nil => simp
  | cons c tail =>
      have other : c.isDigit = false := ends c rfl
      simp [other]

theorem spanDigits_digits (digits : List Char) (allDigits : ∀ c ∈ digits, c.isDigit = true) :
    spanDigits digits = (digits, []) := by
  simpa using spanDigits_append digits [] allDigits (by simp)

theorem digits_append_ne_cons (digits rest tail : List Char) (mark : Char) (nonempty : digits ≠ [])
    (allDigits : ∀ c ∈ digits, c.isDigit = true) (other : mark.isDigit = false) :
    digits ++ rest ≠ mark :: tail := by
  cases digits with
  | nil => exact absurd rfl nonempty
  | cons c digits =>
      intro same
      have first : c = mark := (List.cons.inj same).1
      have digit := allDigits c (by simp)
      rw [first, other] at digit
      cases digit

theorem length_hexDigits (width n : Nat) : (hexDigits width n).length = width := by
  induction width generalizing n with
  | zero => rfl
  | succ width ih => simp [hexDigits, ih]

theorem hexValue?_digitChar (digit : Nat) (small : digit < 16) :
    hexValue? digit.digitChar = some digit := by
  interval_cases digit <;> rfl

theorem ofHexDigits?_hexDigits (width n : Nat) :
    ofHexDigits? (hexDigits width n) = some (n % 16 ^ width) := by
  induction width generalizing n with
  | zero => simp [hexDigits, ofHexDigits?, Nat.mod_one]
  | succ width ih =>
      have last := hexValue?_digitChar (n % 16) (Nat.mod_lt n (by decide))
      have front : List.foldlM _ 0 (hexDigits width (n / 16)) = _ := ih (n / 16)
      have digits : 16 * (n / 16 % 16 ^ width) + n % 16 = n % 16 ^ (width + 1) := by
        rw [Nat.pow_succ, Nat.mul_comm (16 ^ width) 16, Nat.mod_mul, Nat.add_comm]
      rw [ofHexDigits?, hexDigits, List.foldlM_append, front]
      simp [last, digits]

theorem hexNumeral_of_lt (n : Nat) (small : n < 16) : hexNumeral n = [n.digitChar] :=
  Nat.toDigits_of_lt_base small

theorem hexNumeral_of_le (n : Nat) (large : 16 ≤ n) :
    hexNumeral n = hexNumeral (n / 16) ++ [(n % 16).digitChar] :=
  Nat.toDigits_of_base_le (by decide) large

theorem ofHexDigits?_hexNumeral (n : Nat) : ofHexDigits? (hexNumeral n) = some n := by
  induction n using Nat.strongRecOn with
  | ind n ih =>
      by_cases small : n < 16
      · simp [hexNumeral_of_lt n small, ofHexDigits?, hexValue?_digitChar n small]
      · have front : List.foldlM _ 0 (hexNumeral (n / 16)) = some (n / 16) := ih (n / 16) (by omega)
        have last := hexValue?_digitChar (n % 16) (Nat.mod_lt n (by decide))
        rw [hexNumeral_of_le n (by omega), ofHexDigits?, List.foldlM_append, front]
        simp [last, Nat.div_add_mod]

theorem isSome_hexValue?_of_mem_hexNumeral (n : Nat) (c : Char) (member : c ∈ hexNumeral n) :
    (hexValue? c).isSome = true := by
  induction n using Nat.strongRecOn with
  | ind n ih =>
      by_cases small : n < 16
      · rw [hexNumeral_of_lt n small, List.mem_singleton] at member
        rw [member, hexValue?_digitChar n small]
        rfl
      · rw [hexNumeral_of_le n (by omega), List.mem_append, List.mem_singleton] at member
        rcases member with front | rfl
        · exact ih (n / 16) (by omega) front
        · rw [hexValue?_digitChar (n % 16) (Nat.mod_lt n (by decide))]
          rfl

end QueryAlgebra
