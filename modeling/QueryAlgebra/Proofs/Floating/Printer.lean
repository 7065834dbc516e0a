import QueryAlgebra.Floating.Printer
import QueryAlgebra.Proofs.Floating.Shortest
import QueryAlgebra.Proofs.Text.Unique

/-!
Different floats have different texts, as plain text and as JSON numbers: a text shows the sign and
the value of its decimal number, and the shortest decimal number of a float tells the float.
-/

namespace QueryAlgebra

namespace Scientific

theorem positional_eq (s : Scientific) :
    s.positional = pointDigits s.numerator (-s.exponent).toNat :=
  rfl

theorem value_eq (s : Scientific) : s.value = s.numerator / 10 ^ (-s.exponent).toNat := by
  rw [value, denominator, Nat.cast_pow, Nat.cast_ofNat]

theorem value_eq_of_positional (s t : Scientific) (same : s.positional = t.positional) :
    s.value = t.value := by
  rw [positional_eq, positional_eq, pointDigits_inj] at same
  rw [value_eq, value_eq, same.1, same.2]

def pointed (s : Scientific) : List Char :=
  s.positional ++ if 0 ≤ s.exponent then ".0".toList else []

theorem pointed_of_nonneg (s : Scientific) (whole : 0 ≤ s.exponent) :
    s.pointed = pointDigits (10 * s.numerator) 1 := by
  have none : (-s.exponent).toNat = 0 := by omega
  have zero : paddedDigits 1 0 = ['0'] := rfl
  rw [pointed, positional_eq, none, if_pos whole]
  simp [pointDigits, zero]

theorem pointed_of_neg (s : Scientific) (small : s.exponent < 0) :
    s.pointed = pointDigits s.numerator (-s.exponent).toNat := by
  rw [pointed, positional_eq, if_neg (not_le.mpr small), List.append_nil]

theorem pointed_eq (s : Scientific) :
    ∃ n places, s.pointed = pointDigits n places ∧ 0 < places ∧ s.value = n / 10 ^ places := by
  rcases le_or_gt 0 s.exponent with whole | small
  · refine ⟨10 * s.numerator, 1, s.pointed_of_nonneg whole, Nat.one_pos, ?_⟩
    have none : (-s.exponent).toNat = 0 := by omega
    rw [value_eq, none]
    push_cast
    ring
  · exact ⟨s.numerator, (-s.exponent).toNat, s.pointed_of_neg small, by omega, s.value_eq⟩

theorem value_eq_of_pointed (s t : Scientific) (same : s.pointed = t.pointed) :
    s.value = t.value := by
  obtain ⟨n, places, form, -, value⟩ := s.pointed_eq
  obtain ⟨m, places', form', -, value'⟩ := t.pointed_eq
  rw [form, form', pointDigits_inj] at same
  rw [value, value', same.1, same.2]

def mantissa : List Char → List Char
  | [] => []
  | [digit] => [digit]
  | digit :: rest => digit :: '.' :: rest

def leadingText (s : Scientific) : List Char :=
  (if s.leading < 0 then '-' else '+') :: decimalDigits s.leading.natAbs

theorem scientific_eq (s : Scientific) :
    s.scientific = mantissa (decimalDigits s.digits) ++ 'e' :: s.leadingText := by
  unfold scientific leadingText
  generalize decimalDigits s.digits = digits
  rcases digits with _ | ⟨first, _ | ⟨second, rest⟩⟩ <;> rfl

theorem isDigit_or_eq_point_of_mem_mantissa (digits : List Char)
    (allDigits : ∀ c ∈ digits, c.isDigit = true) (c : Char) (member : c ∈ mantissa digits) :
    c.isDigit = true ∨ c = '.' := by
  rcases digits with _ | ⟨first, _ | ⟨second, rest⟩⟩
  · cases member
  · exact .inl (allDigits c member)
  · rcases List.mem_cons.mp member with rfl | member
    · exact .inl (allDigits c (by simp))
    · rcases List.mem_cons.mp member with point | member
      · exact .inr point
      · exact .inl (allDigits c (List.mem_cons_of_mem first member))

theorem filter_mantissa (digits : List Char) (allDigits : ∀ c ∈ digits, c.isDigit = true) :
    (mantissa digits).filter Char.isDigit = digits := by
  have all : digits.filter Char.isDigit = digits := List.filter_eq_self.mpr allDigits
  rcases digits with _ | ⟨first, _ | ⟨second, rest⟩⟩
  · rfl
  · exact all
  · have point : Char.isDigit '.' = false := by decide
    calc
      (mantissa (first :: second :: rest)).filter Char.isDigit =
          (first :: second :: rest).filter Char.isDigit := by
        simp [mantissa, List.filter_cons, point]
      _ = first :: second :: rest := all

theorem mantissa_begins (n : Nat) :
    ∃ c rest, mantissa (decimalDigits n) = c :: rest ∧ c.isDigit = true := by
  obtain ⟨c, rest, form, digit⟩ := decimalDigits_begins n []
  rw [List.append_nil] at form
  rw [form]
  cases rest with
  | nil => exact ⟨c, [], rfl, digit⟩
  | cons second rest => exact ⟨c, '.' :: second :: rest, rfl, digit⟩

theorem leading_eq_of_leadingText (s t : Scientific) (same : s.leadingText = t.leadingText) :
    s.leading = t.leading := by
  obtain ⟨sign, size⟩ := List.cons.inj same
  rw [decimalDigits_inj] at size
  by_cases left : s.leading < 0
  · by_cases right : t.leading < 0
    · omega
    · rw [if_pos left, if_neg right] at sign
      exact absurd sign (by decide)
  · by_cases right : t.leading < 0
    · rw [if_neg left, if_pos right] at sign
      exact absurd sign (by decide)
    · omega

theorem ne_exponentMark (c : Char) (kind : c.isDigit = true ∨ c = '.') : c ≠ 'e' := by
  rintro rfl
  revert kind
  decide

theorem eq_of_scientific (s t : Scientific) (same : s.scientific = t.scientific) : s = t := by
  have digits := isDigit_of_mem_decimalDigits s.digits
  have digits' := isDigit_of_mem_decimalDigits t.digits
  have before (n : Nat) : ∀ c ∈ mantissa (decimalDigits n), (c ≠ 'e' : Bool) = true := by
    intro c member
    have kind := isDigit_or_eq_point_of_mem_mantissa _ (isDigit_of_mem_decimalDigits n) c member
    exact decide_eq_true (ne_exponentMark c kind)
  rw [scientific_eq, scientific_eq] at same
  obtain ⟨front, back⟩ := cut_inj (fun c => c ≠ 'e') (before s.digits) (before t.digits)
    (by simp) (by simp) same
  have written : decimalDigits s.digits = decimalDigits t.digits := by
    rw [← filter_mantissa _ digits, front, filter_mantissa _ digits']
  have leading := leading_eq_of_leadingText s t (List.cons.inj back).2
  have exponent : s.exponent = t.exponent := by
    simp only [Scientific.leading, written] at leading
    omega
  rw [decimalDigits_inj] at written
  cases s
  cases t
  simp_all

theorem pointed_ne_scientific (s t : Scientific) : s.pointed ≠ t.scientific := by
  obtain ⟨n, places, form, -, -⟩ := s.pointed_eq
  rw [form, scientific_eq]
  intro same
  have mark : 'e' ∈ pointDigits n places := by
    rw [same]
    simp
  exact ne_exponentMark 'e' (isDigit_or_eq_point_of_mem_pointDigits n places 'e' mark) rfl

end Scientific

namespace Floating

variable {format : FloatFormat}

def plainSize (x : Floating format) : List Char :=
  if x.isFinite then (format.shortest .up x.magnitude).positional else "inf".toList

theorem plainText_eq (x : Floating format) (number : x.isNan = false) :
    x.plainText = if x.negative then '-' :: x.plainSize else x.plainSize := by
  rw [plainText, number, if_neg Bool.false_ne_true, plainSize]
  split <;> rfl

theorem plainSize_ne_minus (x : Floating format) (rest : List Char) :
    x.plainSize ≠ '-' :: rest := by
  unfold plainSize
  split
  · exact pointDigits_ne_minus _ _ rest
  · intro same
    exact absurd (List.cons.inj same).1 (by decide)

theorem magnitude_eq_infinity (x : Floating format) (number : x.isNan = false)
    (infinite : ¬x.isFinite) : x.magnitude.val = format.infinity := by
  simp only [isNan, isFinite, decide_eq_true_eq, decide_eq_false_iff_not] at number infinite
  omega

theorem positional_ne_infinity (s : Scientific) : s.positional ≠ "inf".toList := by
  exact digits_append_ne_cons _ _ _ 'i' (decimalDigits_ne_nil _) (isDigit_of_mem_decimalDigits _)
    (by decide)

theorem magnitude_eq_of_plainSize (x y : Floating format) (left : x.isNan = false)
    (right : y.isNan = false) (same : x.plainSize = y.plainSize) :
    x.magnitude.val = y.magnitude.val := by
  unfold plainSize at same
  split at same
  · split at same
    · exact format.rank_eq_of_shortest .up .up _ _ (Scientific.value_eq_of_positional _ _ same)
    · exact absurd same (positional_ne_infinity _)
  · rename_i infinite
    split at same
    · exact absurd same.symm (positional_ne_infinity _)
    · rename_i infinite'
      rw [x.magnitude_eq_infinity left infinite, y.magnitude_eq_infinity right infinite']

theorem plainText_inj (x y : Floating format) (left : x.isNan = false) (right : y.isNan = false) :
    x.plainText = y.plainText ↔ x = y := by
  refine ⟨?_, congrArg plainText⟩
  intro same
  rw [x.plainText_eq left, y.plainText_eq right,
    signed_inj _ _ _ _ x.plainSize_ne_minus y.plainSize_ne_minus] at same
  rw [ext_iff]
  exact ⟨Bool.eq_iff_iff.mpr same.1, x.magnitude_eq_of_plainSize y left right same.2⟩

def jsonSize (x : Floating format) : List Char :=
  let s := format.shortest .even x.magnitude
  if format.jsonWindow.least ≤ s.leading ∧ s.leading ≤ format.jsonWindow.greatest then s.pointed
  else s.scientific

theorem jsonText_eq (x : Floating format) (finite : x.isFinite) :
    x.jsonText = if x.negative then '-' :: x.jsonSize else x.jsonSize := by
  rw [jsonText, if_pos finite]
  rfl

theorem jsonSize_cases (x : Floating format) :
    x.jsonSize = (format.shortest .even x.magnitude).pointed ∨
      x.jsonSize = (format.shortest .even x.magnitude).scientific := by
  unfold jsonSize
  dsimp only
  split
  · exact .inl rfl
  · exact .inr rfl

theorem magnitude_eq_of_jsonSize (x y : Floating format) (same : x.jsonSize = y.jsonSize) :
    x.magnitude.val = y.magnitude.val := by
  apply format.rank_eq_of_shortest .even .even
  rcases x.jsonSize_cases with left | left
  · rcases y.jsonSize_cases with right | right
    · rw [left, right] at same
      exact Scientific.value_eq_of_pointed _ _ same
    · rw [left, right] at same
      exact absurd same (Scientific.pointed_ne_scientific _ _)
  · rcases y.jsonSize_cases with right | right
    · rw [left, right] at same
      exact absurd same.symm (Scientific.pointed_ne_scientific _ _)
    · rw [left, right] at same
      rw [Scientific.eq_of_scientific _ _ same]

theorem jsonSize_begins (x : Floating format) :
    ∃ c rest, x.jsonSize = c :: rest ∧ c.isDigit = true := by
  rcases x.jsonSize_cases with form | form
  · obtain ⟨n, places, pointed, -, -⟩ := (format.shortest .even x.magnitude).pointed_eq
    rw [form, pointed, pointDigits_eq]
    exact decimalDigits_begins _ _
  · obtain ⟨c, rest, mantissa, digit⟩ :=
      Scientific.mantissa_begins (format.shortest .even x.magnitude).digits
    rw [form, Scientific.scientific_eq, mantissa]
    exact ⟨c, _, rfl, digit⟩

theorem jsonSize_ne_minus (x : Floating format) (rest : List Char) : x.jsonSize ≠ '-' :: rest := by
  obtain ⟨c, tail, form, digit⟩ := x.jsonSize_begins
  rw [form]
  rintro same
  rw [(List.cons.inj same).1] at digit
  revert digit
  decide

theorem exists_mark_of_jsonSize (x : Floating format) : ∃ c ∈ x.jsonSize, c = '.' ∨ c = 'e' := by
  rcases x.jsonSize_cases with form | form
  · obtain ⟨n, places, pointed, positive, -⟩ := (format.shortest .even x.magnitude).pointed_eq
    rw [form, pointed, pointDigits_eq, placesText, if_neg (Nat.ne_of_gt positive)]
    exact ⟨'.', by simp, .inl rfl⟩
  · rw [form, Scientific.scientific_eq]
    exact ⟨'e', by simp, .inr rfl⟩

theorem jsonText_inj (x y : Floating format) (left : x.isFinite) (right : y.isFinite) :
    x.jsonText = y.jsonText ↔ x = y := by
  refine ⟨?_, congrArg jsonText⟩
  intro same
  rw [x.jsonText_eq left, y.jsonText_eq right,
    signed_inj _ _ _ _ x.jsonSize_ne_minus y.jsonSize_ne_minus] at same
  rw [ext_iff]
  exact ⟨Bool.eq_iff_iff.mpr same.1, x.magnitude_eq_of_jsonSize y same.2⟩

end Floating
end QueryAlgebra
