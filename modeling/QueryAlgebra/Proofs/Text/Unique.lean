import QueryAlgebra.Proofs.Text.Numeral

/-!
Numerals of different numbers are different texts, also numerals with a sign and numerals with
places after a point, where the number of places shows too.
-/

namespace QueryAlgebra

theorem takeWhile_front (inside : Char → Bool) (front rest : List Char)
    (all : ∀ c ∈ front, inside c = true) (ends : ∀ c ∈ rest.head?, inside c = false) :
    (front ++ rest).takeWhile inside = front := by
  rw [List.takeWhile_append_of_pos all]
  cases rest with
  | nil => simp
  | cons c rest => simp [ends c rfl]

theorem cut_inj (inside : Char → Bool) {front front' rest rest' : List Char}
    (all : ∀ c ∈ front, inside c = true) (all' : ∀ c ∈ front', inside c = true)
    (ends : ∀ c ∈ rest.head?, inside c = false) (ends' : ∀ c ∈ rest'.head?, inside c = false)
    (same : front ++ rest = front' ++ rest') : front = front' ∧ rest = rest' := by
  have fronts : front = front' := by
    calc
      front = (front ++ rest).takeWhile inside := (takeWhile_front inside front rest all ends).symm
      _ = (front' ++ rest').takeWhile inside := by rw [same]
      _ = front' := takeWhile_front inside front' rest' all' ends'
  subst fronts
  exact ⟨rfl, List.append_cancel_left same⟩

theorem decimalDigits_inj (n m : Nat) : decimalDigits n = decimalDigits m ↔ n = m := by
  refine ⟨?_, congrArg decimalDigits⟩
  intro same
  calc
    n = ofDecimalDigits (decimalDigits n) := (ofDecimalDigits_decimalDigits n).symm
    _ = ofDecimalDigits (decimalDigits m) := by rw [same]
    _ = m := ofDecimalDigits_decimalDigits m

theorem paddedDigits_inj (width n m : Nat) : paddedDigits width n = paddedDigits width m ↔ n = m := by
  refine ⟨?_, congrArg (paddedDigits width)⟩
  intro same
  calc
    n = ofDecimalDigits (paddedDigits width n) := (ofDecimalDigits_paddedDigits width n).symm
    _ = ofDecimalDigits (paddedDigits width m) := by rw [same]
    _ = m := ofDecimalDigits_paddedDigits width m

theorem signed_inj (negative negative' : Prop) [Decidable negative] [Decidable negative']
    (text text' : List Char) (plain : ∀ rest, text ≠ '-' :: rest)
    (plain' : ∀ rest, text' ≠ '-' :: rest) :
    (if negative then '-' :: text else text) = (if negative' then '-' :: text' else text') ↔
      (negative ↔ negative') ∧ text = text' := by
  by_cases left : negative
  · by_cases right : negative'
    · simp [left, right]
    · have differ : '-' :: text ≠ text' := (plain' text).symm
      simp [left, right, differ]
  · by_cases right : negative'
    · have differ : text ≠ '-' :: text' := plain text'
      simp [left, right, differ]
    · simp [left, right]

theorem decimalDigits_begins (n : Nat) (rest : List Char) :
    ∃ c tail, decimalDigits n ++ rest = c :: tail ∧ c.isDigit = true := by
  obtain ⟨c, digits, form⟩ := List.exists_cons_of_ne_nil (decimalDigits_ne_nil n)
  have digit : c.isDigit = true := isDigit_of_mem_decimalDigits n c (by simp [form])
  exact ⟨c, digits ++ rest, by rw [form]; rfl, digit⟩

theorem decimalDigits_append_ne_minus (n : Nat) (rest tail : List Char) :
    decimalDigits n ++ rest ≠ '-' :: tail :=
  digits_append_ne_cons _ rest tail '-' (decimalDigits_ne_nil n) (isDigit_of_mem_decimalDigits n)
    (by decide)

theorem intDigits_inj (n m : Int) : intDigits n = intDigits m ↔ n = m := by
  have plain (k : Int) (rest : List Char) : decimalDigits k.natAbs ≠ '-' :: rest := by
    simpa using decimalDigits_append_ne_minus k.natAbs [] rest
  rw [intDigits, intDigits, signed_inj _ _ _ _ (plain n) (plain m), decimalDigits_inj]
  omega

def placesText (n places : Nat) : List Char :=
  if places = 0 then [] else '.' :: paddedDigits places (n % 10 ^ places)

theorem pointDigits_eq (n places : Nat) :
    pointDigits n places = decimalDigits (n / 10 ^ places) ++ placesText n places :=
  rfl

theorem placesText_ends (n places : Nat) : ∀ c ∈ (placesText n places).head?, c.isDigit = false := by
  intro c member
  unfold placesText at member
  split at member
  · cases member
  · cases member
    decide

theorem placesText_inj (n m places places' : Nat) :
    placesText n places = placesText m places' ↔
      places = places' ∧ n % 10 ^ places = m % 10 ^ places' := by
  by_cases none : places = 0
  · by_cases none' : places' = 0
    · simp [placesText, none, none', Nat.mod_one]
    · simp [placesText, none, none', Ne.symm none']
  · by_cases none' : places' = 0
    · simp [placesText, none, none']
    · rw [placesText, placesText, if_neg none, if_neg none', List.cons.injEq]
      constructor
      · rintro ⟨-, same⟩
        have part := Nat.mod_lt n (Nat.pow_pos (n := places) (show 0 < 10 by decide))
        have part' := Nat.mod_lt m (Nat.pow_pos (n := places') (show 0 < 10 by decide))
        have length : places = places' := by
          calc
            places = (paddedDigits places (n % 10 ^ places)).length :=
              (length_paddedDigits places _ (by omega) part).symm
            _ = (paddedDigits places' (m % 10 ^ places')).length := by rw [same]
            _ = places' := length_paddedDigits places' _ (by omega) part'
        subst length
        exact ⟨rfl, (paddedDigits_inj places _ _).mp same⟩
      · rintro ⟨rfl, same⟩
        rw [same]
        exact ⟨rfl, rfl⟩

theorem pointDigits_inj (n m places places' : Nat) :
    pointDigits n places = pointDigits m places' ↔ n = m ∧ places = places' := by
  constructor
  · intro same
    rw [pointDigits_eq, pointDigits_eq] at same
    obtain ⟨whole, part⟩ := cut_inj Char.isDigit (isDigit_of_mem_decimalDigits _)
      (isDigit_of_mem_decimalDigits _) (placesText_ends n places) (placesText_ends m places') same
    obtain ⟨rfl, rest⟩ := (placesText_inj n m places places').mp part
    refine ⟨?_, rfl⟩
    calc
      n = 10 ^ places * (n / 10 ^ places) + n % 10 ^ places := (Nat.div_add_mod n _).symm
      _ = 10 ^ places * (m / 10 ^ places) + m % 10 ^ places := by
        rw [(decimalDigits_inj _ _).mp whole, rest]
      _ = m := Nat.div_add_mod m _
  · rintro ⟨rfl, rfl⟩
    rfl

theorem pointDigits_ne_minus (n places : Nat) (rest : List Char) :
    pointDigits n places ≠ '-' :: rest :=
  decimalDigits_append_ne_minus _ (placesText n places) rest

theorem isDigit_or_eq_point_of_mem_pointDigits (n places : Nat) (c : Char)
    (member : c ∈ pointDigits n places) : c.isDigit = true ∨ c = '.' := by
  rw [pointDigits_eq, List.mem_append] at member
  rcases member with digit | place
  · exact .inl (isDigit_of_mem_decimalDigits _ c digit)
  · unfold placesText at place
    split at place
    · cases place
    · rcases List.mem_cons.mp place with point | digit
      · exact .inr point
      · exact .inl (isDigit_of_mem_paddedDigits _ _ c digit)

end QueryAlgebra
