import QueryAlgebra.Proofs.Text.Numeral
import QueryAlgebra.Uuid

/-!
The text of an identifier is read back as the identifier, so different ones have different texts.
-/

namespace QueryAlgebra
namespace Uuid

theorem length_hyphenate (widths : List Nat) (digits : List Char) (nonempty : widths ≠ [])
    (exact : digits.length = widths.sum) :
    (hyphenate widths digits).length + 1 = widths.sum + widths.length := by
  induction widths generalizing digits with
  | nil => exact absurd rfl nonempty
  | cons width widths ih =>
      rw [List.sum_cons] at exact
      cases widths with
      | nil =>
          have fits : digits.length = width := by simpa using exact
          simp [hyphenate, fits]
      | cons next widths =>
          have after := ih (digits.drop width) (by simp) (by rw [List.length_drop]; omega)
          simp only [hyphenate, List.length_append, List.length_take, List.length_cons,
            List.sum_cons] at after exact ⊢
          omega

theorem unhyphenate?_hyphenate (widths : List Nat) (digits : List Char)
    (exact : digits.length = widths.sum) :
    unhyphenate? widths (hyphenate widths digits) = some digits := by
  induction widths generalizing digits with
  | nil =>
      have none : digits = [] := List.eq_nil_of_length_eq_zero exact
      rw [none]
      rfl
  | cons width widths ih =>
      rw [List.sum_cons] at exact
      cases widths with
      | nil =>
          have fits : digits.length = width := by simpa using exact
          simp [hyphenate, unhyphenate?, ← fits]
      | cons next widths =>
          have after := ih (digits.drop width) (by rw [List.length_drop]; omega)
          have group : (digits.take width).length = width := by
            rw [List.length_take]
            omega
          rw [hyphenate, unhyphenate?, List.drop_left' group, List.take_left' group]
          · simp only [after, Option.map_some, List.take_append_drop]
          · simp
          · simp

theorem length_digits (uuid : Uuid) : uuid.digits.length = 32 :=
  length_hexDigits 32 uuid.number

theorem length_text (uuid : Uuid) : uuid.text.length = 36 := by
  have length := length_hyphenate groups uuid.digits (by decide) uuid.length_digits
  have total : groups.sum + groups.length = 37 := rfl
  rw [text]
  omega

theorem ofDigits?_digits (uuid : Uuid) : ofDigits? uuid.digits = some uuid := by
  have whole : (uuid.number : Nat) % 16 ^ 32 = uuid.number :=
    Nat.mod_eq_of_lt uuid.number.isLt
  have same : ofNat uuid.number = uuid := by
    simp [ofNat]
  rw [ofDigits?, if_pos uuid.length_digits, digits, ofHexDigits?_hexDigits, whole, Option.map_some,
    same]

theorem read?_text (uuid : Uuid) : read? uuid.text = some uuid := by
  have length := uuid.length_text
  have notPlain : uuid.text.length ≠ 32 := by
    rw [length]
    decide
  have grouped : unhyphenate? groups uuid.text = some uuid.digits :=
    unhyphenate?_hyphenate groups _ uuid.length_digits
  unfold read?
  rw [if_neg notPlain, if_pos length, ofHyphenated?, grouped, Option.bind_eq_bind,
    Option.bind_some]
  exact uuid.ofDigits?_digits

theorem text_inj (u v : Uuid) : u.text = v.text ↔ u = v := by
  refine ⟨?_, congrArg text⟩
  intro same
  have read : some u = some v := by
    rw [← u.read?_text, ← v.read?_text, same]
  exact Option.some.inj read

end Uuid
end QueryAlgebra
