import QueryAlgebra.Proofs.Decimal
import QueryAlgebra.Proofs.Json.Unique
import QueryAlgebra.Proofs.Uuid
import QueryAlgebra.Proofs.Value.Equality

/-!
Literal texts against literal equality. Different values of one type have different texts, but for a
leap second inside a minute and the second after it. So equal values have one text exactly if they
are the same value, and what equality leaves open is the sign of a zero and the number of places of a
decimal.
-/

namespace QueryAlgebra

namespace Value

def zeroSigns : Value → List Bool
  | real x => x.zeroSign?.toList
  | double x => x.zeroSign?.toList
  | json document => document.json.zeroSigns
  | _ => []

def scale? : Value → Option Nat
  | decimal d => some d.scale
  | _ => none

def decimalZeroSign? : Value → Option Bool
  | decimal d => d.zeroSign?
  | _ => none

theorem sql_carried (value : Value) : value.carried.sql = value.sql := by
  cases value with
  | timestamp t => rw [carried, sql, sql, t.text_carried]
  | _ => rfl

/-- The text of a value tells the value that it shows. -/
theorem sql_eq_iff_carried (a b : Value) (types : a.type = b.type) (left : a.isNan = false)
    (right : b.isNan = false) : a.sql = b.sql ↔ a.carried = b.carried := by
  have alike : a.carried = b.carried → a.sql = b.sql := by
    intro same
    rw [← a.sql_carried, ← b.sql_carried, same]
  refine ⟨?_, alike⟩
  intro same
  -- One kind of text for each type, the mixed cases excluded by the types.
  cases a <;> cases b <;> cases types
  case boolean.boolean x y => cases x <;> cases y <;> first | rfl | exact absurd same (by decide)
  case integer.integer x y =>
      have number := (intDigits_inj _ _).mp (String.ofList_injective same)
      exact congrArg integer (Int32.toInt_inj.mp number)
  case bigInt.bigInt x y =>
      have number := (intDigits_inj _ _).mp (String.ofList_injective same)
      exact congrArg bigInt (Int64.toInt_inj.mp number)
  case real.real x y =>
      exact congrArg real ((x.plainText_inj y left right).mp (String.ofList_injective same))
  case double.double x y =>
      exact congrArg double ((x.plainText_inj y left right).mp (String.ofList_injective same))
  case text.text s t => exact congrArg text same
  case json.json x y =>
      have tree := (x.json.text_inj y.json).mp (String.ofList_injective same)
      cases x
      cases y
      simp_all
  case uuid.uuid u v =>
      exact congrArg uuid ((u.text_inj v).mp (String.ofList_injective same))
  case timestamp.timestamp s t =>
      exact congrArg timestamp ((s.text_eq_iff t).mp (String.ofList_injective same))
  case decimal.decimal x y =>
      exact congrArg decimal ((x.text_inj y).mp (String.ofList_injective same))

theorem eq_iff_same (a b : Value) (number : a.isNan = false) :
    a = b ↔ a.same b = true ∧ a.zeroSigns = b.zeroSigns ∧ a.scale? = b.scale? ∧
      a.decimalZeroSign? = b.decimalZeroSign? := by
  constructor
  · rintro rfl
    exact ⟨a.same_self_iff.mpr number, rfl, rfl, rfl⟩
  · rintro ⟨equal, zeros, scale, decimalZero⟩
    cases equal_of_same a b equal with
    | boolean | integer | bigInt | text | uuid | timestamp => rfl
    | @real x y =>
        have signs : x.zeroSign? = y.zeroSign? := by
          simpa [zeroSigns] using congrArg List.head? zeros
        exact congrArg real (x.eq_of_same y equal signs)
    | @double x y =>
        have signs : x.zeroSign? = y.zeroSign? := by
          simpa [zeroSigns] using congrArg List.head? zeros
        exact congrArg double (x.eq_of_same y equal signs)
    | @json x y =>
        have tree := x.json.eq_of_same_of_zeroSigns y.json equal zeros
        cases x
        cases y
        simp_all
    | @decimal x y =>
        exact congrArg decimal (x.eq_of_same y equal (Option.some.inj scale) decimalZero)

theorem signs_of_carriesTo (a b : Value) (carries : a.CarriesTo b) :
    a.zeroSigns = b.zeroSigns ∧ a.scale? = b.scale? ∧
      a.decimalZeroSign? = b.decimalZeroSign? := by
  cases a with
  | timestamp s =>
      cases b with
      | timestamp t => exact ⟨rfl, rfl, rfl⟩
      | _ => exact carries.elim
  | _ => exact carries.elim

/-- Two values of one type that are no NaNs have one text if and only if they are equal, their
floating-point zeros have the same signs, and as decimals they have the same number of places and,
if they are zero, the same sign; or if one is a leap second inside a minute and the other one is the
second after it. -/
theorem sql_eq_iff_same (a b : Value) (types : a.type = b.type) (left : a.isNan = false)
    (right : b.isNan = false) :
    a.sql = b.sql ↔ (a.same b = true ∨ a.CarriesTo b ∨ b.CarriesTo a) ∧
      a.zeroSigns = b.zeroSigns ∧ a.scale? = b.scale? ∧
      a.decimalZeroSign? = b.decimalZeroSign? := by
  rw [sql_eq_iff_carried a b types left right, carried_eq_iff a b types, eq_iff_same a b left]
  constructor
  · rintro (⟨equal, signs⟩ | carries | carries)
    · exact ⟨.inl equal, signs⟩
    · exact ⟨.inr (.inl carries), a.signs_of_carriesTo b carries⟩
    · obtain ⟨zeros, scale, decimalZero⟩ := b.signs_of_carriesTo a carries
      exact ⟨.inr (.inr carries), zeros.symm, scale.symm, decimalZero.symm⟩
  · rintro ⟨equal | carries, signs⟩
    · exact .inl ⟨equal, signs⟩
    · exact .inr carries

/-- The two zeros of a float are equal and have different texts. -/
theorem sql_ne_of_zeroSign :
    (real (.ofBits .binary32 0x80000000)).same (real (.ofBits .binary32 0)) = true ∧
      (real (.ofBits .binary32 0x80000000)).sql ≠ (real (.ofBits .binary32 0)).sql := by
  refine ⟨by decide +kernel, ?_⟩
  intro same
  have agree := (sql_eq_iff_same (real (.ofBits .binary32 0x80000000)) (real (.ofBits .binary32 0))
    rfl (by decide +kernel) (by decide +kernel)).mp same
  exact absurd agree.2.1 (by decide +kernel)

/-- Texts show less than equality and more: a leap second inside a minute is written like the second
after it, and a decimal zero shows its sign. -/
theorem sql_same_mismatches :
    (¬∀ a b : Value, a.type = b.type → a.isNan = false → b.isNan = false →
        a.sql = b.sql → a.same b = true) ∧
      ¬∀ a b : Value, a.type = b.type → a.isNan = false → b.isNan = false →
        a.same b = true → a.zeroSigns = b.zeroSigns → a.scale? = b.scale? → a.sql = b.sql := by
  constructor
  · intro unique
    have equal := unique (timestamp innerLeapSecond)
      (timestamp ⟨⟨2015, 6, 30, by decide, by decide, by decide⟩,
        ⟨23, 56, 5, 333333333, by decide, by decide, by decide, by decide⟩⟩) rfl rfl rfl (by decide)
    exact absurd equal (by decide)
  · intro hidden
    have texts := hidden (decimal ⟨true, 0, 28, by decide, by decide⟩)
      (decimal ⟨false, 0, 28, by decide, by decide⟩) rfl rfl rfl (by decide) rfl rfl
    exact absurd texts (by decide +kernel)

end Value
end QueryAlgebra
