import QueryAlgebra.Proofs.Decimal
import QueryAlgebra.Proofs.Json.Equality
import QueryAlgebra.Proofs.Timestamp
import QueryAlgebra.Value

/-!
Equality of literal values. It is the equality a reader of the types expects, it is symmetric and
transitive, and the only values that differ from themselves are NaNs. A leap second inside a minute
differs from the second after it, although both are written alike.
-/

namespace QueryAlgebra

namespace Value

/-- Values of different types are never equal. Floats are equal as the standard for floats has it,
documents structurally, decimals as numbers whatever their scales, and all others if they are the
same. -/
inductive Equal : Value → Value → Prop where
  | boolean (value : Bool) : Equal (boolean value) (boolean value)
  | integer (value : Int32) : Equal (integer value) (integer value)
  | bigInt (value : Int64) : Equal (bigInt value) (bigInt value)
  | real {x y : Binary32} (equal : x.Equal y) : Equal (real x) (real y)
  | double {x y : Binary64} (equal : x.Equal y) : Equal (double x) (double y)
  | text (value : String) : Equal (text value) (text value)
  | json {a b : Document} (equal : a.json.Equal b.json) : Equal (json a) (json b)
  | uuid (value : Uuid) : Equal (uuid value) (uuid value)
  | timestamp (value : Timestamp) : Equal (timestamp value) (timestamp value)
  | decimal {a b : Decimal} (equal : a.value = b.value) : Equal (decimal a) (decimal b)

theorem same_of_equal (a b : Value) (equal : a.Equal b) : a.same b = true := by
  cases equal with
  | boolean | integer | bigInt | text | uuid | timestamp => exact decide_eq_true rfl
  | real equal => exact (Floating.same_iff_equal (by decide) _ _).mpr equal
  | double equal => exact (Floating.same_iff_equal (by decide) _ _).mpr equal
  | json equal => exact (Document.same_iff_equal _ _).mpr equal
  | decimal equal => exact (Decimal.same_iff_value _ _).mpr equal

theorem equal_of_same (a b : Value) (equal : a.same b = true) : a.Equal b := by
  have types := type_eq_of_same a b equal
  cases a <;> cases b <;> cases types
  case boolean.boolean x y => exact of_decide_eq_true equal ▸ .boolean x
  case integer.integer x y => exact of_decide_eq_true equal ▸ .integer x
  case bigInt.bigInt x y => exact of_decide_eq_true equal ▸ .bigInt x
  case real.real x y => exact .real ((Floating.same_iff_equal (by decide) x y).mp equal)
  case double.double x y => exact .double ((Floating.same_iff_equal (by decide) x y).mp equal)
  case text.text x y => exact of_decide_eq_true equal ▸ .text x
  case json.json x y => exact .json ((Document.same_iff_equal x y).mp equal)
  case uuid.uuid x y => exact of_decide_eq_true equal ▸ .uuid x
  case timestamp.timestamp x y => exact of_decide_eq_true equal ▸ .timestamp x
  case decimal.decimal x y => exact .decimal ((Decimal.same_iff_value x y).mp equal)

theorem same_iff_equal (a b : Value) : a.same b = true ↔ a.Equal b :=
  ⟨equal_of_same a b, same_of_equal a b⟩

theorem same_symm (a b : Value) (equal : a.same b) : b.same a := by
  cases equal_of_same a b equal with
  | boolean | integer | bigInt | text | uuid | timestamp => exact equal
  | @real x y => exact (x.same_comm y).symm.trans equal
  | @double x y => exact (x.same_comm y).symm.trans equal
  | @json x y => exact x.json.same_symm y.json equal
  | @decimal x y number => exact (y.same_iff_value x).mpr number.symm

theorem same_trans (a b c : Value) (first : a.same b) (second : b.same c) : a.same c := by
  cases equal_of_same a b first with
  | boolean | integer | bigInt | text | uuid | timestamp => exact second
  | @real x y =>
      cases c with
      | real z => exact x.same_trans y z first second
      | _ => cases second
  | @double x y =>
      cases c with
      | double z => exact x.same_trans y z first second
      | _ => cases second
  | @json x y =>
      cases c with
      | json z => exact x.json.same_trans y.json z.json first second
      | _ => cases second
  | @decimal x y number =>
      cases c with
      | decimal z => exact (x.same_iff_value z).mpr (number.trans ((y.same_iff_value z).mp second))
      | _ => cases second

def isNan : Value → Bool
  | real x => x.isNan
  | double x => x.isNan
  | _ => false

theorem same_self_iff (a : Value) : a.same a = true ↔ a.isNan = false := by
  cases a with
  | boolean | integer | bigInt | text | uuid | timestamp => simp [same, isNan]
  | real x => simp [same, isNan, x.same_self]
  | double x => simp [same, isNan, x.same_self]
  | json document => simpa [same, isNan, Document.same] using document.json.same_self
  | decimal d => simp [same, isNan, Decimal.same]

/-! Leap seconds inside a minute. -/

def Overfull : Value → Prop
  | timestamp t => t.Overfull
  | _ => False

def CarriesTo : Value → Value → Prop
  | timestamp t, timestamp later => t.CarriesTo later
  | _, _ => False

/-- The value that the text of a timestamp shows; other values are as they are. -/
def carried : Value → Value
  | timestamp t => timestamp t.carried
  | value => value

theorem carried_eq_iff (a b : Value) (types : a.type = b.type) :
    a.carried = b.carried ↔ a = b ∨ a.CarriesTo b ∨ b.CarriesTo a := by
  cases a <;> cases b <;> cases types
  case timestamp.timestamp s t => simp [carried, CarriesTo, s.carried_eq_iff t]
  all_goals simp [carried, CarriesTo]

theorem carried_of_not_overfull (value : Value) (regular : ¬value.Overfull) :
    value.carried = value := by
  cases value with
  | timestamp t =>
      have shown : t.time.carried = t.time := t.time.carried_of_not_overfull regular
      rw [carried, Timestamp.carried, shown]
  | _ => rfl

theorem carriesTo_carried (value : Value) (overfull : value.Overfull) :
    value.CarriesTo value.carried := by
  cases value with
  | timestamp t => exact ⟨rfl, t.time.carriesTo_carried overfull⟩
  | _ => exact overfull.elim

def innerLeapSecond : Timestamp :=
  ⟨⟨2015, 6, 30, by decide, by decide, by decide⟩,
    ⟨23, 56, 4, 1333333333, by decide, by decide, by decide, by decide⟩⟩

end Value
end QueryAlgebra
