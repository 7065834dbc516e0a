import QueryAlgebra.Proofs.Expr.Equality
import QueryAlgebra.TypedExpr

/-!
Equality of typed expressions next to equality of their conversions. Typed columns compare by name
and converted ones by key and type, so the two agree over columns that differ in key or type.
-/

namespace QueryAlgebra

namespace Literal

/-- Native values of one type are equal as the type has it: floats as the standard for floats has it,
documents structurally, decimals as numbers whatever their scales, and all others if they are the
same. -/
inductive Equal : {type other : DataType} → Literal type → Literal other → Prop where
  | boolean (value : Bool) : Equal (boolean value) (boolean value)
  | integer (value : Int32) : Equal (integer value) (integer value)
  | bigInt (value : Int64) : Equal (bigInt value) (bigInt value)
  | real {x y : Binary32} (equal : x.Equal y) : Equal (real x) (real y)
  | double {x y : Binary64} (equal : x.Equal y) : Equal (double x) (double y)
  | text (value : String) : Equal (text value) (text value)
  | json {a b : Document} (equal : a.json.Equal b.json) : Equal (json a) (json b)
  | uuid (value : Uuid) : Equal (uuid value) (uuid value)
  | timestamp (value : Timestamp) : Equal (timestamp value) (timestamp value)
  | decimal {a b : Decimal} (equal : a.value = b.value) : Equal (decimal a) (decimal b)

theorem equal_toValue {type other : DataType} (a : Literal type) (b : Literal other)
    (equal : a.Equal b) : a.toValue.Equal b.toValue := by
  cases equal with
  | boolean value => exact .boolean value
  | integer value => exact .integer value
  | bigInt value => exact .bigInt value
  | real equal => exact .real equal
  | double equal => exact .double equal
  | text value => exact .text value
  | json equal => exact .json equal
  | uuid value => exact .uuid value
  | timestamp value => exact .timestamp value
  | decimal equal => exact .decimal equal

theorem equal_of_toValue {type other : DataType} (a : Literal type) (b : Literal other)
    (equal : a.toValue.Equal b.toValue) : a.Equal b := by
  cases a <;> cases b <;> cases equal
  case boolean.boolean x => exact .boolean x
  case integer.integer x => exact .integer x
  case bigInt.bigInt x => exact .bigInt x
  case real.real x y equal => exact .real equal
  case double.double x y equal => exact .double equal
  case text.text x => exact .text x
  case json.json x y equal => exact .json equal
  case uuid.uuid x => exact .uuid x
  case timestamp.timestamp x => exact .timestamp x
  case decimal.decimal x y equal => exact .decimal equal

theorem same_iff_equal {type other : DataType} (a : Literal type) (b : Literal other) :
    a.same b = true ↔ a.Equal b := by
  rw [← a.same_toValue, Value.same_iff_equal]
  exact ⟨a.equal_of_toValue b, a.equal_toValue b⟩

end Literal

/-- No two of the columns have both their keys and their types in common. -/
def Schema.Distinct (schema : Schema) (names : List schema.Name) : Prop :=
  ∀ name ∈ names, ∀ other ∈ names,
    schema.key name = schema.key other → schema.type name = schema.type other → name = other

namespace TypedExpr

variable {schema : Schema}

def names : {type : DataType} → TypedExpr schema type → List schema.Name
  | _, column name _ => [name]
  | _, literal _ => []
  | _, equality lhs rhs => lhs.names ++ rhs.names
  | _, and lhs rhs => lhs.names ++ rhs.names
  | _, or lhs rhs => lhs.names ++ rhs.names

def literals : {type : DataType} → TypedExpr schema type → List Value
  | _, column _ _ => []
  | _, literal value => [value.toValue]
  | _, equality lhs rhs => lhs.literals ++ rhs.literals
  | _, and lhs rhs => lhs.literals ++ rhs.literals
  | _, or lhs rhs => lhs.literals ++ rhs.literals

/-- Trees of one shape and the same operators, with the same column in each place of a column, and
with literals in the other places that are equal as native values. -/
inductive Equal :
    {type other : DataType} → TypedExpr schema type → TypedExpr schema other → Prop where
  | column {type other : DataType} (name : schema.Name) (typed : schema.type name = type)
      (typed' : schema.type name = other) : Equal (column name typed) (column name typed')
  | literal {type other : DataType} {v : Literal type} {w : Literal other} (equal : v.Equal w) :
      Equal (literal v) (literal w)
  | equality {type other : DataType} {lhs rhs : TypedExpr schema type}
      {lhs' rhs' : TypedExpr schema other} (left : Equal lhs lhs') (right : Equal rhs rhs') :
      Equal (lhs.equality rhs) (lhs'.equality rhs')
  | and {lhs rhs lhs' rhs' : TypedExpr schema .boolean} (left : Equal lhs lhs')
      (right : Equal rhs rhs') : Equal (lhs.and rhs) (lhs'.and rhs')
  | or {lhs rhs lhs' rhs' : TypedExpr schema .boolean} (left : Equal lhs lhs')
      (right : Equal rhs rhs') : Equal (lhs.or rhs) (lhs'.or rhs')

theorem same_column {type other : DataType} (name name' : schema.Name)
    (typed : schema.type name = type) (typed' : schema.type name' = other) :
    (column name typed).same (column name' typed') = decide (name = name') :=
  rfl

theorem same_literal {type other : DataType} (v : Literal type) (w : Literal other) :
    (literal v : TypedExpr schema type).same (literal w : TypedExpr schema other) = v.same w :=
  rfl

theorem same_equality {type other : DataType} (lhs rhs : TypedExpr schema type)
    (lhs' rhs' : TypedExpr schema other) :
    (lhs.equality rhs).same (lhs'.equality rhs') = (lhs.same lhs' && rhs.same rhs') :=
  rfl

theorem same_and (lhs rhs lhs' rhs' : TypedExpr schema .boolean) :
    (lhs.and rhs).same (lhs'.and rhs') = (lhs.same lhs' && rhs.same rhs') :=
  rfl

theorem same_or (lhs rhs lhs' rhs' : TypedExpr schema .boolean) :
    (lhs.or rhs).same (lhs'.or rhs') = (lhs.same lhs' && rhs.same rhs') :=
  rfl

theorem same_of_equal {type other : DataType} (a : TypedExpr schema type)
    (b : TypedExpr schema other) (equal : a.Equal b) : a.same b = true := by
  induction equal with
  | column name => rw [same_column, decide_eq_true rfl]
  | literal equal => exact (Literal.same_iff_equal _ _).mpr equal
  | equality _ _ left right => rw [same_equality, left, right, Bool.and_self]
  | and _ _ left right => rw [same_and, left, right, Bool.and_self]
  | or _ _ left right => rw [same_or, left, right, Bool.and_self]

theorem equal_of_same {type other : DataType} (a : TypedExpr schema type)
    (b : TypedExpr schema other) (equal : a.same b = true) : a.Equal b := by
  induction a generalizing other b with
  | column name typed =>
      cases b with
      | column name' typed' =>
          obtain rfl : name = name' := of_decide_eq_true equal
          exact .column name typed typed'
      | literal | equality | and | or => cases equal
  | literal v =>
      cases b with
      | literal w => exact .literal ((v.same_iff_equal w).mp equal)
      | column | equality | and | or => cases equal
  | equality lhs rhs left right =>
      cases b with
      | equality lhs' rhs' =>
          obtain ⟨first, second⟩ := (Bool.and_eq_true_iff.mp equal)
          exact .equality (left lhs' first) (right rhs' second)
      | column | literal | and | or => cases equal
  | and lhs rhs left right =>
      cases b with
      | and lhs' rhs' =>
          obtain ⟨first, second⟩ := (Bool.and_eq_true_iff.mp equal)
          exact .and (left lhs' first) (right rhs' second)
      | column | literal | equality | or => cases equal
  | or lhs rhs left right =>
      cases b with
      | or lhs' rhs' =>
          obtain ⟨first, second⟩ := (Bool.and_eq_true_iff.mp equal)
          exact .or (left lhs' first) (right rhs' second)
      | column | literal | equality | and => cases equal

theorem same_iff_equal {type other : DataType} (a : TypedExpr schema type)
    (b : TypedExpr schema other) : a.same b = true ↔ a.Equal b :=
  ⟨equal_of_same a b, same_of_equal a b⟩

end TypedExpr

namespace Schema

variable {schema : Schema}

theorem Distinct.mono {names others : List schema.Name} (distinct : schema.Distinct names)
    (among : others ⊆ names) : schema.Distinct others :=
  fun name member other member' => distinct name (among member) other (among member')

theorem Distinct.operands {left right left' right' : List schema.Name}
    (distinct : schema.Distinct ((left ++ right) ++ (left' ++ right'))) :
    schema.Distinct (left ++ left') ∧ schema.Distinct (right ++ right') := by
  constructor
  · apply distinct.mono
    intro name member
    rcases List.mem_append.mp member with first | second
    · simp [first]
    · simp [second]
  · apply distinct.mono
    intro name member
    rcases List.mem_append.mp member with first | second
    · simp [first]
    · simp [second]

theorem Distinct.column_eq_iff {name other : schema.Name}
    (distinct : schema.Distinct [name, other]) :
    (⟨schema.key name, schema.type name⟩ : Column) = ⟨schema.key other, schema.type other⟩ ↔
      name = other := by
  constructor
  · intro same
    obtain ⟨key, type⟩ := Column.mk.inj same
    exact distinct name (by simp) other (by simp) key type
  · rintro rfl
    rfl

end Schema

namespace TypedExpr

variable {schema : Schema}

theorem same_toExpr {type other : DataType} (a : TypedExpr schema type)
    (b : TypedExpr schema other) (distinct : schema.Distinct (a.names ++ b.names)) :
    a.toExpr.same b.toExpr = a.same b := by
  induction a generalizing other b with
  | column name typed =>
      cases b with
      | column name' typed' =>
          rw [toExpr, toExpr, Expr.same, same_column]
          exact decide_eq_decide.mpr distinct.column_eq_iff
      | literal | equality | and | or => rfl
  | literal v =>
      cases b with
      | literal w => exact v.same_toValue w
      | column | equality | and | or => rfl
  | equality lhs rhs left right =>
      cases b with
      | equality lhs' rhs' =>
          obtain ⟨first, second⟩ := distinct.operands
          simp [toExpr, Expr.same, same_equality, left lhs' first, right rhs' second]
      | column | literal | and | or => rfl
  | and lhs rhs left right =>
      cases b with
      | and lhs' rhs' =>
          obtain ⟨first, second⟩ := distinct.operands
          simp [toExpr, Expr.same, same_and, left lhs' first, right rhs' second]
      | column | literal | equality | or => rfl
  | or lhs rhs left right =>
      cases b with
      | or lhs' rhs' =>
          obtain ⟨first, second⟩ := distinct.operands
          simp [toExpr, Expr.same, same_or, left lhs' first, right rhs' second]
      | column | literal | equality | and => rfl

theorem same_self_iff {type : DataType} (a : TypedExpr schema type) :
    a.same a = true ↔ ∀ value ∈ a.literals, value.isNan = false := by
  induction a with
  | column name typed => simp [same_column, literals]
  | literal value => simp [same_literal, literals, ← value.same_toValue, Value.same_self_iff]
  | equality lhs rhs left right =>
      rw [same_equality, Bool.and_eq_true, left, right, literals, List.forall_mem_append]
  | and lhs rhs left right =>
      rw [same_and, Bool.and_eq_true, left, right, literals, List.forall_mem_append]
  | or lhs rhs left right =>
      rw [same_or, Bool.and_eq_true, left, right, literals, List.forall_mem_append]

theorem same_self_eq_false_iff {type : DataType} (a : TypedExpr schema type) :
    a.same a = false ↔ ∃ value ∈ a.literals, value.isNan = true := by
  rw [← Bool.not_eq_true, same_self_iff]
  simp

/-- Two typed expressions over columns that are pairwise distinct in key and type are equal if and
only if their conversions are. Equality is the one of shape, operators, columns and literals, so an
expression differs from its own copy, before and after conversion, if and only if one of its
literals is a NaN. -/
theorem equal_iff_same_toExpr {type other : DataType} (a : TypedExpr schema type)
    (b : TypedExpr schema other) (distinct : schema.Distinct (a.names ++ b.names)) :
    (a.Equal b ↔ a.toExpr.same b.toExpr = true) ∧
      (a.Equal b ↔ a.same b = true) ∧
      (a.same a = false ↔ ∃ value ∈ a.literals, value.isNan = true) ∧
      (a.toExpr.same a.toExpr = false ↔ ∃ value ∈ a.literals, value.isNan = true) := by
  have own : schema.Distinct (a.names ++ a.names) := distinct.mono (by simp)
  rw [same_toExpr a b distinct, same_toExpr a a own, same_iff_equal]
  exact ⟨Iff.rfl, Iff.rfl, a.same_self_eq_false_iff, a.same_self_eq_false_iff⟩

end TypedExpr

def Schema.sharedKey : Schema :=
  ⟨Bool, fun _ => "a", fun name => if name then .boolean else .text⟩

theorem Schema.sharedKey_distinct (names : List Bool) : sharedKey.Distinct names := by
  intro name _ other _ _ types
  cases name <;> cases other <;> first | rfl | exact absurd types (by decide)

/-- The operands of a connective in the other order, under columns of one key, and a NaN. -/
theorem TypedExpr.same_toExpr_swapped :
    let flag : TypedExpr Schema.sharedKey .boolean := .column true rfl
    let text : TypedExpr Schema.sharedKey .text := .column false rfl
    let nan : TypedExpr Schema.sharedKey .double :=
      .literal (.double (.ofBits .binary64 0x7FF8000000000000))
    let expr := (flag.and (text.equality text)).or (nan.equality nan)
    let swapped := ((text.equality text).and flag).or (nan.equality nan)
    Schema.sharedKey.Distinct (expr.names ++ swapped.names) ∧
      expr.toExpr.same swapped.toExpr = false ∧ expr.toExpr.same expr.toExpr = false := by
  intro flag text nan expr swapped
  have distinct := Schema.sharedKey_distinct (expr.names ++ swapped.names)
  obtain ⟨alike, settled, -, copy⟩ := equal_iff_same_toExpr expr swapped distinct
  refine ⟨distinct, ?_, ?_⟩
  · rw [← Bool.not_eq_true, ← alike, settled]
    decide
  · exact copy.mpr ⟨_, List.mem_of_getLast? rfl, by decide +kernel⟩

end QueryAlgebra
