import QueryAlgebra.Expr.Rendering
import QueryAlgebra.Literal

/-!
Expressions over the columns of a schema, with the type of an expression part of its Lean type: only
well-typed trees can be written down. Each converts to a tree that is checked at run time, and the
conversion has nothing to check.
-/

namespace QueryAlgebra

structure Schema where
  Name : Type
  key : Name → String
  type : Name → DataType
  [decidableEq : DecidableEq Name]

attribute [instance] Schema.decidableEq

inductive TypedExpr (schema : Schema) : DataType → Type where
  | column {type : DataType} (name : schema.Name) (typed : schema.type name = type) :
      TypedExpr schema type
  | literal {type : DataType} (value : Literal type) : TypedExpr schema type
  | equality {type : DataType} (lhs rhs : TypedExpr schema type) : TypedExpr schema .boolean
  | and (lhs rhs : TypedExpr schema .boolean) : TypedExpr schema .boolean
  | or (lhs rhs : TypedExpr schema .boolean) : TypedExpr schema .boolean

namespace TypedExpr

variable {schema : Schema}

def sql (position : Position) : {type : DataType} → TypedExpr schema type → String
  | _, column name _ => schema.key name
  | _, literal value => value.sql
  | _, equality lhs rhs => infixText position .eq (lhs.sql .operand) (rhs.sql .operand)
  | _, and lhs rhs => infixText position .and (lhs.sql .operand) (rhs.sql .operand)
  | _, or lhs rhs => infixText position .or (lhs.sql .operand) (rhs.sql .operand)

def write (position : Position) : {type : DataType} → TypedExpr schema type → Writer Unit
  | _, column name _ => Writer.write (schema.key name)
  | _, literal value => Writer.write value.sql
  | _, equality lhs rhs => writeInfix position .eq (lhs.write .operand) (rhs.write .operand)
  | _, and lhs rhs => writeInfix position .and (lhs.write .operand) (rhs.write .operand)
  | _, or lhs rhs => writeInfix position .or (lhs.write .operand) (rhs.write .operand)

/-- Equality of shape, columns and literals. Columns are compared by name, not by key. -/
def same : {type other : DataType} → TypedExpr schema type → TypedExpr schema other → Bool
  | _, _, column a _, column b _ => a = b
  | _, _, literal v, literal w => v.same w
  | _, _, equality lhs rhs, equality lhs' rhs' => lhs.same lhs' && rhs.same rhs'
  | _, _, and lhs rhs, and lhs' rhs' => lhs.same lhs' && rhs.same rhs'
  | _, _, or lhs rhs, or lhs' rhs' => lhs.same lhs' && rhs.same rhs'
  | _, _, _, _ => false

/-- The same tree without its types. Keys are taken as they are, blank ones too. -/
def toExpr : {type : DataType} → TypedExpr schema type → Expr
  | _, column name _ => .column ⟨schema.key name, schema.type name⟩
  | _, literal value => .literal value.toValue
  | _, equality lhs rhs => .binary .eq lhs.toExpr rhs.toExpr
  | _, and lhs rhs => .binary .and lhs.toExpr rhs.toExpr
  | _, or lhs rhs => .binary .or lhs.toExpr rhs.toExpr

theorem type_toExpr {type : DataType} (expr : TypedExpr schema type) :
    expr.toExpr.type = type := by
  cases expr with
  | column name typed => exact typed
  | literal value => exact value.type_toValue
  | equality => rfl
  | and => rfl
  | or => rfl

theorem sql_toExpr {type : DataType} (expr : TypedExpr schema type) (position : Position) :
    expr.toExpr.sql position = expr.sql position := by
  induction expr generalizing position with
  | column => rfl
  | literal value => exact value.sql_toValue
  | equality lhs rhs left right | and lhs rhs left right | or lhs rhs left right =>
      rw [toExpr, Expr.sql, left, right, sql]

theorem write_toExpr {type : DataType} (expr : TypedExpr schema type) (position : Position) :
    expr.toExpr.write position = expr.write position := by
  induction expr generalizing position with
  | column => rfl
  | literal value => exact congrArg Writer.write value.sql_toValue
  | equality lhs rhs left right | and lhs rhs left right | or lhs rhs left right =>
      rw [toExpr, Expr.write, left, right, write]

def combine? (op : Operator) {left right : DataType} (lhs : TypedExpr schema left)
    (rhs : TypedExpr schema right) : Option (TypedExpr schema .boolean) :=
  match op with
  | .eq => if alike : right = left then some (equality lhs (alike ▸ rhs)) else none
  | .and =>
      if boolean : left = .boolean ∧ right = .boolean then
        some (and (boolean.1 ▸ lhs) (boolean.2 ▸ rhs))
      else none
  | .or =>
      if boolean : left = .boolean ∧ right = .boolean then
        some (or (boolean.1 ▸ lhs) (boolean.2 ▸ rhs))
      else none

structure Operands (schema : Schema) where
  type : DataType
  lhs : TypedExpr schema type
  rhs : TypedExpr schema type

def operands? : {type : DataType} → TypedExpr schema type → Option (Operands schema)
  | _, equality lhs rhs => some ⟨_, lhs, rhs⟩
  | _, and lhs rhs => some ⟨_, lhs, rhs⟩
  | _, or lhs rhs => some ⟨_, lhs, rhs⟩
  | _, _ => none

end TypedExpr
end QueryAlgebra
