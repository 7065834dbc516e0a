import QueryAlgebra.Select

/-!
The outline of an expression: its operators and the texts of its leaves. The text of an expression
depends on its outline alone, and is the outline's words with a space between each two.
-/

namespace QueryAlgebra

inductive Outline where
  | leaf (text : String)
  | binary (op : Operator) (lhs rhs : Outline)
  deriving DecidableEq, Repr

namespace Outline

def sql (position : Position) : Outline → String
  | leaf text => text
  | binary op lhs rhs => infixText position op (lhs.sql .operand) (rhs.sql .operand)

def leaves : Outline → List String
  | leaf text => [text]
  | binary _ lhs rhs => lhs.leaves ++ rhs.leaves

/-- What stands between the spaces that are no part of a leaf. -/
def words (position : Position) : Outline → List String
  | leaf text => [text]
  | binary op lhs rhs =>
      let text := lhs.words .operand ++ op.symbol :: rhs.words .operand
      match position with
      | .alone => text
      | .operand => "(" :: text ++ [")"]

theorem words_ne_nil (position : Position) (outline : Outline) : outline.words position ≠ [] := by
  cases outline with
  | leaf text => simp [words]
  | binary op lhs rhs => cases position <;> simp [words]

theorem intercalate_append_cons (lhs rhs : List String) (word : String) (left : lhs ≠ [])
    (right : rhs ≠ []) :
    " ".intercalate (lhs ++ word :: rhs) =
      " ".intercalate lhs ++ " " ++ word ++ " " ++ " ".intercalate rhs := by
  rw [String.intercalate_append_of_ne_nil left (List.cons_ne_nil word rhs),
    String.intercalate_cons_of_ne_nil right]
  simp only [String.append_assoc]

theorem sql_eq_intercalate (position : Position) (outline : Outline) :
    outline.sql position = " ".intercalate (outline.words position) := by
  induction outline generalizing position with
  | leaf text => simp [sql, words]
  | binary op lhs rhs left right =>
      have inner := intercalate_append_cons (lhs.words .operand) (rhs.words .operand) op.symbol
        (words_ne_nil _ lhs) (words_ne_nil _ rhs)
      rw [← left, ← right] at inner
      cases position with
      | alone => exact inner.symm
      | operand =>
          have nonempty : lhs.words .operand ++ op.symbol :: rhs.words .operand ≠ [] := by simp
          rw [sql, words, infixText, List.cons_append, String.intercalate_cons_of_ne_nil (by simp),
            String.intercalate_append_of_ne_nil nonempty (by simp), inner,
            String.intercalate_singleton]
          simp only [String.append_assoc]
          rfl

end Outline

def Expr.outline : Expr → Outline
  | column spec => .leaf spec.key
  | literal value => .leaf value.sql
  | binary op lhs rhs => .binary op lhs.outline rhs.outline

def TypedExpr.outline {schema : Schema} : {type : DataType} → TypedExpr schema type → Outline
  | _, column name _ => .leaf (schema.key name)
  | _, literal value => .leaf value.sql
  | _, equality lhs rhs => .binary .eq lhs.outline rhs.outline
  | _, and lhs rhs => .binary .and lhs.outline rhs.outline
  | _, or lhs rhs => .binary .or lhs.outline rhs.outline

/-- The outline of an expression of any kind; the empty expression has none. -/
def Field.outline? {schema : Schema} : Field schema → Option Outline
  | .empty => none
  | .dynamic expr => some expr.outline
  | .condition found => some found.expr.outline
  | .typed expr => some expr.outline

def Schema.single (key : String) (type : DataType) : Schema :=
  ⟨Unit, fun _ => key, fun _ => type⟩

theorem Expr.sql_outline (expr : Expr) (position : Position) :
    expr.outline.sql position = expr.sql position := by
  induction expr generalizing position with
  | column spec => rfl
  | literal value => rfl
  | binary op lhs rhs left right => rw [outline, Outline.sql, left, right, sql]

theorem TypedExpr.outline_toExpr {schema : Schema} {type : DataType}
    (expr : TypedExpr schema type) : expr.toExpr.outline = expr.outline := by
  induction expr with
  | column => rfl
  | literal value => exact congrArg Outline.leaf value.sql_toValue
  | equality lhs rhs left right | and lhs rhs left right | or lhs rhs left right =>
      rw [toExpr, Expr.outline, left, right, outline]

theorem Field.sql_outline {schema : Schema} (field : Field schema) (outline : Outline)
    (found : field.outline? = some outline) (position : Position) :
    field.sql position = outline.sql position := by
  cases field with
  | empty => simp [outline?] at found
  | dynamic expr =>
      obtain rfl : expr.outline = outline := by simpa [outline?] using found
      exact (expr.sql_outline position).symm
  | condition condition =>
      obtain rfl : condition.expr.outline = outline := by simpa [outline?] using found
      exact (condition.expr.sql_outline position).symm
  | typed expr =>
      obtain rfl : expr.outline = outline := by simpa [outline?] using found
      rw [← expr.outline_toExpr, Expr.sql_outline, TypedExpr.sql_toExpr, sql]

end QueryAlgebra
