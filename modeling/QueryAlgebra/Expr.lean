import QueryAlgebra.Column
import QueryAlgebra.Value

/-!
Expressions whose types are known only at run time. The operands of an operator are checked when the
operator is applied, so that a tree built through this module needs no check later.
-/

namespace QueryAlgebra

inductive Expr where
  | column (spec : Column)
  | literal (value : Value)
  | binary (op : Operator) (lhs rhs : Expr)

def Operator.accepts (op : Operator) (lhs rhs : DataType) : Bool :=
  if op.isConnective then lhs = .boolean && rhs = .boolean else lhs = rhs

namespace Expr

def type : Expr → DataType
  | column spec => spec.type
  | literal value => value.type
  | binary .. => .boolean

def apply (op : Operator) (lhs rhs : Expr) : Except QueryError Expr :=
  if op.accepts lhs.type rhs.type then .ok (binary op lhs rhs)
  else .error (.typeMismatch op lhs.type rhs.type)

/-- Applies the operator that a token names. An unknown token is reported before the types are
looked at. -/
def applyToken (token : String) (lhs rhs : Expr) : Except QueryError Expr := do
  let op ← Operator.ofToken token
  apply op lhs rhs

def same : Expr → Expr → Bool
  | column a, column b => a = b
  | literal v, literal w => v.same w
  | binary op lhs rhs, binary op' lhs' rhs' => op = op' && lhs.same lhs' && rhs.same rhs'
  | _, _ => false

end Expr

structure Condition where
  expr : Expr

namespace Condition

def ofExpr (expr : Expr) : Except QueryError Condition :=
  if expr.type = .boolean then .ok ⟨expr⟩ else .error (.filterNotBoolean expr.type)

def same (a b : Condition) : Bool := a.expr.same b.expr

end Condition
end QueryAlgebra
