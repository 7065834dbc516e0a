import QueryAlgebra.Expr
import QueryAlgebra.Sink

/-!
Expressions as text. An operator stands between its operands; an operator that is an operand itself
is put in parentheses. Each rendering exists twice: as the text, and as the writing of the text into
a sink piece by piece.
-/

namespace QueryAlgebra

/-- Where an expression stands: on its own, or as the operand of an operator. -/
inductive Position where
  | alone
  | operand
  deriving DecidableEq, Repr

def infixText (position : Position) (op : Operator) (lhs rhs : String) : String :=
  let text := lhs ++ " " ++ op.symbol ++ " " ++ rhs
  match position with
  | .alone => text
  | .operand => "( " ++ text ++ " )"

open Writer in
def writeInfix (position : Position) (op : Operator) (lhs rhs : Writer Unit) : Writer Unit := do
  if position = .operand then write "( "
  lhs
  write " "
  write op.symbol
  write " "
  rhs
  if position = .operand then write " )"

theorem writeInfix_write (position : Position) (op : Operator) (lhs rhs : String) :
    writeInfix position op (Writer.write lhs) (Writer.write rhs) =
      Writer.write (infixText position op lhs rhs) := by
  cases position <;>
    simp [writeInfix, infixText, ← Writer.write_append, String.append_assoc]

namespace Expr

def sql (position : Position) : Expr → String
  | column spec => spec.key
  | literal value => value.sql
  | binary op lhs rhs => infixText position op (lhs.sql .operand) (rhs.sql .operand)

def write (position : Position) : Expr → Writer Unit
  | column spec => Writer.write spec.key
  | literal value => Writer.write value.sql
  | binary op lhs rhs => writeInfix position op (lhs.write .operand) (rhs.write .operand)

theorem write_eq (position : Position) (expr : Expr) :
    expr.write position = Writer.write (expr.sql position) := by
  induction expr generalizing position with
  | column spec => rfl
  | literal value => rfl
  | binary op lhs rhs left right => rw [write, left, right, writeInfix_write, sql]

end Expr

def Condition.sql (position : Position) (condition : Condition) : String :=
  condition.expr.sql position

def Condition.write (position : Position) (condition : Condition) : Writer Unit :=
  condition.expr.write position

end QueryAlgebra
