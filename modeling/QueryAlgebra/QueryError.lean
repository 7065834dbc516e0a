import QueryAlgebra.DataType
import QueryAlgebra.Operator

/-!
What can go wrong when a query is built or written, one constructor for each cause, and the one
place that words it.
-/

namespace QueryAlgebra

inductive QueryError where
  | typeMismatch (op : Operator) (lhs rhs : DataType)
  | filterNotBoolean (found : DataType)
  | badColumn (reason : String)
  | unknownOperator (token : String)
  | sinkRefused
  deriving DecidableEq, Repr

namespace QueryError

def message : QueryError → String
  | typeMismatch op lhs rhs =>
      "Type mismatch in '" ++ op.symbol ++ "': " ++ lhs.sqlName ++ " vs " ++ rhs.sqlName
  | filterNotBoolean found => "Filter must be BOOLEAN, found " ++ found.sqlName
  | badColumn reason => "Malformed attribute descriptor: " ++ reason
  | unknownOperator token => "Unknown operator '" ++ token ++ "'"
  | sinkRefused => "Rendering error: an error occurred when formatting an argument"

end QueryError

def Operator.ofToken (token : String) : Except QueryError Operator :=
  match ofToken? token with
  | some op => .ok op
  | none => .error (.unknownOperator token)

end QueryAlgebra
