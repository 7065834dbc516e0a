import QueryAlgebra.QueryError
import QueryAlgebra.Text.Blank

/-!
Columns described at run time: a key and a type.
-/

namespace QueryAlgebra

structure Column where
  key : String
  type : DataType
  deriving DecidableEq, Repr

/-- Describes a column, refusing a key without a visible character. Keys are not trimmed. -/
def Column.create (key : String) (type : DataType) : Except QueryError Column :=
  if isBlankText key then
    .error (.badColumn (type.sqlName ++ " column has an empty key"))
  else .ok ⟨key, type⟩

end QueryAlgebra
