/-!
The three binary operators. A token names an operator if it is the operator's symbol, or for a
connective its lower-case spelling.
-/

namespace QueryAlgebra

inductive Operator where
  | eq
  | and
  | or
  deriving DecidableEq, Repr

namespace Operator

def symbol : Operator → String
  | eq => "="
  | and => "AND"
  | or => "OR"

def isConnective : Operator → Bool
  | eq => false
  | and => true
  | or => true

def ofToken? (token : String) : Option Operator :=
  if token = "=" then some eq
  else if token = "AND" ∨ token = "and" then some and
  else if token = "OR" ∨ token = "or" then some or
  else none

theorem ofToken?_symbol (op : Operator) : ofToken? op.symbol = some op := by
  cases op <;> decide

end Operator
end QueryAlgebra
