import QueryAlgebra.Row

/-!
A history of changes to a row of text, with one earlier state set aside.
-/

namespace QueryAlgebra

inductive RowStep (Id : Type) where
  | reset
  | fresh (value : String)
  | numbered (value : String) (id : Id)
  | renumber (id : Id)
  | append (value : String)
  | replace (value : String)
  | save
  | exchange
  | compare
  | unwrap
  deriving DecidableEq, Repr

structure RowPair (Id : Type) where
  row : Row String Id
  saved : Row String Id
  deriving DecidableEq, Repr

inductive RowFinding (Id : Type) where
  | none
  | same (equal : Bool)
  | unwrapped (row : Row String Id)
  deriving DecidableEq, Repr

namespace RowPair

variable {Id : Type} [Inhabited Id] [DecidableEq Id]

def start : RowPair Id := ⟨default, default⟩

def step (pair : RowPair Id) : RowStep Id → RowFinding Id × RowPair Id
  | .reset => (.none, { pair with row := default })
  | .fresh value => (.none, { pair with row := .fresh value })
  | .numbered value id => (.none, { pair with row := ⟨value, id⟩ })
  | .renumber id => (.none, { pair with row := pair.row.renumber id })
  | .append value => (.none, { pair with row := pair.row.modify (· ++ value) })
  | .replace value => (.none, { pair with row := pair.row.modify fun _ => value })
  | .save => (.none, { pair with saved := pair.row })
  | .exchange => (.none, ⟨pair.saved, pair.row⟩)
  | .compare => (.same (pair.row = pair.saved), pair)
  | .unwrap => (.unwrapped pair.row, { pair with row := .fresh pair.row.value })

def run (pair : RowPair Id) : List (RowStep Id) → List (RowFinding Id × Row String Id)
  | [] => []
  | action :: actions =>
      let (finding, next) := pair.step action
      (finding, next.row) :: next.run actions

end RowPair
end QueryAlgebra
