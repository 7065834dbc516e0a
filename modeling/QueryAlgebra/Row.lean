/-!
A value with the identifier of the row that holds it.
-/

namespace QueryAlgebra

structure Row (Value Id : Type) where
  value : Value
  id : Id
  deriving DecidableEq, Repr

namespace Row

variable {Value Id : Type}

/-- A row that has not been given an identifier yet has the default one. -/
def fresh [Inhabited Id] (value : Value) : Row Value Id := ⟨value, default⟩

def renumber (row : Row Value Id) (id : Id) : Row Value Id := ⟨row.value, id⟩

def modify (row : Row Value Id) (change : Value → Value) : Row Value Id :=
  ⟨change row.value, row.id⟩

instance [Inhabited Value] [Inhabited Id] : Inhabited (Row Value Id) := ⟨⟨default, default⟩⟩

end Row
end QueryAlgebra
