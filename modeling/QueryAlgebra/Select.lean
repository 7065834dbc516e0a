import QueryAlgebra.TypedExpr
import QueryAlgebra.Text.Quoted

/-!
SELECT statements: a list of fields and a filter. Empty expressions are dropped from the fields when
the statement is made; a field whose text is empty is not.
-/

namespace QueryAlgebra

/-- Any expression, as it may stand in a list of fields. -/
inductive Field (schema : Schema) where
  | empty
  | dynamic (expr : Expr)
  | condition (condition : Condition)
  | typed {type : DataType} (expr : TypedExpr schema type)

/-- What selects the rows: nothing, or an expression known to be boolean. -/
inductive Filter (schema : Schema) where
  | empty
  | condition (condition : Condition)
  | typed (expr : TypedExpr schema .boolean)

namespace Field

variable {schema : Schema}

def isEmpty : Field schema → Bool
  | .empty => true
  | _ => false

def sql (position : Position) : Field schema → String
  | .empty => ""
  | .dynamic expr => expr.sql position
  | .condition found => found.sql position
  | .typed expr => expr.sql position

def write (position : Position) : Field schema → Writer Unit
  | .empty => pure ()
  | .dynamic expr => expr.write position
  | .condition found => found.write position
  | .typed expr => expr.write position

theorem write_eq (position : Position) (field : Field schema) :
    field.write position = Writer.write (field.sql position) := by
  cases field with
  | empty => exact Writer.write_empty.symm
  | dynamic expr => exact expr.write_eq position
  | condition found => exact found.expr.write_eq position
  | typed expr => simp only [write, sql, ← expr.write_toExpr, ← expr.sql_toExpr, Expr.write_eq]

end Field

namespace Filter

variable {schema : Schema}

def toField : Filter schema → Field schema
  | .empty => .empty
  | .condition found => .condition found
  | .typed expr => .typed expr

def isEmpty (filter : Filter schema) : Bool := filter.toField.isEmpty

def sql (position : Position) (filter : Filter schema) : String := filter.toField.sql position

def write (position : Position) (filter : Filter schema) : Writer Unit :=
  filter.toField.write position

end Filter

structure Select (schema : Schema) where
  fields : List (Field schema)
  filter : Filter schema

namespace Select

variable {schema : Schema}

def make (filter : Filter schema) (fields : List (Field schema)) : Select schema :=
  ⟨fields.filter fun field => !field.isEmpty, filter⟩

def sql (statement : Select schema) : String :=
  "SELECT (" ++ ", ".intercalate (statement.fields.map (Field.sql .alone)) ++ ")" ++
    (if statement.filter.isEmpty then "" else " WHERE " ++ statement.filter.sql .alone) ++ ";"

def write (statement : Select schema) : Writer Unit := do
  Writer.write "SELECT ("
  Writer.join ", " (statement.fields.map (Field.write .alone))
  Writer.write ")"
  if !statement.filter.isEmpty then
    Writer.write " WHERE "
    statement.filter.write .alone
  Writer.write ";"

theorem write_eq (statement : Select schema) : statement.write = Writer.write statement.sql := by
  have fields : statement.fields.map (Field.write .alone) =
      (statement.fields.map (Field.sql .alone)).map Writer.write := by
    simp [Field.write_eq]
  unfold write sql Filter.write Filter.sql
  rw [fields, Writer.join_write, Field.write_eq]
  cases statement.filter.isEmpty <;>
    simp [Writer.write_append, String.append_assoc]

def describe (statement : Select schema) : String :=
  let fields := ", ".intercalate (statement.fields.map fun field => quoted (field.sql .alone))
  "Select \x7b fields: [" ++ fields ++ "], filter: " ++ quoted (statement.filter.sql .alone) ++
    " \x7d"

end Select

def Schema.describe (schema : Schema) (name : schema.Name) : String :=
  "Column(" ++ quoted (schema.key name) ++ ")"

end QueryAlgebra
