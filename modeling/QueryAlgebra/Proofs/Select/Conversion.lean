import QueryAlgebra.Proofs.Expr.Typing
import QueryAlgebra.Proofs.Outline

/-!
Typed expressions next to their conversions. A conversion has the type and the text of the typed
expression, a converted boolean is a condition, and a statement does not show which of its parts
were converted.
-/

namespace QueryAlgebra

variable {schema : Schema}

namespace Field

def toDynamic : Field schema → Field schema
  | .typed expr => .dynamic expr.toExpr
  | field => field

theorem sql_toDynamic (field : Field schema) (position : Position) :
    field.toDynamic.sql position = field.sql position := by
  cases field with
  | typed expr => exact expr.sql_toExpr position
  | empty | dynamic | condition => rfl

theorem isEmpty_toDynamic (field : Field schema) : field.toDynamic.isEmpty = field.isEmpty := by
  cases field <;> rfl

def convertAt (chosen : Nat → Bool) (fields : List (Field schema)) : List (Field schema) :=
  fields.mapIdx fun index field => if chosen index then field.toDynamic else field

theorem map_sql_convertAt (chosen : Nat → Bool) (fields : List (Field schema)) :
    ((convertAt chosen fields).filter fun field => !field.isEmpty).map (sql .alone) =
      (fields.filter fun field => !field.isEmpty).map (sql .alone) := by
  induction fields generalizing chosen with
  | nil => rfl
  | cons field fields ih =>
      have tail := ih fun index => chosen (index + 1)
      have head : ∀ convert : Bool, (if convert then field.toDynamic else field).isEmpty =
          field.isEmpty ∧ (if convert then field.toDynamic else field).sql .alone =
            field.sql .alone := by
        intro convert
        cases convert
        · exact ⟨rfl, rfl⟩
        · exact ⟨field.isEmpty_toDynamic, field.sql_toDynamic .alone⟩
      rw [convertAt, List.mapIdx_cons, List.filter_cons, List.filter_cons, (head _).1]
      cases field.isEmpty with
      | true => exact tail
      | false =>
          simp only [Bool.not_false, if_true, List.map_cons, (head _).2]
          exact congrArg (_ :: ·) tail

end Field

namespace Select

/-- Statements that are not told apart by their texts, by writing them or by describing them. -/
structure Alike (first second : Select schema) : Prop where
  sql : first.sql = second.sql
  write : first.write = second.write
  fieldCount : first.fields.length = second.fields.length
  describe : first.describe = second.describe

theorem alike_of_texts (first second : Select schema)
    (fields : first.fields.map (Field.sql .alone) = second.fields.map (Field.sql .alone))
    (filter : first.filter.sql .alone = second.filter.sql .alone)
    (present : first.filter.isEmpty = second.filter.isEmpty) : Alike first second := by
  have texts : first.sql = second.sql := by
    rw [Select.sql, fields, filter, present, Select.sql]
  have quotations : (first.fields.map fun field => quoted (field.sql .alone)) =
      second.fields.map fun field => quoted (field.sql .alone) := by
    have mapped := congrArg (List.map quoted) fields
    rwa [List.map_map, List.map_map] at mapped
  constructor
  · exact texts
  · rw [write_eq, texts, write_eq]
  · simpa using congrArg List.length fields
  · unfold Select.describe
    rw [quotations, filter]

end Select

theorem Condition.ofExpr_toExpr (filter : TypedExpr schema .boolean) :
    ofExpr filter.toExpr = .ok ⟨filter.toExpr⟩ :=
  (ofExpr_eq_ok_iff filter.toExpr ⟨filter.toExpr⟩).mpr ⟨filter.type_toExpr, rfl⟩

/-- The conversion keeps the type and every rendering of an expression, and a statement may have its
filter and any of its fields converted without a change to its text, its description or the number
of its fields. -/
theorem TypedExpr.toExpr_agrees :
    (∀ {type : DataType} (expr : TypedExpr schema type) (position : Position),
      expr.toExpr.type = type ∧ expr.toExpr.sql position = expr.sql position ∧
        expr.toExpr.write position = expr.write position) ∧
      ∀ (fields : List (Field schema)) (chosen : Nat → Bool),
        Select.Alike (.make .empty (Field.convertAt chosen fields)) (.make .empty fields) ∧
          ∀ filter : TypedExpr schema .boolean, ∃ condition,
            Condition.ofExpr filter.toExpr = .ok condition ∧
              Select.Alike (.make (.condition condition) (Field.convertAt chosen fields))
                (.make (.typed filter) fields) := by
  constructor
  · intro type expr position
    exact ⟨expr.type_toExpr, expr.sql_toExpr position, expr.write_toExpr position⟩
  · intro fields chosen
    have texts := Field.map_sql_convertAt chosen fields
    refine ⟨Select.alike_of_texts _ _ texts rfl rfl, ?_⟩
    intro filter
    refine ⟨⟨filter.toExpr⟩, Condition.ofExpr_toExpr filter, ?_⟩
    exact Select.alike_of_texts _ _ texts (filter.sql_toExpr .alone) rfl

example :
    let column : TypedExpr (Schema.single "a" .boolean) .boolean := .column () rfl
    let fields : List (Field (Schema.single "a" .boolean)) :=
      [.typed (.or (.and column column) column), .typed column]
    Select.sql (.make (.condition ⟨(column.equality column).toExpr⟩)
      (Field.convertAt (· = 0) fields)) = "SELECT (( a AND a ) OR a, a) WHERE a = a;" := by
  decide +kernel

end QueryAlgebra
