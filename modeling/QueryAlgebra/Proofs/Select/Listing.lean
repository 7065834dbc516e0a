import Mathlib.Logic.Relation
import QueryAlgebra.Proofs.Outline

/-!
Empty fields leave no trace in a statement. It holds the fields that are not empty in their order,
and lists of fields make one statement exactly if one comes from the other by putting in and taking
out empty fields.
-/

namespace QueryAlgebra

variable {schema : Schema}

theorem Field.isEmpty_eq_false_iff (field : Field schema) :
    field.isEmpty = false ↔ field ≠ .empty := by
  cases field <;> simp [isEmpty]

def separated : List String → String
  | [] => ""
  | first :: others => first ++ String.join (others.map (", " ++ ·))

theorem intercalate_eq_separated (texts : List String) :
    ", ".intercalate texts = separated texts := by
  induction texts with
  | nil => rfl
  | cons first others ih =>
      cases others with
      | nil => simp [separated]
      | cons second others =>
          rw [String.intercalate_cons_cons, ih]
          simp [separated, String.append_assoc]

def Filter.clause : Filter schema → String
  | .empty => ""
  | .condition found => " WHERE " ++ found.expr.sql .alone
  | .typed expr => " WHERE " ++ expr.sql .alone

namespace Select

/-- The second list has the fields of the first one that are not empty, in their order. -/
inductive Lists : List (Field schema) → List (Field schema) → Prop where
  | nil : Lists [] []
  | empty {fields listed : List (Field schema)} (others : Lists fields listed) :
      Lists (.empty :: fields) listed
  | field {field : Field schema} {fields listed : List (Field schema)} (shown : field ≠ .empty)
      (others : Lists fields listed) : Lists (field :: fields) (field :: listed)

/-- The second list is the first one with an empty field put in somewhere. -/
inductive EmptyAdded : List (Field schema) → List (Field schema) → Prop where
  | between (before after : List (Field schema)) :
      EmptyAdded (before ++ after) (before ++ .empty :: after)

theorem make_fields_empty (filter : Filter schema) (fields : List (Field schema)) :
    (make filter (.empty :: fields)).fields = (make filter fields).fields :=
  rfl

theorem make_fields_cons (filter : Filter schema) (field : Field schema)
    (fields : List (Field schema)) (shown : field ≠ .empty) :
    (make filter (field :: fields)).fields = field :: (make filter fields).fields := by
  simp [make, (Field.isEmpty_eq_false_iff field).mpr shown]

theorem lists_make (filter : Filter schema) (fields : List (Field schema)) :
    Lists fields (make filter fields).fields := by
  induction fields with
  | nil => exact .nil
  | cons field fields ih =>
      by_cases empty : field = .empty
      · rw [empty, make_fields_empty]
        exact .empty ih
      · rw [make_fields_cons filter field fields empty]
        exact .field empty ih

theorem lists_iff (filter : Filter schema) (fields listed : List (Field schema)) :
    Lists fields listed ↔ (make filter fields).fields = listed := by
  constructor
  · intro lists
    induction lists with
    | nil => rfl
    | empty others ih => rw [make_fields_empty, ih]
    | field shown others ih => rw [make_fields_cons filter _ _ shown, ih]
  · rintro rfl
    exact lists_make filter fields

theorem make_emptyAdded (filter : Filter schema) (fields others : List (Field schema))
    (added : EmptyAdded fields others) : make filter fields = make filter others := by
  cases added with
  | between before after => simp [make, Field.isEmpty]

theorem eqvGen_cons (field : Field schema) (fields others : List (Field schema))
    (related : Relation.EqvGen EmptyAdded fields others) :
    Relation.EqvGen EmptyAdded (field :: fields) (field :: others) := by
  induction related with
  | rel fields others added =>
      cases added with
      | between before after => exact .rel _ _ (.between (field :: before) after)
  | refl fields => exact .refl _
  | symm fields others _ ih => exact ih.symm
  | trans fields middle others _ _ first second => exact first.trans _ _ _ second

theorem eqvGen_make (filter : Filter schema) (fields : List (Field schema)) :
    Relation.EqvGen EmptyAdded (make filter fields).fields fields := by
  -- An empty field is taken out where it stands, any other field is kept in front.
  induction fields with
  | nil => exact .refl _
  | cons field fields ih =>
      by_cases empty : field = .empty
      · rw [empty, make_fields_empty]
        exact ih.trans _ _ _ (.rel _ _ (.between [] fields))
      · rw [make_fields_cons filter field fields empty]
        exact eqvGen_cons field _ _ ih

theorem make_eq_iff (filter : Filter schema) (fields others : List (Field schema)) :
    make filter fields = make filter others ↔ Relation.EqvGen EmptyAdded fields others := by
  constructor
  · intro same
    have kept := eqvGen_make filter fields
    rw [same] at kept
    exact kept.symm.trans _ _ _ (eqvGen_make filter others)
  · intro related
    induction related with
    | rel fields others added => exact make_emptyAdded filter fields others added
    | refl fields => rfl
    | symm fields others _ ih => exact ih.symm
    | trans fields middle others _ _ first second => exact first.trans second

theorem sql_eq_separated (statement : Select schema) :
    statement.sql = "SELECT (" ++ separated (statement.fields.map (Field.sql .alone)) ++ ")" ++
      statement.filter.clause ++ ";" := by
  rw [sql, intercalate_eq_separated]
  cases statement.filter <;> rfl

theorem runInto_write (statement : Select schema) :
    statement.write.runInto none = (statement.sql, .ok ()) := by
  have held : (Writer.write statement.sql).runInto none = ("" ++ statement.sql, .ok ()) := rfl
  rw [write_eq, held, String.empty_append]

/-- A statement holds just the fields that are not empty, in their order. Its text, which is what is
written, has them in parentheses with a comma and a space between each two, and a clause exactly if
there is a filter. Another list of fields makes the same statement, and so the same text and the
same description, exactly if it comes from this one by putting in and taking out empty fields. -/
theorem make_without_empties (filter : Filter schema) (fields : List (Field schema)) :
    (∀ listed, Lists fields listed ↔ (make filter fields).fields = listed) ∧
      (make filter fields).sql = "SELECT (" ++
        separated ((make filter fields).fields.map (Field.sql .alone)) ++ ")" ++ filter.clause ++
          ";" ∧
      (make filter fields).write.runInto none = ((make filter fields).sql, .ok ()) ∧
      ∀ others, make filter fields = make filter others ↔
        Relation.EqvGen EmptyAdded fields others :=
  ⟨lists_iff filter fields, sql_eq_separated _, runInto_write _, make_eq_iff filter fields⟩

example :
    let fields : List (Field (Schema.single "a" .boolean)) := [.empty, .empty]
    (make .empty fields).sql = "SELECT ();" := by
  decide +kernel

end Select
end QueryAlgebra
