import QueryAlgebra.Proofs.Outline.Parentheses
import QueryAlgebra.Proofs.Outline.Reader

/-!
Reading the outlines of a statement back from its text. The list of fields ends at the parenthesis
that closes the one it began with, and a comma separates two fields because no leaf holds one. Two
statements with one text have one list of outlines, if the leaves are words without punctuation.
-/

namespace QueryAlgebra

@[ext]
structure SelectOutline where
  fields : List Outline
  filter : Option Outline
  deriving DecidableEq, Repr

namespace Outline

/-- A leaf that stands out from what is around it in a statement: a word without punctuation. -/
def SeparateLeaf (text : String) : Prop :=
  text ≠ "" ∧ ' ' ∉ text.toList ∧ ',' ∉ text.toList ∧ '(' ∉ text.toList ∧ ')' ∉ text.toList

def Separate (outline : Outline) : Prop := ∀ text ∈ outline.leaves, SeparateLeaf text

instance : DecidablePred SeparateLeaf :=
  fun text => inferInstanceAs (Decidable (text ≠ "" ∧ ' ' ∉ text.toList ∧ ',' ∉ text.toList ∧
    '(' ∉ text.toList ∧ ')' ∉ text.toList))

instance : DecidablePred Separate :=
  fun outline => inferInstanceAs (Decidable (∀ text ∈ outline.leaves, SeparateLeaf text))

theorem Separate.plain {outline : Outline} (separate : outline.Separate) : outline.Plain := by
  intro text leaf
  rcases separate text leaf with ⟨-, noSpace, -, noOpen, -⟩
  refine ⟨noSpace, ?_⟩
  rintro rfl
  exact noOpen (by decide)

theorem Separate.unbracketed {outline : Outline} (separate : outline.Separate) :
    outline.Unbracketed := by
  intro text leaf
  rcases separate text leaf with ⟨-, -, -, noParenthesis⟩
  exact noParenthesis

theorem Separate.comma_not_mem_sql {outline : Outline} (separate : outline.Separate)
    (position : Position) : ',' ∉ (outline.sql position).toList := by
  apply holds_sql fun text => ',' ∉ text
  · intro op
    cases op <;> decide
  · intro first second left right
    simp [left, right]
  · intro text inner
    simp [inner]
  · intro text leaf
    rcases separate text leaf with ⟨-, -, noComma, -⟩
    exact noComma

theorem Separate.sql_ne_empty {outline : Outline} (separate : outline.Separate) :
    (outline.sql .alone).toList ≠ [] := by
  cases outline with
  | leaf text => simpa [sql] using (separate text (by simp [leaves])).1
  | binary op lhs rhs =>
      rw [toList_sql_binary]
      simp

end Outline

namespace SelectOutline

def ending : Option Outline → String
  | none => ";"
  | some filter => " WHERE " ++ filter.sql .alone ++ ";"

def sql (outline : SelectOutline) : String :=
  "SELECT (" ++ ", ".intercalate (outline.fields.map (Outline.sql .alone)) ++ ")" ++
    ending outline.filter

def Separate (outline : SelectOutline) : Prop :=
  ∀ part ∈ outline.fields ++ outline.filter.toList, part.Separate

instance : DecidablePred Separate :=
  fun outline => inferInstanceAs
    (Decidable (∀ part ∈ outline.fields ++ outline.filter.toList, part.Separate))

def readFields? (text : List Char) : Option (List Outline) :=
  if text = [] then some []
  else ((' ' :: text).splitOn ',').mapM fun item => Outline.read? (String.ofList item.tail)

def readFilter? (text : List Char) : Option (Option Outline) :=
  if text = [';'] then some none
  else do
    let filter ← text.dropPrefix? " WHERE ".toList
    (Outline.read? (String.ofList filter.dropLast)).map some

def read? (text : String) : Option SelectOutline := do
  let statement ← text.toList.dropPrefix? "SELECT (".toList
  let (list, rest) ← splitAtClose 0 statement
  let fields ← readFields? list
  let filter ← readFilter? rest
  pure ⟨fields, filter⟩

theorem balanced_intercalate (texts : List String)
    (balanced : ∀ text ∈ texts, Balanced text.toList) :
    Balanced (", ".intercalate texts).toList := by
  have nil : Balanced [] := balanced_of_not_mem [] (by decide) (by decide)
  have comma : Balanced [',', ' '] := balanced_of_not_mem [',', ' '] (by decide) (by decide)
  induction texts with
  | nil => exact nil
  | cons first rest ih =>
      have head := balanced first (List.mem_cons_self ..)
      have tail := ih fun text member => balanced text (List.mem_cons_of_mem first member)
      cases rest with
      | nil => simpa using head
      | cons second rest =>
          rw [String.intercalate_cons_cons, String.toList_append, String.toList_append]
          exact (head.append comma).append tail

/-- A space in front of the list makes every field stand behind a comma and a space, or behind the
space at the start. -/
theorem cons_intercalate (texts : List String) (nonempty : texts ≠ []) :
    ' ' :: (", ".intercalate texts).toList =
      [','].intercalate (texts.map fun text => ' ' :: text.toList) := by
  induction texts with
  | nil => exact absurd rfl nonempty
  | cons first rest ih =>
      cases rest with
      | nil => simp
      | cons second rest =>
          have tail := ih (List.cons_ne_nil second rest)
          rw [List.map_cons] at tail
          rw [String.intercalate_cons_cons, List.map_cons, List.map_cons,
            List.intercalate_cons_cons, ← tail]
          simp

theorem mapM_map_eq_some {α β : Type} (write : β → α) (read : α → Option β) (items : List β)
    (reads : ∀ item ∈ items, read (write item) = some item) :
    (items.map write).mapM read = some items := by
  induction items with
  | nil => rfl
  | cons first rest ih =>
      have head := reads first (List.mem_cons_self ..)
      have tail := ih fun item member => reads item (List.mem_cons_of_mem first member)
      rw [List.map_cons, List.mapM_cons, head, tail]
      rfl

theorem readFields?_intercalate (fields : List Outline)
    (separate : ∀ field ∈ fields, field.Separate) :
    readFields? (", ".intercalate (fields.map (Outline.sql .alone))).toList = some fields := by
  cases fields with
  | nil => rfl
  | cons first rest =>
      have head := separate first (List.mem_cons_self ..)
      have nonempty :
          (", ".intercalate ((first :: rest).map (Outline.sql .alone))).toList ≠ [] := by
        cases rest with
        | nil => simpa using head.sql_ne_empty
        | cons second rest => simp [String.intercalate_cons_cons]
      have noComma : ∀ item ∈ ((first :: rest).map (Outline.sql .alone)).map
          fun text => ' ' :: text.toList, ',' ∉ item := by
        intro item member
        simp only [List.map_map, List.mem_map, Function.comp_apply] at member
        obtain ⟨field, inside, rfl⟩ := member
        have absent := (separate field inside).comma_not_mem_sql .alone
        simp [absent]
      rw [readFields?, if_neg nonempty, cons_intercalate _ (by simp),
        List.splitOn_intercalate ',' noComma (by simp), List.map_map]
      apply mapM_map_eq_some
      intro field inside
      simp only [Function.comp_apply, List.tail_cons, String.ofList_toList]
      exact Outline.read?_sql field (separate field inside).plain

theorem readFilter?_ending (filter : Option Outline)
    (plain : ∀ outline ∈ filter, outline.Plain) :
    readFilter? (ending filter).toList = some filter := by
  cases filter with
  | none => rfl
  | some outline =>
      have spelled : (ending (some outline)).toList =
          " WHERE ".toList ++ ((outline.sql .alone).toList ++ [';']) := by
        simp [ending]
      have longer : " WHERE ".toList ++ ((outline.sql .alone).toList ++ [';']) ≠ [';'] := by simp
      rw [spelled, readFilter?, if_neg longer, List.dropPrefix?_append_of_beq _ BEq.rfl]
      simp only [Option.bind_eq_bind, Option.bind_some, List.dropLast_concat, String.ofList_toList,
        Outline.read?_sql outline (plain outline rfl), Option.map_some]

theorem read?_sql (outline : SelectOutline) (separate : outline.Separate) :
    read? outline.sql = some outline := by
  rcases outline with ⟨fields, filter⟩
  have fieldsSeparate : ∀ field ∈ fields, field.Separate := fun field inside =>
    separate field (List.mem_append_left _ inside)
  have balanced : Balanced (", ".intercalate (fields.map (Outline.sql .alone))).toList := by
    apply balanced_intercalate
    intro text member
    obtain ⟨field, inside, rfl⟩ := List.mem_map.mp member
    exact field.balanced_sql .alone (fieldsSeparate field inside).unbracketed
  have filterPlain : ∀ part ∈ filter, part.Plain := fun part inside =>
    (separate part (List.mem_append_right _ (Option.mem_toList.mpr inside))).plain
  have spelled : (sql ⟨fields, filter⟩).toList = "SELECT (".toList ++
      ((", ".intercalate (fields.map (Outline.sql .alone))).toList ++
        ')' :: (ending filter).toList) := by
    simp [sql]
  rw [read?, spelled, List.dropPrefix?_append_of_beq _ BEq.rfl]
  simp only [Option.bind_eq_bind, Option.bind_some, balanced.splitAtClose_append,
    readFields?_intercalate fields fieldsSeparate, readFilter?_ending filter filterPlain,
    Option.pure_def]

example :
    read? "SELECT (a, ( b = c ) OR d) WHERE e;" =
      some ⟨[.leaf "a", .binary .or (.binary .eq (.leaf "b") (.leaf "c")) (.leaf "d")],
        some (.leaf "e")⟩ := by
  decide +kernel

end SelectOutline

theorem Field.sql_eq_elim {schema : Schema} (field : Field schema) (position : Position) :
    field.sql position = field.outline?.elim "" (Outline.sql position) := by
  cases found : field.outline? with
  | none =>
      cases field with
      | empty => rfl
      | dynamic | condition | typed => simp [outline?] at found
  | some outline => exact field.sql_outline outline found position

theorem Field.isEmpty_eq_isNone {schema : Schema} (field : Field schema) :
    field.isEmpty = field.outline?.isNone := by
  cases field <;> rfl

theorem Filter.ending_outline? {schema : Schema} (filter : Filter schema) :
    SelectOutline.ending filter.toField.outline? =
      (if filter.isEmpty then "" else " WHERE " ++ filter.sql .alone) ++ ";" := by
  rw [isEmpty, sql, Field.isEmpty_eq_isNone, Field.sql_eq_elim]
  cases filter.toField.outline? with
  | none => rfl
  | some outline => simp [SelectOutline.ending]

namespace Select

variable {schema : Schema}

def outline (statement : Select schema) : SelectOutline :=
  ⟨statement.fields.filterMap Field.outline?, statement.filter.toField.outline?⟩

theorem map_outline?_make (filter : Filter schema) (fields : List (Field schema)) :
    (make filter fields).fields.map Field.outline? =
      (make filter fields).outline.fields.map some := by
  simp only [make, outline, Field.isEmpty_eq_isNone, Option.not_isNone]
  induction fields with
  | nil => rfl
  | cons field fields ih => cases found : field.outline? <;> simp [found, ih]

theorem sql_outline (statement : Select schema)
    (full : statement.fields.map Field.outline? = statement.outline.fields.map some) :
    statement.outline.sql = statement.sql := by
  have texts := congrArg (List.map fun found : Option Outline => found.elim "" (Outline.sql .alone))
    full
  simp only [List.map_map, Function.comp_def, ← Field.sql_eq_elim, Option.elim_some] at texts
  rw [SelectOutline.sql, ← texts, outline, Filter.ending_outline?, sql]
  simp only [String.append_assoc]

/-- Statements whose leaves stand out have one text exactly if their fields have the same outlines
in the same order and their filters have the same outline or are both missing. -/
theorem sql_eq_iff_outlines_eq {other : Schema} (filter : Filter schema)
    (fields : List (Field schema)) (otherFilter : Filter other) (otherFields : List (Field other))
    (separate : (make filter fields).outline.Separate)
    (otherSeparate : (make otherFilter otherFields).outline.Separate) :
    (make filter fields).sql = (make otherFilter otherFields).sql ↔
      (make filter fields).fields.map Field.outline? =
          (make otherFilter otherFields).fields.map Field.outline? ∧
        filter.toField.outline? = otherFilter.toField.outline? := by
  have full := map_outline?_make filter fields
  have otherFull := map_outline?_make otherFilter otherFields
  rw [← sql_outline _ full, ← sql_outline _ otherFull, full, otherFull]
  constructor
  · intro same
    have read := SelectOutline.read?_sql _ separate
    rw [same, SelectOutline.read?_sql _ otherSeparate] at read
    have outlines := Option.some.inj read
    exact ⟨by rw [outlines], (congrArg SelectOutline.filter outlines).symm⟩
  · rintro ⟨fieldsSame, filterSame⟩
    have outlines : (make filter fields).outline = (make otherFilter otherFields).outline :=
      SelectOutline.ext (List.map_injective_iff.mpr (fun _ _ => Option.some.inj) fieldsSame)
        filterSame
    rw [outlines]

/-- Two groupings of a field, among leaves that look like a clause and like the end of a
statement. -/
theorem sql_ne_of_regrouped_field :
    let leaf : TypedExpr (Schema.single "WHERE;" .boolean) .boolean := .column () rfl
    let fields := [.typed leaf, .typed (.and leaf (.or leaf leaf))]
    let otherFields := [.typed leaf, .empty, .typed (.or (.and leaf leaf) leaf)]
    (make (.typed leaf) fields).outline.Separate ∧
      (make (.typed leaf) otherFields).outline.Separate ∧
      (make (.typed leaf) fields).sql ≠ (make (.typed leaf) otherFields).sql := by
  intro leaf fields otherFields
  have separate : (make (.typed leaf) fields).outline.Separate := by decide
  have otherSeparate : (make (.typed leaf) otherFields).outline.Separate := by decide
  have settled := sql_eq_iff_outlines_eq (.typed leaf) fields (.typed leaf) otherFields separate
    otherSeparate
  refine ⟨separate, otherSeparate, fun same => ?_⟩
  have regrouped := (settled.mp same).1
  simp [fields, otherFields, make, Field.isEmpty, Field.outline?, TypedExpr.outline] at regrouped

end Select
end QueryAlgebra
