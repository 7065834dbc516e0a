import QueryAlgebra.Proofs.Select.Listing
import QueryAlgebra.Proofs.Text.Quoted

/-!
The description of a statement tells its texts: those of its fields, each by itself, and the one of
its filter. The quotes keep them apart whatever they hold, texts that look like a part of a
description too.
-/

namespace QueryAlgebra

def quotations (texts : List String) (rest : List Char) : List Char :=
  (separated (texts.map quoted)).toList ++ ']' :: rest

def moreQuotations (texts : List String) (rest : List Char) : List Char :=
  (String.join (texts.map fun text => ", " ++ quoted text)).toList ++ ']' :: rest

theorem quotations_nil (rest : List Char) : quotations [] rest = ']' :: rest := by
  simp [quotations, separated]

theorem moreQuotations_nil (rest : List Char) : moreQuotations [] rest = ']' :: rest := by
  simp [moreQuotations]

theorem moreQuotations_cons (text : String) (texts : List String) (rest : List Char) :
    moreQuotations (text :: texts) rest =
      ',' :: ' ' :: ((quoted text).toList ++ moreQuotations texts rest) := by
  simp [moreQuotations, String.join_cons]

theorem quotations_cons (text : String) (texts : List String) (rest : List Char) :
    quotations (text :: texts) rest = (quoted text).toList ++ moreQuotations texts rest := by
  simp [quotations, moreQuotations, separated, Function.comp_def]

theorem moreQuotations_inj (texts others : List String) (rest rest' : List Char)
    (same : moreQuotations texts rest = moreQuotations others rest') :
    texts = others ∧ rest = rest' := by
  induction texts generalizing others with
  | nil =>
      rw [moreQuotations_nil] at same
      cases others with
      | nil =>
          rw [moreQuotations_nil] at same
          exact ⟨rfl, (List.cons.inj same).2⟩
      | cons other others =>
          rw [moreQuotations_cons] at same
          exact absurd (List.cons.inj same).1 (by decide)
  | cons text texts ih =>
      rw [moreQuotations_cons] at same
      cases others with
      | nil =>
          rw [moreQuotations_nil] at same
          exact absurd (List.cons.inj same).1 (by decide)
      | cons other others =>
          rw [moreQuotations_cons] at same
          obtain ⟨rfl, tails⟩ := quoted_append_inj text other _ _
            (List.cons.inj (List.cons.inj same).2).2
          obtain ⟨rfl, rests⟩ := ih others tails
          exact ⟨rfl, rests⟩

theorem quoted_append_ne_bracket (text : String) (rest tail : List Char) :
    (quoted text).toList ++ rest ≠ ']' :: tail := by
  simp [quoted]

theorem quotations_inj (texts others : List String) (rest rest' : List Char)
    (same : quotations texts rest = quotations others rest') : texts = others ∧ rest = rest' := by
  cases texts with
  | nil =>
      rw [quotations_nil] at same
      cases others with
      | nil =>
          rw [quotations_nil] at same
          exact ⟨rfl, (List.cons.inj same).2⟩
      | cons other others =>
          rw [quotations_cons] at same
          exact absurd same.symm (quoted_append_ne_bracket other _ _)
  | cons text texts =>
      rw [quotations_cons] at same
      cases others with
      | nil =>
          rw [quotations_nil] at same
          exact absurd same (quoted_append_ne_bracket text _ _)
      | cons other others =>
          rw [quotations_cons] at same
          obtain ⟨rfl, tails⟩ := quoted_append_inj text other _ _ same
          obtain ⟨rfl, rests⟩ := moreQuotations_inj texts others rest rest' tails
          exact ⟨rfl, rests⟩

namespace Select

variable {schema : Schema}

theorem toList_describe (statement : Select schema) :
    statement.describe.toList = "Select \x7b fields: [".toList ++
      quotations (statement.fields.map (Field.sql .alone))
        (", filter: ".toList ++ ((quoted (statement.filter.sql .alone)).toList ++
          " \x7d".toList)) := by
  have texts : (statement.fields.map fun field => quoted (field.sql .alone)) =
      (statement.fields.map (Field.sql .alone)).map quoted := by
    rw [List.map_map, Function.comp_def]
  have bracket : "], filter: ".toList = ']' :: ", filter: ".toList := by decide
  unfold describe
  rw [texts, intercalate_eq_separated, quotations]
  simp only [String.toList_append, bracket, List.append_assoc, List.cons_append]

/-- Two statements have one description if and only if their fields have the same texts, one by one,
and their filters have the same text, whatever characters the texts hold. -/
theorem describe_eq_iff {other : Schema} (first : Select schema) (second : Select other) :
    first.describe = second.describe ↔
      first.fields.map (Field.sql .alone) = second.fields.map (Field.sql .alone) ∧
        first.filter.sql .alone = second.filter.sql .alone := by
  rw [← String.toList_inj, toList_describe, toList_describe]
  constructor
  · intro same
    obtain ⟨fields, rest⟩ := quotations_inj _ _ _ _ (List.append_cancel_left same)
    obtain ⟨filter, -⟩ := quoted_append_inj _ _ _ _ (List.append_cancel_left rest)
    exact ⟨fields, filter⟩
  · rintro ⟨fields, filter⟩
    rw [fields, filter]

/-- One field with the text of a list of two, and the two fields themselves. -/
example :
    let column (key : String) : Field (Schema.single "a" .boolean) :=
      .dynamic (.column ⟨key, .text⟩)
    (make .empty [column "a\", \"b"]).describe =
        "Select \x7b fields: [\"a\\\", \\\"b\"], filter: \"\" \x7d" ∧
      (make .empty [column "a", column "b"]).describe =
        "Select \x7b fields: [\"a\", \"b\"], filter: \"\" \x7d" := by
  decide +kernel

end Select
end QueryAlgebra
