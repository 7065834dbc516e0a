import QueryAlgebra.Proofs.Select.Listing
import QueryAlgebra.Proofs.Value.Unique

/-!
Fields that show nothing. A statement drops the empty expressions among its fields, but a field that
stays may still have no text: the empty text as a literal, or a column without a key, and nothing
else. The fields of a statement can be told from its text one by one just if there is none of these.
-/

namespace QueryAlgebra

theorem ofList_ne_empty (text : List Char) (nonempty : text ≠ []) : String.ofList text ≠ "" := by
  intro same
  exact nonempty (String.ofList_injective same)

theorem pointDigits_ne_nil (n places : Nat) : pointDigits n places ≠ [] := by
  rw [pointDigits_eq]
  exact List.append_ne_nil_of_left_ne_nil (decimalDigits_ne_nil _) _

theorem intDigits_ne_nil (n : Int) : intDigits n ≠ [] := by
  rw [intDigits]
  split
  · exact List.cons_ne_nil _ _
  · exact decimalDigits_ne_nil _

theorem Floating.plainText_ne_nil {format : FloatFormat} (x : Floating format) :
    x.plainText ≠ [] := by
  cases number : x.isNan with
  | true =>
      rw [plainText, if_pos number]
      decide
  | false =>
      rw [x.plainText_eq number, plainSize]
      split
      · exact List.cons_ne_nil _ _
      · split
        · exact pointDigits_ne_nil _ _
        · decide

theorem Json.text_ne_nil (json : Json) : json.text ≠ [] := by
  cases opens : json.opening with
  | some c =>
      obtain ⟨rest, form⟩ := json.text_of_opening c opens
      rw [form]
      exact List.cons_ne_nil c rest
  | none => exact (json.text_of_word opens).1

theorem Decimal.text_ne_nil (d : Decimal) : d.text ≠ [] := by
  rw [text]
  split
  · exact List.cons_ne_nil _ _
  · exact pointDigits_ne_nil _ _

theorem Value.sql_eq_empty_iff (value : Value) : value.sql = "" ↔ value = .text "" := by
  constructor
  · intro same
    cases value with
    | boolean b => cases b <;> exact absurd same (by decide)
    | integer n => exact absurd same (ofList_ne_empty _ (intDigits_ne_nil _))
    | bigInt n => exact absurd same (ofList_ne_empty _ (intDigits_ne_nil _))
    | real x => exact absurd same (ofList_ne_empty _ x.plainText_ne_nil)
    | double x => exact absurd same (ofList_ne_empty _ x.plainText_ne_nil)
    | text s => exact congrArg text same
    | json document => exact absurd same (ofList_ne_empty _ document.json.text_ne_nil)
    | uuid u =>
        have length := u.length_text
        exact absurd same (ofList_ne_empty _ (List.ne_nil_of_length_pos (by omega)))
    | timestamp t =>
        have form : t.text ' ' ≠ [] := List.append_ne_nil_of_right_ne_nil _ (List.cons_ne_nil _ _)
        exact absurd same (ofList_ne_empty _ form)
    | decimal d => exact absurd same (ofList_ne_empty _ d.text_ne_nil)
  · rintro rfl
    rfl

theorem infixText_ne_empty (position : Position) (op : Operator) (lhs rhs : String) :
    infixText position op lhs rhs ≠ "" := by
  intro same
  have letters := congrArg String.toList same
  cases position <;> simp [infixText] at letters

namespace Expr

/-- The empty text, or a column without a key. -/
def isSilent : Expr → Bool
  | column spec => spec.key = ""
  | literal (.text s) => s = ""
  | _ => false

theorem sql_eq_empty_iff (expr : Expr) (position : Position) :
    expr.sql position = "" ↔ expr.isSilent = true := by
  cases expr with
  | column spec => simp [sql, isSilent]
  | literal value =>
      rw [sql, value.sql_eq_empty_iff]
      cases value <;> simp [isSilent]
  | binary op lhs rhs => simp [sql, isSilent, infixText_ne_empty]

end Expr

variable {schema : Schema}

namespace Field

def isSilent : Field schema → Bool
  | .empty => false
  | .dynamic expr => expr.isSilent
  | .condition found => found.expr.isSilent
  | .typed expr => expr.toExpr.isSilent

theorem sql_eq_empty_iff (field : Field schema) (position : Position) :
    field.sql position = "" ↔ field = .empty ∨ field.isSilent = true := by
  cases field with
  | empty => simp [sql]
  | dynamic expr => simp [sql, isSilent, expr.sql_eq_empty_iff]
  | condition found => simp [sql, isSilent, Condition.sql, found.expr.sql_eq_empty_iff]
  | typed expr => simp [sql, isSilent, ← expr.sql_toExpr, expr.toExpr.sql_eq_empty_iff]

end Field

namespace Select

/-- A text that lists fields: each of them is seen, and there is a comma and a space between each
two. -/
inductive Shows : List (Field schema) → String → Prop where
  | none : Shows [] ""
  | last (field : Field schema) (seen : field.sql .alone ≠ "") : Shows [field] (field.sql .alone)
  | more {next : Field schema} {fields : List (Field schema)} {text : String}
      (field : Field schema) (seen : field.sql .alone ≠ "") (others : Shows (next :: fields) text) :
      Shows (field :: next :: fields) (field.sql .alone ++ ", " ++ text)

theorem intercalate_fields (field next : Field schema) (fields : List (Field schema)) :
    ", ".intercalate ((field :: next :: fields).map (Field.sql .alone)) =
      field.sql .alone ++ ", " ++ ", ".intercalate ((next :: fields).map (Field.sql .alone)) := by
  rw [List.map_cons, List.map_cons, String.intercalate_cons_cons]

theorem shows_iff (fields : List (Field schema)) (text : String) :
    Shows fields text ↔ (∀ field ∈ fields, field.sql .alone ≠ "") ∧
      text = ", ".intercalate (fields.map (Field.sql .alone)) := by
  constructor
  · intro shows
    induction shows with
    | none => simp
    | last field seen => simp [seen]
    | more field seen others ih =>
        rw [intercalate_fields, ← ih.2]
        exact ⟨List.forall_mem_cons.mpr ⟨seen, ih.1⟩, rfl⟩
  · rintro ⟨seen, rfl⟩
    induction fields with
    | nil => exact .none
    | cons field fields ih =>
        rw [List.forall_mem_cons] at seen
        cases fields with
        | nil => simpa using Shows.last field seen.1
        | cons next fields =>
            rw [intercalate_fields]
            exact .more field seen.1 (ih seen.2)

theorem seen_iff (filter : Filter schema) (fields : List (Field schema)) :
    (∀ field ∈ (make filter fields).fields, field.sql .alone ≠ "") ↔
      ∀ field ∈ fields, field.isSilent = false := by
  induction fields with
  | nil => simp [make]
  | cons field fields ih =>
      by_cases empty : field = .empty
      · rw [empty, make_fields_empty, ih, List.forall_mem_cons]
        simp [Field.isSilent]
      · rw [make_fields_cons filter field fields empty, List.forall_mem_cons,
          List.forall_mem_cons, ih, Ne, field.sql_eq_empty_iff]
        simp [empty]

theorem length_fields_make (filter : Filter schema) (fields : List (Field schema)) :
    (make filter fields).fields.length =
      fields.countP (fun field => field.sql .alone ≠ "") + fields.countP Field.isSilent := by
  induction fields with
  | nil => rfl
  | cons field fields ih =>
      have seen := field.sql_eq_empty_iff .alone
      by_cases empty : field = .empty
      · rw [empty, make_fields_empty, ih]
        simp [Field.isSilent, Field.sql]
      · rw [make_fields_cons filter field fields empty, List.length_cons, ih, List.countP_cons,
          List.countP_cons]
        cases silent : field.isSilent <;> simp [silent, empty] at seen <;> simp [seen] <;> omega

/-- The text of a statement shows each field that stays, with one separator between each two, just if
no field is silent: the empty text or a column without a key. Of the fields that stay, the silent
ones are those that the text does not show. -/
theorem make_shows_iff (filter : Filter schema) (fields : List (Field schema)) :
    ((∀ field ∈ (make filter fields).fields, field.sql .alone ≠ "") ↔
        ∀ field ∈ fields, field.isSilent = false) ∧
      ((∃ listing, Shows (make filter fields).fields listing ∧
          (make filter fields).sql = "SELECT (" ++ listing ++ ")" ++ filter.clause ++ ";") ↔
        ∀ field ∈ fields, field.isSilent = false) ∧
      (make filter fields).fields.length =
        fields.countP (fun field => field.sql .alone ≠ "") + fields.countP Field.isSilent := by
  refine ⟨seen_iff filter fields, ?_, length_fields_make filter fields⟩
  rw [← seen_iff filter fields]
  constructor
  · rintro ⟨listing, shows, -⟩
    exact ((shows_iff _ _).mp shows).1
  · intro seen
    refine ⟨_, (shows_iff _ _).mpr ⟨seen, rfl⟩, ?_⟩
    rw [sql_eq_separated, intercalate_eq_separated]
    rfl

/-- The empty text stays as a field: a separator has nothing in front of it, and there are two fields
where one is seen. -/
theorem make_keeps_emptyText :
    let fields : List (Field (Schema.single "name" .text)) :=
      [.typed (.literal (.text "")), .typed (.column () rfl)]
    (make .empty fields).sql = "SELECT (, name);" ∧ (make .empty fields).fields.length = 2 ∧
      ¬∀ field ∈ (make .empty fields).fields, field.sql .alone ≠ "" := by
  decide

end Select
end QueryAlgebra
