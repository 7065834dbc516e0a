import QueryAlgebra.Proofs.Outline

/-!
Writing into a sink of limited room. A rendering is a sequence of writes that ends at the first one
refused. What the sink holds then is the front of the whole text, as long as the sink had room.
-/

namespace QueryAlgebra
namespace Writer

def writeAll : List String → Writer Unit
  | [] => pure ()
  | text :: texts => do
      write text
      writeAll texts

theorem writeAll_append (first second : List String) :
    writeAll (first ++ second) = (do writeAll first; writeAll second) := by
  induction first with
  | nil => simp [writeAll]
  | cons text first ih => simp [writeAll, ih]

theorem writeAll_singleton (text : String) : writeAll [text] = write text := by
  simp [writeAll]

theorem writeAll_eq_write (texts : List String) : writeAll texts = write (String.join texts) := by
  induction texts with
  | nil => exact write_empty.symm
  | cons text texts ih => rw [writeAll, ih, write_append, String.join_cons]

theorem join_writeAll (separator : String) (items : List (List String)) :
    join separator (items.map writeAll) = writeAll ([separator].intercalate items) := by
  induction items with
  | nil => rfl
  | cons first rest ih =>
      cases rest with
      | nil => simp [join]
      | cons second rest =>
          simp only [List.map_cons, join] at ih ⊢
          rw [ih, List.intercalate_cons_cons, writeAll_append, writeAll_append, writeAll_singleton]
          simp only [bind_assoc]

theorem write_injective (first second : String) (same : write first = write second) :
    first = second := by
  have held := congrArg (fun writer : Writer Unit => (writer (Sink.empty none)).2.held) same
  simpa [write, Sink.empty] using held

/-- A sink of limited room holds the front of the text in the end, and the outcome tells whether
that is all of it. -/
def WritesFront (writer : Writer Unit) (text : String) : Prop :=
  ∀ room, writer.runInto (some room) =
    (String.ofList (text.toList.take room),
      if text.length ≤ room then .ok () else .error .sinkRefused)

/-- Of the writes that the writer would make, the first one refused is the last one made. -/
def EndsAtRefusal (writer : Writer Unit) (texts : List String) : Prop :=
  ∀ room accepted refused later, texts = accepted ++ refused :: later →
    (String.join accepted).length ≤ room →
    room < (String.join accepted).length + refused.length →
    writer (Sink.empty (some room)) =
      write refused ⟨some (room - (String.join accepted).length), String.join accepted⟩

theorem write_fitting (text held : String) (room : Nat) (fits : text.length ≤ room) :
    write text ⟨some room, held⟩ = (.ok (), ⟨some (room - text.length), held ++ text⟩) := by
  simp only [write, if_pos fits]

theorem write_refused (text held : String) (room : Nat) (full : room < text.length) :
    write text ⟨some room, held⟩ =
      (.error .sinkRefused, ⟨some 0, held ++ String.ofList (text.toList.take room)⟩) := by
  simp only [write, if_neg (Nat.not_le_of_lt full)]

theorem writesFront_write (text : String) : (write text).WritesFront text := by
  intro room
  change ((write text ⟨some room, ""⟩).2.held, (write text ⟨some room, ""⟩).1) = _
  by_cases fits : text.length ≤ room
  · have whole : text.toList.take room = text.toList :=
      List.take_of_length_le (String.length_toList ▸ fits)
    rw [write_fitting text "" room fits, if_pos fits, whole, String.ofList_toList,
      String.empty_append]
  · rw [write_refused text "" room (Nat.lt_of_not_le fits), if_neg fits, String.empty_append]

theorem bind_apply (first second : Writer Unit) (sink : Sink) :
    (do first; second) sink =
      match first sink with
      | (.ok (), after) => second after
      | (.error error, after) => (.error error, after) := by
  change (ExceptT.bind first fun _ => second) sink = _
  rcases outcome : first sink with ⟨result, after⟩
  simp only [ExceptT.bind, ExceptT.mk, StateT.bind, bind, outcome]
  cases result with
  | ok done => rfl
  | error error => rfl

theorem endsAtRefusal_writeAll (texts : List String) : (writeAll texts).EndsAtRefusal texts := by
  intro room accepted refused later split fits full
  subst split
  have taken := write_fitting (String.join accepted) "" room fits
  rw [String.empty_append] at taken
  have stopped := write_refused refused (String.join accepted)
    (room - (String.join accepted).length) (by omega)
  rw [writeAll_append, writeAll_eq_write accepted, Sink.empty, bind_apply, taken, writeAll]
  simp only [bind_apply, stopped]

theorem front_of_writes (writer : Writer Unit) (text : String) (texts : List String)
    (whole : writer = write text) (steps : writer = writeAll texts) :
    writer.WritesFront text ∧ String.join texts = text ∧ writer.EndsAtRefusal texts := by
  refine ⟨whole ▸ writesFront_write text, ?_, steps ▸ endsAtRefusal_writeAll texts⟩
  -- The writer is one write of the text and one of the joined writes.
  apply write_injective
  rw [← writeAll_eq_write, ← steps, whole]

end Writer

def Outline.writes (position : Position) : Outline → List String
  | leaf text => [text]
  | binary op lhs rhs =>
      let text := lhs.writes .operand ++ " " :: op.symbol :: " " :: rhs.writes .operand
      match position with
      | .alone => text
      | .operand => "( " :: text ++ [" )"]

theorem Expr.write_eq_writeAll (expr : Expr) (position : Position) :
    expr.write position = Writer.writeAll (expr.outline.writes position) := by
  induction expr generalizing position with
  | column spec => exact (Writer.writeAll_singleton _).symm
  | literal value => exact (Writer.writeAll_singleton _).symm
  | binary op lhs rhs left right =>
      rw [write, left, right]
      cases position <;>
        simp [outline, Outline.writes, writeInfix, Writer.writeAll_append, Writer.writeAll]

namespace Field

variable {schema : Schema}

def writes (position : Position) (field : Field schema) : List String :=
  field.outline?.elim [] (Outline.writes position)

theorem write_eq_writeAll (field : Field schema) (position : Position) :
    field.write position = Writer.writeAll (field.writes position) := by
  cases field with
  | empty => rfl
  | dynamic expr => exact expr.write_eq_writeAll position
  | condition found => exact found.expr.write_eq_writeAll position
  | typed expr =>
      have untyped := expr.toExpr.write_eq_writeAll position
      rw [expr.write_toExpr, expr.outline_toExpr] at untyped
      exact untyped

end Field

namespace Select

variable {schema : Schema}

def writes (statement : Select schema) : List String :=
  "SELECT (" :: [", "].intercalate (statement.fields.map (Field.writes .alone)) ++
    ")" :: (if statement.filter.isEmpty then []
      else " WHERE " :: statement.filter.toField.writes .alone) ++ [";"]

theorem write_eq_writeAll (statement : Select schema) :
    statement.write = Writer.writeAll statement.writes := by
  have fields : statement.fields.map (Field.write .alone) =
      (statement.fields.map (Field.writes .alone)).map Writer.writeAll := by
    simp [Field.write_eq_writeAll]
  unfold write writes Filter.write
  rw [fields, Writer.join_writeAll, Field.write_eq_writeAll]
  cases statement.filter.isEmpty <;>
    simp [Writer.writeAll_append, Writer.writeAll]

end Select

/-- Every rendering writes its text up to the first write that is refused, and what a sink of
limited room holds then is the front of the text that there is room for. -/
theorem rendering_writesFront {schema : Schema} :
    (∀ (field : Field schema) (position : Position),
      (field.write position).WritesFront (field.sql position) ∧
        String.join (field.writes position) = field.sql position ∧
        (field.write position).EndsAtRefusal (field.writes position)) ∧
      ∀ statement : Select schema,
        statement.write.WritesFront statement.sql ∧
          String.join statement.writes = statement.sql ∧
          statement.write.EndsAtRefusal statement.writes := by
  constructor
  · intro field position
    exact Writer.front_of_writes _ _ _ (field.write_eq position) (field.write_eq_writeAll position)
  · intro statement
    exact Writer.front_of_writes _ _ _ statement.write_eq statement.write_eq_writeAll

example :
    let column : TypedExpr (Schema.single "a" .boolean) .boolean := .column () rfl
    let statement := Select.make (.typed (.and (.or column column) column)) [.typed column]
    statement.write.runInto (some 26) = ("SELECT (a) WHERE ( a OR a ", .error .sinkRefused) :=
  rfl

end QueryAlgebra
