import QueryAlgebra.Proofs.Select.Reader
import QueryAlgebra.Proofs.Session.Soundness

/-!
Taking apart and putting together again. Everything that a session holds can be taken apart down to
its leaves and put together again from the leaves up; no check fails on the way, because what is
held is well typed at every depth, and the outcome is what it was before.
-/

namespace QueryAlgebra

namespace Expr

theorem applyToken_symbol (op : Operator) (lhs rhs : Expr) :
    applyToken op.symbol lhs rhs = apply op lhs rhs := by
  rw [applyToken, Operator.ofToken, Operator.ofToken?_symbol]
  rfl

def reassemble : Expr → Except QueryError Expr
  | column spec => .ok (column spec)
  | literal value => .ok (literal value)
  | binary op lhs rhs => do
      let left ← lhs.reassemble
      let right ← rhs.reassemble
      apply op left right

theorem reassemble_eq_ok_iff (expr whole : Expr) :
    expr.reassemble = .ok whole ↔ expr.WellTyped ∧ whole = expr := by
  induction expr generalizing whole with
  | column spec =>
      rw [reassemble, Except.ok.injEq, and_iff_right (wellTyped_column spec), eq_comm]
  | literal value =>
      rw [reassemble, Except.ok.injEq, and_iff_right (wellTyped_literal value), eq_comm]
  | binary op lhs rhs left right =>
      have split : (binary op lhs rhs).reassemble = .ok whole ↔
          ∃ first, lhs.reassemble = .ok first ∧ ∃ second, rhs.reassemble = .ok second ∧
            apply op first second = .ok whole := by
        rw [reassemble]
        cases lhs.reassemble with
        | error error => simp [bind, Except.bind]
        | ok first => cases rhs.reassemble <;> simp [bind, Except.bind]
      simp only [split, left, right, apply_eq_ok_iff, wellTyped_binary]
      constructor
      · rintro ⟨first, ⟨leftTyped, rfl⟩, second, ⟨rightTyped, rfl⟩, fits, rfl⟩
        exact ⟨⟨fits, leftTyped, rightTyped⟩, rfl⟩
      · rintro ⟨⟨fits, leftTyped, rightTyped⟩, rfl⟩
        exact ⟨lhs, ⟨leftTyped, rfl⟩, rhs, ⟨rightTyped, rfl⟩, fits, rfl⟩

/-- Every operator in an expression can be applied again to the operands it has, whether it is given
as such or by its symbol, and so can all of them from the leaves up. -/
structure Reassembles (expr : Expr) : Prop where
  whole : expr.reassemble = .ok expr
  operators : ∀ op lhs rhs, Occurs (binary op lhs rhs) expr →
    apply op lhs rhs = .ok (binary op lhs rhs) ∧
      applyToken op.symbol lhs rhs = .ok (binary op lhs rhs)

theorem reassembles_iff (expr : Expr) : expr.Reassembles ↔ expr.WellTyped := by
  constructor
  · intro reassembles
    exact ((reassemble_eq_ok_iff expr expr).mp reassembles.whole).1
  · intro wellTyped
    refine ⟨(reassemble_eq_ok_iff expr expr).mpr ⟨wellTyped, rfl⟩, ?_⟩
    intro op lhs rhs inside
    have applied : apply op lhs rhs = .ok (binary op lhs rhs) :=
      (apply_eq_ok_iff op lhs rhs _).mpr ⟨wellTyped op lhs rhs inside, rfl⟩
    exact ⟨applied, applyToken_symbol op lhs rhs ▸ applied⟩

end Expr

namespace TypedExpr

variable {schema : Schema}

def operator? : {type : DataType} → TypedExpr schema type → Option Operator
  | _, equality _ _ => some .eq
  | _, and _ _ => some .and
  | _, or _ _ => some .or
  | _, _ => none

theorem combine?_eq {type : DataType} (lhs rhs : TypedExpr schema type) :
    combine? .eq lhs rhs = some (equality lhs rhs) :=
  dif_pos rfl

theorem combine?_and (lhs rhs : TypedExpr schema .boolean) :
    combine? .and lhs rhs = some (and lhs rhs) :=
  rfl

theorem combine?_or (lhs rhs : TypedExpr schema .boolean) :
    combine? .or lhs rhs = some (or lhs rhs) :=
  rfl

def reassemble : {type : DataType} → TypedExpr schema type → Option (TypedExpr schema type)
  | _, column name typed => some (column name typed)
  | _, literal value => some (literal value)
  | _, equality lhs rhs => do combine? .eq (← lhs.reassemble) (← rhs.reassemble)
  | _, and lhs rhs => do combine? .and (← lhs.reassemble) (← rhs.reassemble)
  | _, or lhs rhs => do combine? .or (← lhs.reassemble) (← rhs.reassemble)

theorem reassemble_eq_some {type : DataType} (expr : TypedExpr schema type) :
    expr.reassemble = some expr := by
  induction expr with
  | column => rfl
  | literal => rfl
  | equality lhs rhs left right =>
      rw [reassemble, left, right]
      exact combine?_eq lhs rhs
  | and lhs rhs left right =>
      rw [reassemble, left, right]
      exact combine?_and lhs rhs
  | or lhs rhs left right =>
      rw [reassemble, left, right]
      exact combine?_or lhs rhs

/-- The operands of an operator make the same expression again, and so do all leaves. -/
structure Reassembles {type : DataType} (expr : TypedExpr schema type) : Prop where
  whole : expr.reassemble = some expr
  operator : ∀ op found, expr.operator? = some op → expr.operands? = some found →
    (combine? op found.lhs found.rhs).map Field.typed = some (Field.typed expr)

theorem reassembles {type : DataType} (expr : TypedExpr schema type) : expr.Reassembles := by
  refine ⟨expr.reassemble_eq_some, ?_⟩
  intro op found named parted
  cases expr with
  | column => cases named
  | literal => cases named
  | equality lhs rhs =>
      cases named
      cases parted
      rw [combine?_eq]
      rfl
  | and lhs rhs =>
      cases named
      cases parted
      rw [combine?_and]
      rfl
  | or lhs rhs =>
      cases named
      cases parted
      rw [combine?_or]
      rfl

end TypedExpr

variable {schema : Schema}

/-- What is held as a field can be put together again, a condition by finding it boolean again. -/
def Field.Reassembles : Field schema → Prop
  | .empty => True
  | .dynamic expr => expr.Reassembles
  | .condition found => Condition.ofExpr found.expr = .ok found ∧ found.expr.Reassembles
  | .typed expr => expr.Reassembles

theorem Field.reassembles_of_wellTyped (field : Field schema) (wellTyped : field.WellTyped) :
    field.Reassembles := by
  cases field with
  | empty => trivial
  | dynamic expr => exact expr.reassembles_iff.mpr wellTyped
  | condition found =>
      exact ⟨(Condition.ofExpr_eq_ok_iff found.expr found).mpr ⟨wellTyped.1, rfl⟩,
        found.expr.reassembles_iff.mpr wellTyped.2⟩
  | typed expr => exact expr.reassembles

theorem Select.make_parts (statement : Select schema)
    (nonempty : ∀ field ∈ statement.fields, field.isEmpty = false) :
    make statement.filter statement.fields = statement := by
  have kept : (statement.fields.filter fun field => !field.isEmpty) = statement.fields := by
    rw [List.filter_eq_self]
    intro field member
    rw [nonempty field member]
    rfl
  rw [make, kept]

theorem Select.isEmpty_of_mem_make (filter : Filter schema) (fields : List (Field schema)) :
    ∀ field ∈ (make filter fields).fields, field.isEmpty = false := by
  intro field kept
  simpa using (List.mem_filter.mp kept).2

def Entry.fields : Entry schema → List (Field schema)
  | expression field => [field]
  | taken field => [field]
  | statement found => found.filter.toField :: found.fields

theorem Entry.wellTyped_fields (entry : Entry schema) (wellTyped : entry.WellTyped) :
    ∀ field ∈ entry.fields, field.WellTyped := by
  intro field member
  cases entry with
  | expression held =>
      rw [List.mem_singleton.mp member]
      exact wellTyped
  | taken held =>
      rw [List.mem_singleton.mp member]
      exact wellTyped
  | statement found =>
      rcases List.mem_cons.mp member with rfl | member
      · exact Filter.wellTyped_toField found.filter wellTyped.filter
      · exact wellTyped.fields field member

/-- The steps that take the expression on top apart, operand by operand, and apply its operators
again. The left operand is worked on while the right one waits below it. -/
def Expr.reassembly : Expr → List (Step schema)
  | binary op lhs rhs =>
      .parts :: (rhs.reassembly ++ .swap :: (lhs.reassembly ++ [.swap, .apply op]))
  | _ => []

def TypedExpr.reassembly : {type : DataType} → TypedExpr schema type → List (Step schema)
  | _, equality lhs rhs =>
      .parts :: (rhs.reassembly ++ .swap :: (lhs.reassembly ++ [.swap, .typedApply .eq]))
  | _, and lhs rhs =>
      .parts :: (rhs.reassembly ++ .swap :: (lhs.reassembly ++ [.swap, .typedApply .and]))
  | _, or lhs rhs =>
      .parts :: (rhs.reassembly ++ .swap :: (lhs.reassembly ++ [.swap, .typedApply .or]))
  | _, _ => []

def Field.reassembly : Field schema → List (Step schema)
  | .empty => []
  | .dynamic expr => expr.reassembly
  | .condition found => .inner :: (found.expr.reassembly ++ [.condition])
  | .typed expr => expr.reassembly

/-- The steps that take the entry on top apart and put it together again. A field that was taken out
of a statement stays as it is. -/
def Entry.reassembly : Entry schema → List (Step schema)
  | expression field => field.reassembly
  | taken _ => []
  | statement found =>
      .parts :: (found.filter.toField.reassembly ++ [.select found.fields.length .popped])

namespace Stack

theorem after?_cons (stack next : Stack schema) (action : Step schema)
    (actions : List (Step schema)) (answer : Answer)
    (stepped : stack.step? action = some (answer, next)) :
    stack.after? (action :: actions) = next.after? actions := by
  rw [after?, stepped]
  rfl

theorem after?_append (stack : Stack schema) (first second : List (Step schema)) :
    stack.after? (first ++ second) = stack.after? first >>= fun next => next.after? second := by
  induction first generalizing stack with
  | nil => rfl
  | cons action first ih =>
      rw [List.cons_append, after?, after?]
      cases stack.step? action with
      | none => rfl
      | some found => exact ih found.2

theorem after?_append_of_unchanged (stack : Stack schema) (first second : List (Step schema))
    (unchanged : stack.after? first = some stack) :
    stack.after? (first ++ second) = stack.after? second := by
  rw [after?_append, unchanged]
  rfl

theorem after?_operands (lhs rhs : Entry schema) (rest : Stack schema)
    (left right last : List (Step schema))
    (leftUnchanged : ∀ rest : Stack schema, after? (lhs :: rest) left = some (lhs :: rest))
    (rightUnchanged : ∀ rest : Stack schema, after? (rhs :: rest) right = some (rhs :: rest)) :
    after? (rhs :: lhs :: rest) (right ++ .swap :: (left ++ .swap :: last)) =
      after? (rhs :: lhs :: rest) last := by
  rw [after?_append_of_unchanged _ right _ (rightUnchanged (lhs :: rest)),
    after?_cons _ (lhs :: rhs :: rest) _ _ .done rfl,
    after?_append_of_unchanged _ left _ (leftUnchanged (rhs :: rest)),
    after?_cons _ (rhs :: lhs :: rest) _ _ .done rfl]

theorem after?_exprReassembly (expr : Expr) (wellTyped : expr.WellTyped) (rest : Stack schema) :
    after? (.expression (.dynamic expr) :: rest) expr.reassembly =
      some (.expression (.dynamic expr) :: rest) := by
  -- What lies below is general, since each operand is worked on with the other one below it.
  induction expr generalizing rest with
  | column spec => rfl
  | literal value => rfl
  | binary op lhs rhs left right =>
      rcases (Expr.wellTyped_binary op lhs rhs).mp wellTyped with ⟨fits, leftTyped, rightTyped⟩
      have applied : Expr.apply op lhs rhs = .ok (.binary op lhs rhs) :=
        (Expr.apply_eq_ok_iff op lhs rhs _).mpr ⟨fits, rfl⟩
      have last : step? (.expression (.dynamic rhs) :: .expression (.dynamic lhs) :: rest)
          (.apply op) = some (push (.dynamic (.binary op lhs rhs)) rest) := by
        rw [step?, applied?, applied]
        rfl
      rw [Expr.reassembly,
        after?_cons _ (.expression (.dynamic rhs) :: .expression (.dynamic lhs) :: rest) _ _ _ rfl,
        after?_operands _ _ rest _ _ _ (left leftTyped) (right rightTyped),
        after?_cons _ _ _ _ _ last, after?]

theorem after?_typedApply {left right : DataType} (op : Operator) (lhs : TypedExpr schema left)
    (rhs : TypedExpr schema right) (expr : TypedExpr schema .boolean) (rest : Stack schema)
    (combined : TypedExpr.combine? op lhs rhs = some expr) :
    after? (.expression (.typed rhs) :: .expression (.typed lhs) :: rest) [.typedApply op] =
      some (.expression (.typed expr) :: rest) := by
  have last : step? (.expression (.typed rhs) :: .expression (.typed lhs) :: rest)
      (.typedApply op) = some (push (.typed expr) rest) := by
    rw [step?, typedApplied?, combined]
    rfl
  rw [after?_cons _ _ _ _ _ last, after?]

theorem after?_typedReassembly {type : DataType} (expr : TypedExpr schema type)
    (rest : Stack schema) :
    after? (.expression (.typed expr) :: rest) expr.reassembly =
      some (.expression (.typed expr) :: rest) := by
  induction expr generalizing rest with
  | column => rfl
  | literal => rfl
  | equality lhs rhs left right =>
      rw [TypedExpr.reassembly,
        after?_cons _ (.expression (.typed rhs) :: .expression (.typed lhs) :: rest) _ _ _ rfl,
        after?_operands _ _ rest _ _ _ left right]
      exact after?_typedApply .eq lhs rhs _ rest (TypedExpr.combine?_eq lhs rhs)
  | and lhs rhs left right =>
      rw [TypedExpr.reassembly,
        after?_cons _ (.expression (.typed rhs) :: .expression (.typed lhs) :: rest) _ _ _ rfl,
        after?_operands _ _ rest _ _ _ left right]
      exact after?_typedApply .and lhs rhs _ rest (TypedExpr.combine?_and lhs rhs)
  | or lhs rhs left right =>
      rw [TypedExpr.reassembly,
        after?_cons _ (.expression (.typed rhs) :: .expression (.typed lhs) :: rest) _ _ _ rfl,
        after?_operands _ _ rest _ _ _ left right]
      exact after?_typedApply .or lhs rhs _ rest (TypedExpr.combine?_or lhs rhs)

theorem after?_fieldReassembly (field : Field schema) (wellTyped : field.WellTyped)
    (rest : Stack schema) :
    after? (.expression field :: rest) field.reassembly = some (.expression field :: rest) := by
  cases field with
  | empty => rfl
  | dynamic expr => exact after?_exprReassembly expr wellTyped rest
  | condition found =>
      have again : Condition.ofExpr found.expr = .ok found :=
        (Condition.ofExpr_eq_ok_iff found.expr found).mpr ⟨wellTyped.1, rfl⟩
      have last : step? (.expression (.dynamic found.expr) :: rest) .condition =
          some (push (.condition found) rest) := by
        rw [step?, condition?, again]
        rfl
      rw [Field.reassembly, after?_cons _ (.expression (.dynamic found.expr) :: rest) _ _ _ rfl,
        after?_append_of_unchanged _ _ _ (after?_exprReassembly found.expr wellTyped.2 rest),
        after?_cons _ _ _ _ _ last, after?]
  | typed expr => exact after?_typedReassembly expr rest

theorem takeFields?_taken (fields : List (Field schema)) (rest : Stack schema) :
    takeFields? fields.length ((fields.map Entry.taken).reverse ++ rest) = some (fields, rest) := by
  have front : (fields.map Entry.taken).reverse.length = fields.length := by simp
  have found : (fields.map Entry.taken).mapM Entry.field? = some fields :=
    SelectOutline.mapM_map_eq_some Entry.taken Entry.field? fields fun _ _ => rfl
  have enough : fields.length ≤ ((fields.map Entry.taken).reverse ++ rest).length := by simp
  rw [takeFields?, if_pos enough, List.take_left' front, List.drop_left' front,
    List.reverse_reverse, found]
  rfl

theorem takeFilter?_toField (filter : Filter schema) (rest : Stack schema) :
    takeFilter? .popped (.expression filter.toField :: rest) = some (filter, rest) := by
  cases filter <;> rfl

/-- Taking the entry on top apart and putting it together again leaves the stack as it was. -/
theorem after?_reassembly (entry : Entry schema) (wellTyped : entry.WellTyped)
    (rest : Stack schema) : after? (entry :: rest) entry.reassembly = some (entry :: rest) := by
  cases entry with
  | expression field => exact after?_fieldReassembly field wellTyped rest
  | taken field => rfl
  | statement found =>
      let parts : Stack schema :=
        .expression found.filter.toField :: ((found.fields.map Entry.taken).reverse ++ rest)
      have filter := after?_fieldReassembly found.filter.toField
        (Filter.wellTyped_toField found.filter wellTyped.filter)
        ((found.fields.map Entry.taken).reverse ++ rest)
      have last : step? parts (.select found.fields.length .popped) =
          some (.pushed found.view, .statement found :: rest) := by
        simp only [parts, step?, select?, takeFilter?_toField, takeFields?_taken, Option.bind_eq_bind,
          Option.bind_some, found.make_parts wellTyped.nonempty, Option.pure_def]
      rw [Entry.reassembly, after?_cons _ parts _ _ _ rfl,
        after?_append_of_unchanged _ _ _ filter, after?_cons _ _ _ _ _ last, after?]

/-- Whatever a session has built, every part that it holds can be put together again from its
operands at every depth, every statement can be made again from its parts, and the session itself
can do so with what is on top, after which the stack is as it was. Typed expressions and statements
need no session for it. -/
theorem session_reassembles (actions : List (Step schema)) (stack : Stack schema)
    (reached : after? [] actions = some stack) :
    (∀ entry ∈ stack, ∀ field ∈ entry.fields, field.Reassembles) ∧
      (∀ found, .statement found ∈ stack → Select.make found.filter found.fields = found) ∧
      (∀ entry rest, stack = entry :: rest → stack.after? entry.reassembly = some stack) ∧
      (∀ (type : DataType) (expr : TypedExpr schema type), expr.Reassembles) ∧
      ∀ (filter : Filter schema) (fields : List (Field schema)),
        Select.make (Select.make filter fields).filter (Select.make filter fields).fields =
          Select.make filter fields := by
  have wellTyped : stack.WellTyped := wellTyped_after? actions [] stack wellTyped_nil reached
  refine ⟨?_, ?_, ?_, fun _ expr => expr.reassembles, ?_⟩
  · intro entry held field member
    exact field.reassembles_of_wellTyped (entry.wellTyped_fields (wellTyped entry held) field member)
  · intro found held
    have statement : found.WellTyped := wellTyped (.statement found) held
    exact found.make_parts statement.nonempty
  · rintro entry rest rfl
    exact after?_reassembly entry (wellTyped entry List.mem_cons_self) rest
  · intro filter fields
    exact (Select.make filter fields).make_parts (Select.isEmpty_of_mem_make filter fields)

/-- A statement over a condition whose only column is blank and came in by conversion. -/
theorem session_reassembles_statement :
    let steps : List (Step (Schema.single " " .boolean)) :=
      [.typedColumn (), .empty, .typedColumn (), .toDynamic, .literal (.boolean true),
       .applyToken "=", .condition, .select 2 .popped]
    let flag : Expr := .binary .eq (.column ⟨" ", .boolean⟩) (.literal (.boolean true))
    let stack : Stack (Schema.single " " .boolean) :=
      [.statement ⟨[.typed (.column () rfl)], .condition ⟨flag⟩⟩]
    after? [] steps = some stack ∧ flag.Reassembles ∧
      stack.after? [.parts, .inner, .parts, .swap, .swap, .apply .eq, .condition,
        .select 1 .popped] = some stack := by
  intro steps flag stack
  have reached : after? [] steps = some stack := rfl
  have settled := session_reassembles steps stack reached
  have condition := settled.1 _ List.mem_cons_self (.condition ⟨flag⟩) List.mem_cons_self
  exact ⟨reached, condition.2, settled.2.2.1 _ [] rfl⟩

end Stack
end QueryAlgebra
