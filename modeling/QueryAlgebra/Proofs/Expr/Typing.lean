import QueryAlgebra.TypedExpr

/-!
Well-typed expressions: every operator in the tree fits the types of its operands. Applying an
operator to well-typed operands gives a well-typed expression exactly if the operator fits, and a
typed expression is well typed after its conversion although nothing is checked then.
-/

namespace QueryAlgebra

def Operator.Fits : Operator → DataType → DataType → Prop
  | eq, lhs, rhs => lhs = rhs
  | and, lhs, rhs => lhs = .boolean ∧ rhs = .boolean
  | or, lhs, rhs => lhs = .boolean ∧ rhs = .boolean

theorem Operator.accepts_iff (op : Operator) (lhs rhs : DataType) :
    op.accepts lhs rhs = true ↔ op.Fits lhs rhs := by
  cases op <;> simp [accepts, isConnective, Fits]

namespace Expr

inductive Occurs (part : Expr) : Expr → Prop where
  | whole : Occurs part part
  | lhs {op : Operator} {lhs rhs : Expr} (inside : Occurs part lhs) :
      Occurs part (.binary op lhs rhs)
  | rhs {op : Operator} {lhs rhs : Expr} (inside : Occurs part rhs) :
      Occurs part (.binary op lhs rhs)

/-- Operators at every depth fit the types of their operands. -/
def WellTyped (expr : Expr) : Prop :=
  ∀ op lhs rhs, Occurs (.binary op lhs rhs) expr → op.Fits lhs.type rhs.type

theorem wellTyped_column (spec : Column) : (column spec).WellTyped := by
  intro op lhs rhs inside
  cases inside

theorem wellTyped_literal (value : Value) : (literal value).WellTyped := by
  intro op lhs rhs inside
  cases inside

theorem wellTyped_binary (op : Operator) (lhs rhs : Expr) :
    (binary op lhs rhs).WellTyped ↔
      op.Fits lhs.type rhs.type ∧ lhs.WellTyped ∧ rhs.WellTyped := by
  constructor
  · intro wellTyped
    refine ⟨wellTyped op lhs rhs .whole, ?_, ?_⟩
    · intro inner left right inside
      exact wellTyped inner left right (.lhs inside)
    · intro inner left right inside
      exact wellTyped inner left right (.rhs inside)
  · rintro ⟨fits, left, right⟩ inner first second inside
    cases inside with
    | whole => exact fits
    | lhs inside => exact left inner first second inside
    | rhs inside => exact right inner first second inside

theorem apply_eq_ok_iff (op : Operator) (lhs rhs expr : Expr) :
    apply op lhs rhs = .ok expr ↔ op.Fits lhs.type rhs.type ∧ expr = binary op lhs rhs := by
  rw [apply, ← Operator.accepts_iff]
  cases op.accepts lhs.type rhs.type
  · simp
  · simpa using eq_comm

theorem apply_eq_error_iff (op : Operator) (lhs rhs : Expr) (error : QueryError) :
    apply op lhs rhs = .error error ↔
      ¬ op.Fits lhs.type rhs.type ∧ error = .typeMismatch op lhs.type rhs.type := by
  rw [apply, ← Operator.accepts_iff]
  cases op.accepts lhs.type rhs.type
  · simpa using eq_comm
  · simp

theorem applyToken_eq_ok_iff (token : String) (lhs rhs expr : Expr) :
    applyToken token lhs rhs = .ok expr ↔
      ∃ op, Operator.ofToken? token = some op ∧ op.Fits lhs.type rhs.type ∧
        expr = binary op lhs rhs := by
  unfold applyToken Operator.ofToken
  cases Operator.ofToken? token with
  | none => simp [bind, Except.bind]
  | some op => simp [bind, Except.bind, apply_eq_ok_iff]

theorem applyToken_eq_error_iff (token : String) (lhs rhs : Expr) (error : QueryError) :
    applyToken token lhs rhs = .error error ↔
      Operator.ofToken? token = none ∧ error = .unknownOperator token ∨
        ∃ op, Operator.ofToken? token = some op ∧ ¬ op.Fits lhs.type rhs.type ∧
          error = .typeMismatch op lhs.type rhs.type := by
  unfold applyToken Operator.ofToken
  cases Operator.ofToken? token with
  | none => simpa [bind, Except.bind] using eq_comm
  | some op => simp [bind, Except.bind, apply_eq_error_iff]

theorem wellTyped_apply (op : Operator) (lhs rhs expr : Expr) (left : lhs.WellTyped)
    (right : rhs.WellTyped) (applied : apply op lhs rhs = .ok expr) : expr.WellTyped := by
  rcases (apply_eq_ok_iff op lhs rhs expr).mp applied with ⟨fits, rfl⟩
  exact (wellTyped_binary op lhs rhs).mpr ⟨fits, left, right⟩

theorem wellTyped_applyToken (token : String) (lhs rhs expr : Expr) (left : lhs.WellTyped)
    (right : rhs.WellTyped) (applied : applyToken token lhs rhs = .ok expr) :
    expr.WellTyped := by
  rcases (applyToken_eq_ok_iff token lhs rhs expr).mp applied with ⟨op, -, fits, rfl⟩
  exact (wellTyped_binary op lhs rhs).mpr ⟨fits, left, right⟩

end Expr

theorem TypedExpr.wellTyped_toExpr {schema : Schema} {type : DataType}
    (expr : TypedExpr schema type) : expr.toExpr.WellTyped := by
  induction expr with
  | column name typed => exact Expr.wellTyped_column _
  | literal value => exact Expr.wellTyped_literal value.toValue
  | equality lhs rhs left right =>
      have alike : lhs.toExpr.type = rhs.toExpr.type := by rw [lhs.type_toExpr, rhs.type_toExpr]
      exact (Expr.wellTyped_binary .eq _ _).mpr ⟨alike, left, right⟩
  | and lhs rhs left right =>
      exact (Expr.wellTyped_binary .and _ _).mpr
        ⟨⟨lhs.type_toExpr, rhs.type_toExpr⟩, left, right⟩
  | or lhs rhs left right =>
      exact (Expr.wellTyped_binary .or _ _).mpr
        ⟨⟨lhs.type_toExpr, rhs.type_toExpr⟩, left, right⟩

def Condition.WellTyped (condition : Condition) : Prop :=
  condition.expr.type = .boolean ∧ condition.expr.WellTyped

theorem Condition.ofExpr_eq_ok_iff (expr : Expr) (condition : Condition) :
    ofExpr expr = .ok condition ↔ expr.type = .boolean ∧ condition = ⟨expr⟩ := by
  unfold ofExpr
  by_cases boolean : expr.type = .boolean
  · simpa [boolean] using eq_comm
  · simp [boolean]

end QueryAlgebra
