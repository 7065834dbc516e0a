import QueryAlgebra.Proofs.Expr.Typing

/-!
Building a typed expression anew through the constructors that check. The result is the conversion,
which checks nothing, unless the key of a column is blank; then building ends at the leftmost such
column, and the conversion has it all the same. The types alone never stand in the way.
-/

namespace QueryAlgebra

def Column.Blank (column : Column) : Prop := ∀ c ∈ column.key.toList, isBlank c = true

def Column.blankKey (column : Column) : QueryError :=
  .badColumn (column.type.sqlName ++ " column has an empty key")

theorem Column.blank_iff (column : Column) : column.Blank ↔ isBlankText column.key = true := by
  simp only [Blank, isBlankText, List.all_eq_true]

instance : DecidablePred Column.Blank :=
  fun column => decidable_of_iff _ column.blank_iff.symm

theorem Column.create_eq (column : Column) :
    create column.key column.type =
      if column.Blank then .error column.blankKey else .ok column := by
  simp only [create, blank_iff, blankKey]

namespace Expr

def columns : Expr → List Column
  | column spec => [spec]
  | literal _ => []
  | binary _ lhs rhs => lhs.columns ++ rhs.columns

def applyBuilt (op : Operator) (lhs rhs : Except QueryError Expr) : Except QueryError Expr := do
  let left ← lhs
  let right ← rhs
  apply op left right

/-- An expression, if none of the columns that it is built over is blank, or else the report on the
first blank one. -/
def builtOver (specs : List Column) (expr : Expr) : Except QueryError Expr :=
  match specs.find? fun spec => decide spec.Blank with
  | none => .ok expr
  | some spec => .error spec.blankKey

theorem applyBuilt_builtOver (op : Operator) (lhs rhs : Expr) (left right : List Column)
    (fits : op.Fits lhs.type rhs.type) :
    applyBuilt op (builtOver left lhs) (builtOver right rhs) =
      builtOver (left ++ right) (binary op lhs rhs) := by
  have applied : apply op lhs rhs = .ok (binary op lhs rhs) :=
    (apply_eq_ok_iff op lhs rhs _).mpr ⟨fits, rfl⟩
  unfold builtOver
  rw [List.find?_append]
  cases left.find? fun spec => decide spec.Blank with
  | some spec => rfl
  | none =>
      cases right.find? fun spec => decide spec.Blank with
      | some spec => rfl
      | none => exact applied

theorem builtOver_eq_ok_iff (specs : List Column) (expr built : Expr) :
    builtOver specs expr = .ok built ↔ (∀ spec ∈ specs, ¬ spec.Blank) ∧ built = expr := by
  unfold builtOver
  cases found : specs.find? fun spec => decide spec.Blank with
  | none =>
      have visible : ∀ spec ∈ specs, ¬ spec.Blank := by
        simpa using List.find?_eq_none.mp found
      rw [and_iff_right visible, Except.ok.injEq, eq_comm]
  | some spec =>
      have blank : spec.Blank := by simpa using List.find?_some found
      refine iff_of_false (fun succeeded => nomatch succeeded) ?_
      rintro ⟨visible, -⟩
      exact visible spec (List.mem_of_find?_eq_some found) blank

theorem builtOver_eq_error_iff (specs : List Column) (expr : Expr) (error : QueryError) :
    builtOver specs expr = .error error ↔
      ∃ before spec after, specs = before ++ spec :: after ∧
        (∀ earlier ∈ before, ¬ earlier.Blank) ∧ spec.Blank ∧ error = spec.blankKey := by
  have first (spec : Column) : specs.find? (fun spec => decide spec.Blank) = some spec ↔
      spec.Blank ∧ ∃ before after, specs = before ++ spec :: after ∧
        ∀ earlier ∈ before, ¬ earlier.Blank := by
    simp [List.find?_eq_some_iff_append]
  unfold builtOver
  constructor
  · intro failed
    split at failed
    · cases failed
    · rename_i spec found
      cases failed
      rcases (first spec).mp found with ⟨blank, before, after, split, visible⟩
      exact ⟨before, spec, after, split, visible, blank, rfl⟩
  · rintro ⟨before, spec, after, split, visible, blank, rfl⟩
    rw [(first spec).mpr ⟨blank, before, after, split, visible⟩]

end Expr

namespace TypedExpr

variable {schema : Schema}

def columns : {type : DataType} → TypedExpr schema type → List Column
  | _, column name _ => [⟨schema.key name, schema.type name⟩]
  | _, literal _ => []
  | _, equality lhs rhs => lhs.columns ++ rhs.columns
  | _, and lhs rhs => lhs.columns ++ rhs.columns
  | _, or lhs rhs => lhs.columns ++ rhs.columns

/-- The expression built leaf by leaf and operator by operator, each with its check. -/
def rebuild : {type : DataType} → TypedExpr schema type → Except QueryError Expr
  | _, column name _ => (Column.create (schema.key name) (schema.type name)).map .column
  | _, literal value => .ok (.literal value.toValue)
  | _, equality lhs rhs => Expr.applyBuilt .eq lhs.rebuild rhs.rebuild
  | _, and lhs rhs => Expr.applyBuilt .and lhs.rebuild rhs.rebuild
  | _, or lhs rhs => Expr.applyBuilt .or lhs.rebuild rhs.rebuild

theorem columns_toExpr {type : DataType} (expr : TypedExpr schema type) :
    expr.toExpr.columns = expr.columns := by
  induction expr with
  | column => rfl
  | literal => rfl
  | equality lhs rhs left right | and lhs rhs left right | or lhs rhs left right =>
      rw [toExpr, Expr.columns, left, right, columns]

/-- Building anew gives the conversion but for blank columns. -/
theorem rebuild_eq_builtOver {type : DataType} (expr : TypedExpr schema type) :
    expr.rebuild = Expr.builtOver expr.columns expr.toExpr := by
  induction expr with
  | column name typed =>
      have created := Column.create_eq ⟨schema.key name, schema.type name⟩
      dsimp only at created
      rw [rebuild, created, columns, toExpr, Expr.builtOver, List.find?_singleton]
      by_cases blank : Column.Blank ⟨schema.key name, schema.type name⟩
      · simp only [if_pos blank, decide_eq_true blank, if_true]
        rfl
      · simp only [if_neg blank, decide_eq_false blank, Bool.false_eq_true, if_false]
        rfl
  | literal => rfl
  | equality lhs rhs left right =>
      have alike : lhs.toExpr.type = rhs.toExpr.type := by rw [lhs.type_toExpr, rhs.type_toExpr]
      rw [rebuild, left, right, columns, toExpr, Expr.applyBuilt_builtOver .eq _ _ _ _ alike]
  | and lhs rhs left right =>
      rw [rebuild, left, right, columns, toExpr,
        Expr.applyBuilt_builtOver .and _ _ _ _ ⟨lhs.type_toExpr, rhs.type_toExpr⟩]
  | or lhs rhs left right =>
      rw [rebuild, left, right, columns, toExpr,
        Expr.applyBuilt_builtOver .or _ _ _ _ ⟨lhs.type_toExpr, rhs.type_toExpr⟩]

/-- Building anew gives the conversion exactly if no key is blank, and fails exactly with the report
on the leftmost blank key, never over a type or an operator. The conversion has all columns, blank
ones too. -/
theorem rebuild_checks {type : DataType} (expr : TypedExpr schema type) :
    (∀ built, expr.rebuild = .ok built ↔
        (∀ spec ∈ expr.columns, ¬ spec.Blank) ∧ built = expr.toExpr) ∧
      (∀ error, expr.rebuild = .error error ↔
        ∃ before spec after, expr.columns = before ++ spec :: after ∧
          (∀ earlier ∈ before, ¬ earlier.Blank) ∧ spec.Blank ∧
          error = .badColumn (spec.type.sqlName ++ " column has an empty key")) ∧
      (∀ op left right, expr.rebuild ≠ .error (.typeMismatch op left right)) ∧
      (∀ token, expr.rebuild ≠ .error (.unknownOperator token)) ∧
      expr.toExpr.columns = expr.columns := by
  have succeeds (built : Expr) := Expr.builtOver_eq_ok_iff expr.columns expr.toExpr built
  have fails (error : QueryError) := Expr.builtOver_eq_error_iff expr.columns expr.toExpr error
  rw [rebuild_eq_builtOver]
  refine ⟨succeeds, fails, ?_, ?_, expr.columns_toExpr⟩
  · intro op left right failed
    rcases (fails (.typeMismatch op left right)).mp failed with ⟨-, spec, -, -, -, -, other⟩
    cases other
  · intro token failed
    rcases (fails (.unknownOperator token)).mp failed with ⟨-, spec, -, -, -, -, other⟩
    cases other

end TypedExpr
end QueryAlgebra
