import QueryAlgebra.Proofs.Expr.Typing
import QueryAlgebra.Proofs.Outline.Place
import QueryAlgebra.Proofs.Value.Equality

/-!
Equality of expressions. Two expressions are equal if they have the same places and are alike at
each of them, so that the laws of equality come from those of literals. An expression differs from
itself exactly if a NaN occurs in it.
-/

namespace QueryAlgebra.Expr

def at? : Expr → Place → Option Expr
  | expr, [] => some expr
  | binary _ lhs _, .lhs :: place => lhs.at? place
  | binary _ _ rhs, .rhs :: place => rhs.at? place
  | column _, _ :: _ => none
  | literal _, _ :: _ => none

theorem at?_nil (expr : Expr) : expr.at? [] = some expr := by
  cases expr <;> rfl

inductive Alike : Expr → Expr → Prop where
  | column (spec : Column) : Alike (column spec) (column spec)
  | literal {v w : Value} (equal : v.Equal w) : Alike (literal v) (literal w)
  | binary (op : Operator) (lhs rhs lhs' rhs' : Expr) :
      Alike (binary op lhs rhs) (binary op lhs' rhs')

theorem alike_symm (a b : Expr) (alike : a.Alike b) : b.Alike a := by
  cases alike with
  | column spec => exact .column spec
  | @literal v w equal =>
      have back : w.same v = true := v.same_symm w (v.same_of_equal w equal)
      exact .literal (w.equal_of_same v back)
  | binary op lhs rhs lhs' rhs' => exact .binary op lhs' rhs' lhs rhs

theorem alike_trans (a b c : Expr) (first : a.Alike b) (second : b.Alike c) : a.Alike c := by
  cases first with
  | column spec => exact second
  | @literal u v equal =>
      cases second with
      | @literal v w next =>
          have through : u.same w = true :=
            u.same_trans v w (u.same_of_equal v equal) (v.same_of_equal w next)
          exact .literal (u.equal_of_same w through)
  | binary op lhs rhs =>
      cases second with
      | binary op _ _ lhs'' rhs'' => exact .binary op lhs rhs lhs'' rhs''

theorem type_eq_of_alike (a b : Expr) (alike : a.Alike b) : a.type = b.type := by
  cases alike with
  | column spec => rfl
  | @literal v w equal => exact v.type_eq_of_same w (v.same_of_equal w equal)
  | binary => rfl

theorem same_binary_iff (op op' : Operator) (lhs rhs lhs' rhs' : Expr) :
    (binary op lhs rhs).same (binary op' lhs' rhs') = true ↔
      op = op' ∧ lhs.same lhs' = true ∧ rhs.same rhs' = true := by
  simp [same, and_assoc]

theorem alike_of_same (a b : Expr) (equal : a.same b = true) : a.Alike b := by
  cases a with
  | column spec =>
      cases b with
      | column other =>
          obtain rfl : spec = other := of_decide_eq_true equal
          exact .column spec
      | literal | binary => cases equal
  | literal value =>
      cases b with
      | literal other => exact .literal (value.equal_of_same other equal)
      | column | binary => cases equal
  | binary op lhs rhs =>
      cases b with
      | binary op' lhs' rhs' =>
          obtain ⟨rfl, -, -⟩ := (same_binary_iff ..).mp equal
          exact .binary op lhs rhs lhs' rhs'
      | column | literal => cases equal

theorem alike_at?_of_same (a b : Expr) (equal : a.same b = true) (place : Place) :
    Option.Rel Alike (a.at? place) (b.at? place) := by
  induction place generalizing a b with
  | nil =>
      rw [at?_nil, at?_nil]
      exact .some (alike_of_same a b equal)
  | cons side place ih =>
      cases alike_of_same a b equal with
      | column | literal => cases side <;> exact .none
      | binary op lhs rhs lhs' rhs' =>
          obtain ⟨-, first, second⟩ := (same_binary_iff ..).mp equal
          cases side with
          | lhs => exact ih lhs lhs' first
          | rhs => exact ih rhs rhs' second

theorem alike_of_alike_at? (a b : Expr)
    (alike : ∀ place, Option.Rel Alike (a.at? place) (b.at? place)) : a.Alike b := by
  have whole := alike []
  rw [at?_nil, at?_nil] at whole
  cases whole with
  | some top => exact top

theorem same_of_alike_at? (a b : Expr)
    (alike : ∀ place, Option.Rel Alike (a.at? place) (b.at? place)) : a.same b = true := by
  induction a generalizing b with
  | column spec =>
      cases alike_of_alike_at? _ _ alike
      exact decide_eq_true rfl
  | literal value =>
      cases alike_of_alike_at? _ _ alike with
      | literal equal => exact Value.same_of_equal _ _ equal
  | binary op lhs rhs left right =>
      cases alike_of_alike_at? _ _ alike with
      | binary _ _ _ lhs' rhs' =>
          refine (same_binary_iff ..).mpr ⟨rfl, left lhs' ?_, right rhs' ?_⟩
          · exact fun place => alike (.lhs :: place)
          · exact fun place => alike (.rhs :: place)

theorem same_iff_alike_at? (a b : Expr) :
    a.same b = true ↔ ∀ place, Option.Rel Alike (a.at? place) (b.at? place) :=
  ⟨alike_at?_of_same a b, same_of_alike_at? a b⟩

theorem same_symm (a b : Expr) (equal : a.same b = true) : b.same a = true := by
  -- The laws hold place by place, so no second induction over two trees is needed.
  rw [same_iff_alike_at?] at equal ⊢
  intro place
  have here := equal place
  generalize a.at? place = part at *
  generalize b.at? place = other at *
  cases here with
  | none => exact .none
  | some alike => exact .some (alike_symm _ _ alike)

theorem same_trans (a b c : Expr) (first : a.same b = true) (second : b.same c = true) :
    a.same c = true := by
  rw [same_iff_alike_at?] at first second ⊢
  intro place
  have here := first place
  have there := second place
  generalize a.at? place = part at *
  generalize b.at? place = middle at *
  generalize c.at? place = last at *
  cases here with
  | none => exact there
  | some alike =>
      cases there with
      | some next => exact .some (alike_trans _ _ _ alike next)

theorem same_self_iff (a : Expr) :
    a.same a = true ↔ ∀ value, Occurs (.literal value) a → value.isNan = false := by
  induction a with
  | column spec =>
      refine ⟨?_, fun _ => decide_eq_true rfl⟩
      intro _ value inside
      cases inside
  | literal value =>
      rw [same, value.same_self_iff]
      constructor
      · intro number other inside
        cases inside
        exact number
      · intro numbers
        exact numbers value .whole
  | binary op lhs rhs left right =>
      rw [same_binary_iff, left, right]
      constructor
      · rintro ⟨-, first, second⟩ value inside
        cases inside with
        | lhs inside => exact first value inside
        | rhs inside => exact second value inside
      · intro numbers
        exact ⟨rfl, fun value inside => numbers value (.lhs inside),
          fun value inside => numbers value (.rhs inside)⟩

/-- Equality of expressions is symmetric and transitive, an expression equals itself if and only if
none of its literals is a NaN, and equal expressions have one type. Two expressions are equal if and
only if they have the same places and at each of them one operator, one column or equal literals,
where the equality of literals is the one of their types. -/
theorem same_laws :
    (∀ a b : Expr, a.same b = true → b.same a = true) ∧
      (∀ a b c : Expr, a.same b = true → b.same c = true → a.same c = true) ∧
      (∀ a : Expr, a.same a = true ↔
        ∀ value, Occurs (.literal value) a → value.isNan = false) ∧
      (∀ a b : Expr, a.same b = true → a.type = b.type) ∧
      (∀ a b : Expr, a.same b = true ↔
        ∀ place, Option.Rel Alike (a.at? place) (b.at? place)) ∧
      ∀ v w : Value, v.same w = true ↔ v.Equal w := by
  refine ⟨same_symm, same_trans, same_self_iff, ?_, same_iff_alike_at?, Value.same_iff_equal⟩
  intro a b equal
  exact type_eq_of_alike a b (alike_of_same a b equal)

end QueryAlgebra.Expr
