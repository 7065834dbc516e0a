import QueryAlgebra.Proofs.Outline.Place
import QueryAlgebra.Proofs.Text.Parentheses

/-!
The parentheses in the text of an outline whose leaves hold none: a pair for each operator that is
an operand, and the text is balanced.
-/

namespace QueryAlgebra
namespace Outline

def Unbracketed (outline : Outline) : Prop :=
  ∀ text ∈ outline.leaves, '(' ∉ text.toList ∧ ')' ∉ text.toList

instance : DecidablePred Unbracketed :=
  fun outline => inferInstanceAs
    (Decidable (∀ text ∈ outline.leaves, '(' ∉ text.toList ∧ ')' ∉ text.toList))

theorem parenthesis_not_mem_symbol (op : Operator) :
    '(' ∉ op.symbol.toList ∧ ')' ∉ op.symbol.toList := by
  cases op <;> decide

theorem toList_sql_binary (position : Position) (op : Operator) (lhs rhs : Outline) :
    ((binary op lhs rhs).sql position).toList =
      match position with
      | .alone =>
          (lhs.sql .operand).toList ++ (' ' :: op.symbol.toList ++ [' ']) ++
            (rhs.sql .operand).toList
      | .operand =>
          '(' :: (' ' :: ((binary op lhs rhs).sql .alone).toList ++ [' ']) ++ [')'] := by
  cases position <;> simp [sql, infixText]

theorem count_sql (mark : Char) (parenthesis : mark = '(' ∨ mark = ')') (position : Position)
    (outline : Outline) (absent : ∀ text ∈ outline.leaves, mark ∉ text.toList) :
    (outline.sql position).toList.count mark = (outline.groupPlaces position).length := by
  induction outline generalizing position with
  | leaf text =>
      have none := List.count_eq_zero.mpr (absent text (by simp [leaves]))
      cases position <;> exact none
  | binary op lhs rhs left right =>
      have leftCount := left .operand fun text member =>
        absent text (List.mem_append_left _ member)
      have rightCount := right .operand fun text member =>
        absent text (List.mem_append_right _ member)
      have between : (' ' :: op.symbol.toList ++ [' ']).count mark = 0 := by
        rcases parenthesis with rfl | rfl <;> cases op <;> decide
      have alone : ((binary op lhs rhs).sql .alone).toList.count mark =
          ((binary op lhs rhs).groupPlaces .alone).length := by
        rw [toList_sql_binary, groupPlaces_alone]
        simp only [List.count_append, List.length_append, List.length_map, leftCount, rightCount,
          between, Nat.add_zero]
      cases position with
      | alone => exact alone
      | operand =>
          rw [toList_sql_binary, groupPlaces_operand, List.length_cons, ← alone]
          rcases parenthesis with rfl | rfl <;> simp

theorem holds_sql (Holds : List Char → Prop)
    (symbol : ∀ op : Operator, Holds (' ' :: op.symbol.toList ++ [' ']))
    (append : ∀ first second, Holds first → Holds second → Holds (first ++ second))
    (group : ∀ text, Holds text → Holds ('(' :: (' ' :: text ++ [' ']) ++ [')']))
    (outline : Outline) (leaf : ∀ text ∈ outline.leaves, Holds text.toList) (position : Position) :
    Holds (outline.sql position).toList := by
  induction outline generalizing position with
  | leaf text => exact leaf text (by simp [leaves])
  | binary op lhs rhs left right =>
      rcases List.forall_mem_append.mp leaf with ⟨leftLeaf, rightLeaf⟩
      have alone : Holds ((binary op lhs rhs).sql .alone).toList := by
        rw [toList_sql_binary]
        apply append
        · exact append _ _ (left leftLeaf .operand) (symbol op)
        · exact right rightLeaf .operand
      cases position with
      | alone => exact alone
      | operand =>
          rw [toList_sql_binary]
          exact group _ alone

theorem balanced_sql (position : Position) (outline : Outline)
    (unbracketed : outline.Unbracketed) : Balanced (outline.sql position).toList := by
  have space : Balanced [' '] := balanced_of_not_mem [' '] (by decide) (by decide)
  apply holds_sql Balanced
  · intro op
    rcases parenthesis_not_mem_symbol op with ⟨noOpen, noClose⟩
    apply balanced_of_not_mem
    · simpa using noOpen
    · simpa using noClose
  · intro first second left right
    exact left.append right
  · intro text inner
    exact ((space.append inner).append space).enclose
  · intro text leaf
    rcases unbracketed text leaf with ⟨noOpen, noClose⟩
    exact balanced_of_not_mem text.toList noOpen noClose

end Outline
end QueryAlgebra
