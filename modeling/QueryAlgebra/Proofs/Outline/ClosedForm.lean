import QueryAlgebra.Proofs.Outline.Parentheses

/-!
The text of an expression leaf by leaf. A leaf stands behind the lowest operator above it and the
leaf before it, behind a parenthesis for each group it begins and in front of one for each group it
ends.
-/

namespace QueryAlgebra

def Side.Beyond : Side → Nat → Nat → Prop
  | .lhs, other, index => other < index
  | .rhs, other, index => index < other

instance : ∀ side other index, Decidable (Side.Beyond side other index)
  | .lhs, other, index => inferInstanceAs (Decidable (other < index))
  | .rhs, other, index => inferInstanceAs (Decidable (index < other))

def Side.parenthesis : Side → String
  | .lhs => "( "
  | .rhs => " )"

theorem Side.beyond_add (side : Side) (shift other index : Nat) :
    side.Beyond (shift + other) (shift + index) ↔ side.Beyond other index := by
  cases side <;> simp [Beyond]

namespace Outline

def Outermost (outline : Outline) (side : Side) (place : Place) (index : Nat) : Prop :=
  place <+: outline.leafPlace index ∧
    ∀ other < outline.leaves.length, side.Beyond other index → ¬ place <+: outline.leafPlace other

instance (outline : Outline) (side : Side) (place : Place) (index : Nat) :
    Decidable (outline.Outermost side place index) :=
  inferInstanceAs (Decidable (_ ∧ ∀ other < outline.leaves.length, _ → _))

/-- A parenthesis for each group that a leaf begins, or for each that it ends. -/
def parentheses (position : Position) (outline : Outline) (side : Side) (index : Nat) : String :=
  let groups := (outline.groupPlaces position).countP fun place =>
    decide (outline.Outermost side place index)
  String.join (List.replicate groups side.parenthesis)

def operator? (outline : Outline) (place : Place) : Option Operator :=
  match outline.at? place with
  | some (binary op _ _) => some op
  | _ => none

/-- The lowest place above a leaf and the next one. -/
def common (outline : Outline) (index : Nat) : Place :=
  .meet (outline.leafPlace index) (outline.leafPlace (index + 1))

/-- The operator in front of a leaf, if it is not the first one. -/
def separator (outline : Outline) : Nat → String
  | 0 => ""
  | index + 1 =>
      match outline.operator? (outline.common index) with
      | some op => " " ++ op.symbol ++ " "
      | none => ""

theorem separator_zero (outline : Outline) : outline.separator 0 = "" :=
  rfl

def bracketed (position : Position) (outline : Outline) (index : Nat) : String :=
  outline.parentheses position .lhs index ++ outline.leafText index ++
    outline.parentheses position .rhs index

def closedForm (position : Position) (outline : Outline) : String :=
  String.join ((List.range outline.leaves.length).map fun index =>
    outline.separator index ++ outline.bracketed position index)

theorem join_range_first (count : Nat) (first : String) (text : Nat → String) :
    String.join ((List.range (count + 1)).map fun index =>
      (if index = 0 then first else "") ++ text index) =
      first ++ String.join ((List.range (count + 1)).map text) := by
  rw [List.range_succ_eq_map]
  simp [Function.comp_def, String.append_assoc]

theorem join_range_last (count : Nat) (last : String) (text : Nat → String) :
    String.join ((List.range (count + 1)).map fun index =>
      text index ++ if index = count then last else "") =
      String.join ((List.range (count + 1)).map text) ++ last := by
  have others : ∀ index ∈ List.range count,
      (text index ++ if index = count then last else "") = text index := by
    intro index member
    rw [if_neg (Nat.ne_of_lt (List.mem_range.mp member)), String.append_empty]
  rw [List.range_succ, List.map_append, List.map_append, List.map_congr_left others]
  simp [String.append_assoc]

section Operand

variable (op : Operator) (lhs rhs : Outline)

theorem outermost_operand (limit side other : Side) (place : Place) (index : Nat)
    (inside : index < (operand lhs rhs side).leaves.length) :
    (binary op lhs rhs).Outermost limit (other :: place) (start lhs side + index) ↔
      other = side ∧ (operand lhs rhs side).Outermost limit place index := by
  simp only [Outermost, leafPlace_operand op lhs rhs side index inside, List.cons_prefix_cons,
    and_assoc]
  apply and_congr_right
  rintro rfl
  apply and_congr_right
  intro below
  constructor
  · intro outer leaf within beyond above
    apply outer (start lhs other + leaf) (start_add_lt op lhs rhs other leaf within)
    · exact (limit.beyond_add _ _ _).mpr beyond
    · rw [leafPlace_operand op lhs rhs other leaf within, List.cons_prefix_cons]
      exact ⟨rfl, above⟩
  · intro outer leaf within beyond above
    obtain ⟨found, rest, inOperand, rfl⟩ := exists_operand op lhs rhs leaf within
    rw [leafPlace_operand op lhs rhs found rest inOperand, List.cons_prefix_cons] at above
    obtain ⟨rfl, above⟩ := above
    exact outer rest inOperand ((limit.beyond_add _ _ _).mp beyond) above

theorem parentheses_operand (limit side : Side) (index : Nat)
    (inside : index < (operand lhs rhs side).leaves.length) :
    (binary op lhs rhs).parentheses .alone limit (start lhs side + index) =
      (operand lhs rhs side).parentheses .operand limit index := by
  have found (other : Side) (place : Place) :
      decide ((binary op lhs rhs).Outermost limit (other :: place) (start lhs side + index)) =
        (decide (other = side) &&
          decide ((operand lhs rhs side).Outermost limit place index)) := by
    rw [← Bool.decide_and]
    exact decide_eq_decide.mpr (outermost_operand op lhs rhs limit side other place index inside)
  unfold parentheses
  rw [groupPlaces_alone, List.countP_append, List.countP_map, List.countP_map]
  cases side <;> simp [Function.comp_def, found, operand]

theorem operator?_operand (side : Side) (place : Place) :
    (binary op lhs rhs).operator? (side :: place) = (operand lhs rhs side).operator? place := by
  cases side <;> rfl

theorem common_operand (side : Side) (index : Nat)
    (inside : index + 1 < (operand lhs rhs side).leaves.length) :
    (binary op lhs rhs).common (start lhs side + index) =
      side :: (operand lhs rhs side).common index := by
  have first := leafPlace_operand op lhs rhs side index (Nat.lt_of_succ_lt inside)
  have second := leafPlace_operand op lhs rhs side (index + 1) inside
  rw [← Nat.add_assoc] at second
  rw [common, first, second, Place.meet, if_pos rfl, common]

theorem common_between (index : Nat) (last : lhs.leaves.length = index + 1) :
    (binary op lhs rhs).common index = [] := by
  have first := leafPlace_operand op lhs rhs .lhs index (show index < lhs.leaves.length by omega)
  have second := leafPlace_operand op lhs rhs .rhs 0 (length_leaves_pos rhs)
  rw [start, Nat.zero_add] at first
  rw [start, last, Nat.add_zero] at second
  rw [common, first, second]
  rfl

theorem separator_operand (side : Side) (index : Nat)
    (inside : index + 1 < (operand lhs rhs side).leaves.length) :
    (binary op lhs rhs).separator (start lhs side + (index + 1)) =
      (operand lhs rhs side).separator (index + 1) := by
  rw [← Nat.add_assoc, separator, common_operand op lhs rhs side index inside, operator?_operand,
    separator]

theorem separator_between :
    (binary op lhs rhs).separator lhs.leaves.length = " " ++ op.symbol ++ " " := by
  obtain ⟨index, last⟩ := Nat.exists_eq_add_one_of_ne_zero (Nat.ne_of_gt (length_leaves_pos lhs))
  rw [last, separator, common_between op lhs rhs index last]
  rfl

theorem bracketed_operand (side : Side) (index : Nat)
    (inside : index < (operand lhs rhs side).leaves.length) :
    (binary op lhs rhs).bracketed .alone (start lhs side + index) =
      (operand lhs rhs side).bracketed .operand index := by
  rw [bracketed, leafText_operand op lhs rhs side index inside,
    parentheses_operand op lhs rhs .lhs side index inside,
    parentheses_operand op lhs rhs .rhs side index inside, bracketed]

theorem join_operand (side : Side) :
    String.join ((List.range (operand lhs rhs side).leaves.length).map fun index =>
      (binary op lhs rhs).separator (start lhs side + index) ++
        (binary op lhs rhs).bracketed .alone (start lhs side + index)) =
      (binary op lhs rhs).separator (start lhs side) ++
        (operand lhs rhs side).closedForm .operand := by
  obtain ⟨count, length⟩ :=
    Nat.exists_eq_add_one_of_ne_zero (Nat.ne_of_gt (length_leaves_pos (operand lhs rhs side)))
  have moved : ∀ index ∈ List.range (count + 1),
      (binary op lhs rhs).separator (start lhs side + index) ++
          (binary op lhs rhs).bracketed .alone (start lhs side + index) =
        (if index = 0 then (binary op lhs rhs).separator (start lhs side) else "") ++
          ((operand lhs rhs side).separator index ++
            (operand lhs rhs side).bracketed .operand index) := by
    intro index member
    have inside : index < (operand lhs rhs side).leaves.length := length ▸ List.mem_range.mp member
    rw [bracketed_operand op lhs rhs side index inside]
    cases index with
    | zero => simp only [if_true, Nat.add_zero, separator_zero, String.empty_append]
    | succ index =>
        rw [separator_operand op lhs rhs side index inside, if_neg (Nat.succ_ne_zero index),
          String.empty_append]
  rw [length, List.map_congr_left moved, join_range_first, closedForm, length]

theorem closedForm_alone :
    (binary op lhs rhs).closedForm .alone =
      lhs.closedForm .operand ++ " " ++ op.symbol ++ " " ++ rhs.closedForm .operand := by
  have left := join_operand op lhs rhs .lhs
  have right := join_operand op lhs rhs .rhs
  simp only [start, operand, Nat.zero_add, separator_zero, separator_between,
    String.empty_append] at left right
  rw [closedForm, leaves, List.length_append, List.range_add, List.map_append, String.join_append,
    left, List.map_map]
  simp only [Function.comp_def, right, String.append_assoc]

end Operand

theorem outermost_lhs_whole (outline : Outline) (index : Nat) :
    outline.Outermost .lhs [] index ↔ index = 0 := by
  constructor
  · rintro ⟨-, outer⟩
    by_contra later
    exact outer 0 (length_leaves_pos outline) (Nat.pos_of_ne_zero later) List.nil_prefix
  · rintro rfl
    exact ⟨List.nil_prefix, fun other _ beyond => absurd beyond (Nat.not_lt_zero other)⟩

theorem outermost_rhs_whole (outline : Outline) (index : Nat)
    (inside : index < outline.leaves.length) :
    outline.Outermost .rhs [] index ↔ index + 1 = outline.leaves.length := by
  constructor
  · rintro ⟨-, outer⟩
    by_contra earlier
    exact outer (index + 1) (by omega) (Nat.lt_succ_self index) List.nil_prefix
  · intro last
    refine ⟨List.nil_prefix, fun other within beyond => ?_⟩
    have : index < other := beyond
    omega

theorem parentheses_begin (op : Operator) (lhs rhs : Outline) (index : Nat) :
    (binary op lhs rhs).parentheses .operand .lhs index =
      (if index = 0 then "( " else "") ++ (binary op lhs rhs).parentheses .alone .lhs index := by
  have whole : decide ((binary op lhs rhs).Outermost .lhs [] index) = decide (index = 0) :=
    decide_eq_decide.mpr (outermost_lhs_whole (binary op lhs rhs) index)
  unfold parentheses
  rw [groupPlaces_operand, List.countP_cons, whole]
  by_cases first : index = 0
  · simp [first, List.replicate_succ, Side.parenthesis]
  · simp [first]

theorem parentheses_end (op : Operator) (lhs rhs : Outline) (index : Nat)
    (inside : index < (binary op lhs rhs).leaves.length) :
    (binary op lhs rhs).parentheses .operand .rhs index =
      (binary op lhs rhs).parentheses .alone .rhs index ++
        if index + 1 = (binary op lhs rhs).leaves.length then " )" else "" := by
  have whole : decide ((binary op lhs rhs).Outermost .rhs [] index) =
      decide (index + 1 = (binary op lhs rhs).leaves.length) :=
    decide_eq_decide.mpr (outermost_rhs_whole (binary op lhs rhs) index inside)
  unfold parentheses
  rw [groupPlaces_operand, List.countP_cons, whole]
  by_cases last : index + 1 = (binary op lhs rhs).leaves.length
  · simp [last, List.replicate_succ', Side.parenthesis]
  · simp [last]

theorem closedForm_operand (op : Operator) (lhs rhs : Outline) :
    (binary op lhs rhs).closedForm .operand =
      "( " ++ (binary op lhs rhs).closedForm .alone ++ " )" := by
  obtain ⟨count, length⟩ :=
    Nat.exists_eq_add_one_of_ne_zero (Nat.ne_of_gt (length_leaves_pos (binary op lhs rhs)))
  have enclosed : ∀ index ∈ List.range (count + 1),
      (binary op lhs rhs).separator index ++ (binary op lhs rhs).bracketed .operand index =
        (if index = 0 then "( " else "") ++
          ((binary op lhs rhs).separator index ++ (binary op lhs rhs).bracketed .alone index ++
            if index = count then " )" else "") := by
    intro index member
    have inside : index < (binary op lhs rhs).leaves.length := length ▸ List.mem_range.mp member
    rw [bracketed, parentheses_begin, parentheses_end op lhs rhs index inside, bracketed, length]
    simp only [Nat.add_right_cancel_iff, String.append_assoc]
    -- The first leaf has no separator, so its parenthesis comes first.
    cases index with
    | zero => simp only [separator_zero, String.empty_append]
    | succ index => simp only [Nat.succ_ne_zero, if_false, String.empty_append]
  rw [closedForm, length, List.map_congr_left enclosed, join_range_first, join_range_last,
    closedForm, length]
  simp only [String.append_assoc]

theorem sql_eq_closedForm (position : Position) (outline : Outline) :
    outline.sql position = outline.closedForm position := by
  induction outline generalizing position with
  | leaf text =>
      cases position <;> simp [sql, closedForm, leaves, separator, bracketed, parentheses,
        groupPlaces, operatorPlaces, leafText]
  | binary op lhs rhs left right =>
      have alone : (binary op lhs rhs).sql .alone = (binary op lhs rhs).closedForm .alone := by
        rw [closedForm_alone, ← left, ← right]
        rfl
      cases position with
      | alone => exact alone
      | operand =>
          rw [closedForm_operand, ← alone]
          rfl

theorem at?_leafPlace (outline : Outline) (index : Nat) (inside : index < outline.leaves.length) :
    outline.at? (outline.leafPlace index) = some (leaf (outline.leafText index)) := by
  induction outline generalizing index with
  | leaf text =>
      obtain rfl : index = 0 := Nat.lt_one_iff.mp inside
      rfl
  | binary op lhs rhs left right =>
      obtain ⟨side, rest, within, rfl⟩ := exists_operand op lhs rhs index inside
      rw [leafPlace_operand op lhs rhs side rest within,
        leafText_operand op lhs rhs side rest within]
      cases side with
      | lhs => exact left rest within
      | rhs => exact right rest within

theorem isSome_operator?_common (outline : Outline) (index : Nat)
    (inside : index + 1 < outline.leaves.length) :
    (outline.operator? (outline.common index)).isSome := by
  induction outline generalizing index with
  | leaf text => exact absurd inside (by simp [leaves])
  | binary op lhs rhs left right =>
      -- Either the two leaves meet at the whole, or both lie in one operand.
      by_cases last : lhs.leaves.length = index + 1
      · rw [common_between op lhs rhs index last]
        rfl
      · obtain ⟨side, rest, within, rfl⟩ :=
          exists_operand op lhs rhs index (Nat.lt_of_succ_lt inside)
        have next : rest + 1 < (operand lhs rhs side).leaves.length := by
          rw [leaves, List.length_append] at inside
          cases side <;> simp only [operand, start] at * <;> omega
        rw [common_operand op lhs rhs side rest next, operator?_operand]
        cases side with
        | lhs => exact left rest next
        | rhs => exact right rest next

end Outline

/-- An expression is written leaf by leaf, and without parentheses in the leaves it is balanced,
with a pair of parentheses for each operator but the outermost. -/
theorem Field.closedForm_sql {schema : Schema} (field : Field schema) (outline : Outline)
    (tree : field.outline? = some outline) :
    field.sql .alone = outline.closedForm .alone ∧
      (∀ index < outline.leaves.length,
        outline.at? (outline.leafPlace index) = some (.leaf (outline.leafText index))) ∧
      (∀ index, index + 1 < outline.leaves.length →
        (outline.operator? (outline.common index)).isSome ∧
          ∀ place, place <+: outline.common index ↔
            place <+: outline.leafPlace index ∧ place <+: outline.leafPlace (index + 1)) ∧
      (outline.Unbracketed →
        (∀ mark ∈ ['(', ')'],
          (field.sql .alone).toList.count mark = outline.operatorPlaces.length - 1) ∧
        ∀ front, front <+: (field.sql .alone).toList → front.count ')' ≤ front.count '(') := by
  rw [field.sql_outline outline tree]
  refine ⟨outline.sql_eq_closedForm .alone, outline.at?_leafPlace, ?_, ?_⟩
  · intro index inside
    exact ⟨outline.isSome_operator?_common index inside, fun place =>
      Place.prefix_meet_iff place _ _⟩
  · intro unbracketed
    refine ⟨?_, (outline.balanced_sql .alone unbracketed).opened⟩
    intro mark member
    have parenthesis : mark = '(' ∨ mark = ')' := by simpa using member
    have absent : ∀ text ∈ outline.leaves, mark ∉ text.toList := by
      intro text leaf
      rcases parenthesis with rfl | rfl
      · exact (unbracketed text leaf).1
      · exact (unbracketed text leaf).2
    rw [outline.count_sql mark parenthesis .alone absent, outline.length_groupPlaces_alone]

/-- A tree that leans to the left inside its right operand. -/
theorem closedForm_of_leaning :
    let expr : Expr := .binary .eq (.column ⟨"users. x", .boolean⟩)
      (.binary .and (.binary .or (.column ⟨"\"y\"", .boolean⟩) (.literal (.boolean true)))
        (.column ⟨"", .boolean⟩))
    let field : Field (Schema.single "" .boolean) := .dynamic expr
    field.outline? = some expr.outline ∧ field.sql .alone = expr.outline.closedForm .alone ∧
      expr.outline.Unbracketed ∧ (field.sql .alone).toList.count '(' = 2 := by
  intro expr field
  have settled := field.closedForm_sql expr.outline rfl
  have unbracketed : expr.outline.Unbracketed := by decide
  exact ⟨rfl, settled.1, unbracketed, (settled.2.2.2 unbracketed).1 '(' (by decide)⟩

example :
    (Outline.binary .eq (.binary .and (.binary .or (.leaf "x") (.leaf "y")) (.leaf "z"))
      (.leaf "w")).closedForm .alone = "( ( x OR y ) AND z ) = w" := by
  decide +kernel

end QueryAlgebra
