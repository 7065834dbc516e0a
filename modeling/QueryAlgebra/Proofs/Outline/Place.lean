import QueryAlgebra.Proofs.Outline
import Mathlib.Data.List.Basic

/-!
Places in an outline. A place is the way down to it from the whole, so that the places above a place
are its prefixes, and the lowest place above two places is what their ways have in common.
-/

namespace QueryAlgebra

inductive Side where
  | lhs
  | rhs
  deriving DecidableEq, Repr

abbrev Place := List Side

/-- The lowest place above two places. -/
def Place.meet : Place → Place → Place
  | side :: first, other :: second => if side = other then side :: meet first second else []
  | _, _ => []

theorem Place.prefix_meet_iff (place first second : Place) :
    place <+: meet first second ↔ place <+: first ∧ place <+: second := by
  fun_induction meet first second generalizing place with
  | case1 side first second ih =>
      cases place with
      | nil => simp only [List.nil_prefix, and_self]
      | cons step place =>
          simp only [List.cons_prefix_cons, ih]
          exact and_and_left
  | case2 side first other second differ =>
      cases place with
      | nil => simp only [List.nil_prefix, and_self]
      | cons step place =>
          simp only [List.cons_prefix_cons, List.prefix_nil, List.cons_ne_nil, false_iff]
          rintro ⟨⟨rfl, -⟩, rfl, -⟩
          exact differ rfl
  | case3 first second short =>
      cases place with
      | nil => simp only [List.nil_prefix, and_self]
      | cons step place =>
          simp only [List.prefix_nil, List.cons_ne_nil, false_iff]
          rintro ⟨⟨front, rfl⟩, ⟨back, rfl⟩⟩
          exact short _ _ _ _ rfl rfl

namespace Outline

def at? : Outline → Place → Option Outline
  | outline, [] => some outline
  | binary _ lhs _, .lhs :: place => lhs.at? place
  | binary _ _ rhs, .rhs :: place => rhs.at? place
  | leaf _, _ :: _ => none

def leafPlaces : Outline → List Place
  | leaf _ => [[]]
  | binary _ lhs rhs => lhs.leafPlaces.map (.lhs :: ·) ++ rhs.leafPlaces.map (.rhs :: ·)

def operatorPlaces : Outline → List Place
  | leaf _ => []
  | binary _ lhs rhs =>
      [] :: (lhs.operatorPlaces.map (.lhs :: ·) ++ rhs.operatorPlaces.map (.rhs :: ·))

/-- The places of the operators that are put in parentheses. -/
def groupPlaces : Position → Outline → List Place
  | .alone, outline => outline.operatorPlaces.filter (· ≠ [])
  | .operand, outline => outline.operatorPlaces

def leafPlace (outline : Outline) (index : Nat) : Place := outline.leafPlaces.getD index []

def leafText (outline : Outline) (index : Nat) : String := outline.leaves.getD index ""

theorem length_leafPlaces (outline : Outline) :
    outline.leafPlaces.length = outline.leaves.length := by
  induction outline with
  | leaf text => rfl
  | binary op lhs rhs left right => simp [leafPlaces, leaves, left, right]

theorem length_leaves_pos (outline : Outline) : 0 < outline.leaves.length := by
  induction outline with
  | leaf text => exact Nat.one_pos
  | binary op lhs rhs left right =>
      rw [leaves, List.length_append]
      exact Nat.add_pos_left left _

def operand (lhs rhs : Outline) : Side → Outline
  | .lhs => lhs
  | .rhs => rhs

def start (lhs : Outline) : Side → Nat
  | .lhs => 0
  | .rhs => lhs.leaves.length

variable (op : Operator) (lhs rhs : Outline)

theorem start_add_lt (side : Side) (index : Nat)
    (inside : index < (operand lhs rhs side).leaves.length) :
    start lhs side + index < (binary op lhs rhs).leaves.length := by
  rw [leaves, List.length_append]
  cases side with
  | lhs =>
      have : index < lhs.leaves.length := inside
      simp only [start]
      omega
  | rhs => exact Nat.add_lt_add_left inside _

theorem exists_operand (index : Nat) (inside : index < (binary op lhs rhs).leaves.length) :
    ∃ side rest, rest < (operand lhs rhs side).leaves.length ∧ index = start lhs side + rest := by
  rw [leaves, List.length_append] at inside
  by_cases left : index < lhs.leaves.length
  · exact ⟨.lhs, index, left, (Nat.zero_add index).symm⟩
  · obtain ⟨rest, rfl⟩ := Nat.exists_eq_add_of_le (Nat.le_of_not_lt left)
    exact ⟨.rhs, rest, by simpa [operand] using inside, rfl⟩

theorem leafPlace_operand (side : Side) (index : Nat)
    (inside : index < (operand lhs rhs side).leaves.length) :
    (binary op lhs rhs).leafPlace (start lhs side + index) =
      side :: (operand lhs rhs side).leafPlace index := by
  cases side with
  | lhs =>
      have within : index < lhs.leafPlaces.length := length_leafPlaces lhs ▸ inside
      simp [leafPlace, leafPlaces, operand, start, List.getElem?_append_left, within]
  | rhs =>
      have found := List.getElem?_eq_getElem (length_leafPlaces rhs ▸ inside)
      simp [leafPlace, leafPlaces, operand, start, List.getElem?_append_right, length_leafPlaces,
        found]

theorem leafText_operand (side : Side) (index : Nat)
    (inside : index < (operand lhs rhs side).leaves.length) :
    (binary op lhs rhs).leafText (start lhs side + index) =
      (operand lhs rhs side).leafText index := by
  cases side with
  | lhs =>
      have within : index < lhs.leaves.length := inside
      simp [leafText, leaves, operand, start, List.getElem?_append_left, within]
  | rhs => simp [leafText, leaves, operand, start, List.getElem?_append_right]

theorem groupPlaces_alone :
    (binary op lhs rhs).groupPlaces .alone =
      (lhs.groupPlaces .operand).map (.lhs :: ·) ++ (rhs.groupPlaces .operand).map (.rhs :: ·) := by
  rw [groupPlaces, operatorPlaces, List.filter_cons_of_neg (by simp), List.filter_eq_self.mpr]
  · rfl
  · intro place below
    rcases List.mem_append.mp below with below | below
    all_goals
      obtain ⟨rest, -, rfl⟩ := List.mem_map.mp below
      rfl

theorem groupPlaces_operand :
    (binary op lhs rhs).groupPlaces .operand = [] :: (binary op lhs rhs).groupPlaces .alone := by
  rw [groupPlaces_alone]
  rfl

theorem length_groupPlaces_alone (outline : Outline) :
    (outline.groupPlaces .alone).length = outline.operatorPlaces.length - 1 := by
  cases outline with
  | leaf text => rfl
  | binary op lhs rhs => rw [groupPlaces_alone]; simp [groupPlaces, operatorPlaces]

end Outline
end QueryAlgebra
