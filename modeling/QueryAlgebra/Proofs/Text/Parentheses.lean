import Mathlib.Data.List.Basic

/-!
Balanced text. What stands in front of the first parenthesis that closes nothing is found again in
the text by counting, if it is balanced.
-/

namespace QueryAlgebra

/-- Every closing parenthesis has an opening one in front of it, and the other way round. -/
structure Balanced (text : List Char) : Prop where
  count_eq : text.count '(' = text.count ')'
  opened : ∀ front, front <+: text → front.count ')' ≤ front.count '('

theorem prefix_append_cases (front first second : List Char) (inside : front <+: first ++ second) :
    front <+: first ∨ ∃ rest, front = first ++ rest ∧ rest <+: second := by
  rcases List.prefix_or_prefix_of_prefix inside (List.prefix_append first second) with
    within | ⟨rest, rfl⟩
  · exact .inl within
  · exact .inr ⟨rest, rfl, (List.prefix_append_right_inj first).mp inside⟩

theorem balanced_of_not_mem (text : List Char) (noOpen : '(' ∉ text) (noClose : ')' ∉ text) :
    Balanced text := by
  constructor
  · rw [List.count_eq_zero.mpr noOpen, List.count_eq_zero.mpr noClose]
  · intro front inside
    have absent : ')' ∉ front := fun member => noClose (inside.subset member)
    rw [List.count_eq_zero.mpr absent]
    exact Nat.zero_le _

theorem Balanced.append {first second : List Char} (left : Balanced first)
    (right : Balanced second) : Balanced (first ++ second) := by
  constructor
  · rw [List.count_append, List.count_append, left.count_eq, right.count_eq]
  · intro front inside
    rcases prefix_append_cases front first second inside with within | ⟨rest, rfl, beyond⟩
    · exact left.opened front within
    · have := right.opened rest beyond
      rw [List.count_append, List.count_append, left.count_eq]
      omega

theorem Balanced.enclose {text : List Char} (inner : Balanced text) :
    Balanced ('(' :: text ++ [')']) := by
  constructor
  · simp [inner.count_eq]
  · intro front inside
    rcases prefix_append_cases front ('(' :: text) [')'] inside with within | ⟨rest, rfl, last⟩
    · cases front with
      | nil => exact Nat.le_refl _
      | cons first front =>
          obtain ⟨rfl, below⟩ := List.cons_prefix_cons.mp within
          have := inner.opened front below
          simp only [List.count_cons_self]
          rw [List.count_cons_of_ne (by decide)]
          omega
    · have short : rest.count ')' ≤ 1 := last.sublist.count_le ')'
      have even := inner.count_eq
      simp only [List.count_append, List.count_cons_self]
      rw [List.count_cons_of_ne (by decide)]
      omega

/-- What stands in front of the parenthesis that closes the outermost of the open ones, and what
follows it. -/
def splitAtClose : Nat → List Char → Option (List Char × List Char)
  | _, [] => none
  | depth, c :: text =>
      if c = ')' then
        match depth with
        | 0 => some ([], text)
        | depth + 1 => (splitAtClose depth text).map fun (front, rest) => (c :: front, rest)
      else
        let inside := if c = '(' then depth + 1 else depth
        (splitAtClose inside text).map fun (front, rest) => (c :: front, rest)

theorem splitAtClose_append (depth : Nat) (text rest : List Char)
    (closes : text.count ')' = text.count '(' + depth)
    (opened : ∀ front, front <+: text → front.count ')' ≤ front.count '(' + depth) :
    splitAtClose depth (text ++ ')' :: rest) = some (text, rest) := by
  -- The number of open parentheses changes along the text.
  induction text generalizing depth with
  | nil =>
      obtain rfl : 0 = depth := by simpa using closes
      rfl
  | cons c text ih =>
      have behind : ∀ front, front <+: text →
          (c :: front).count ')' ≤ (c :: front).count '(' + depth :=
        fun front inside => opened (c :: front) (List.cons_prefix_cons.mpr ⟨rfl, inside⟩)
      by_cases close : c = ')'
      · subst close
        simp only [List.count_cons_self, List.count_cons_of_ne (show ')' ≠ '(' by decide)]
          at closes behind
        cases depth with
        | zero => exact absurd (behind [] List.nil_prefix) (by simp)
        | succ depth =>
            have inner := ih depth (by omega) fun front inside => by
              have := behind front inside
              omega
            simp [splitAtClose, inner]
      · rw [List.count_cons_of_ne close] at closes
        by_cases opening : c = '('
        · subst opening
          simp only [List.count_cons_self, List.count_cons_of_ne close] at closes behind
          have inner := ih (depth + 1) (by omega) fun front inside => by
            have := behind front inside
            omega
          simp [splitAtClose, inner]
        · simp only [List.count_cons_of_ne opening, List.count_cons_of_ne close] at closes behind
          simp [splitAtClose, close, opening, ih depth closes behind]

theorem Balanced.splitAtClose_append {text : List Char} (balanced : Balanced text)
    (rest : List Char) : splitAtClose 0 (text ++ ')' :: rest) = some (text, rest) :=
  QueryAlgebra.splitAtClose_append 0 text rest balanced.count_eq.symm balanced.opened

end QueryAlgebra
