import QueryAlgebra.Proofs.Expr.Typing
import QueryAlgebra.Proofs.Outline
import QueryAlgebra.Session

/-!
Everything on the stack of a session is well typed, whatever steps led there: operators fit their
operands at every depth, conditions are boolean, and a statement holds no empty field. The steps
that check nothing keep this as well, because what they take apart or convert was well typed before.
-/

namespace QueryAlgebra

variable {schema : Schema}

def Field.WellTyped : Field schema → Prop
  | .empty => True
  | .dynamic expr => expr.WellTyped
  | .condition found => found.WellTyped
  | .typed expr => expr.toExpr.WellTyped

/-- A filter is empty, a well-typed condition, or a typed expression that is boolean. -/
def Filter.WellTyped : Filter schema → Prop
  | .empty => True
  | .condition found => found.WellTyped
  | .typed expr => expr.toExpr.type = .boolean ∧ expr.toExpr.WellTyped

structure Select.WellTyped (statement : Select schema) : Prop where
  filter : statement.filter.WellTyped
  nonempty : ∀ field ∈ statement.fields, field.isEmpty = false
  fields : ∀ field ∈ statement.fields, field.WellTyped

def Entry.WellTyped : Entry schema → Prop
  | expression field => field.WellTyped
  | taken field => field.WellTyped
  | statement found => found.WellTyped

def Stack.WellTyped (stack : Stack schema) : Prop :=
  ∀ entry ∈ stack, entry.WellTyped

theorem Filter.wellTyped_typed (expr : TypedExpr schema .boolean) :
    (Filter.typed expr).WellTyped :=
  ⟨expr.type_toExpr, expr.wellTyped_toExpr⟩

theorem Filter.wellTyped_toField (filter : Filter schema) (wellTyped : filter.WellTyped) :
    filter.toField.WellTyped := by
  cases filter with
  | empty => trivial
  | condition found => exact wellTyped
  | typed expr => exact wellTyped.2

theorem Select.wellTyped_make (filter : Filter schema) (fields : List (Field schema))
    (condition : filter.WellTyped) (members : ∀ field ∈ fields, field.WellTyped) :
    (make filter fields).WellTyped := by
  refine ⟨condition, ?_, ?_⟩
  · intro field kept
    simpa using (List.mem_filter.mp kept).2
  · intro field kept
    exact members field (List.mem_filter.mp kept).1

theorem Entry.wellTyped_field (entry : Entry schema) (field : Field schema)
    (wellTyped : entry.WellTyped) (found : entry.field? = some field) : field.WellTyped := by
  cases entry with
  | expression held => exact (Option.some.inj found) ▸ wellTyped
  | taken held => exact (Option.some.inj found) ▸ wellTyped
  | statement held => cases found

theorem mem_of_mapM_some {α β : Type} (f : α → Option β) (items : List α) (results : List β)
    (mapped : items.mapM f = some results) :
    ∀ result ∈ results, ∃ item ∈ items, f item = some result := by
  induction items generalizing results with
  | nil =>
      obtain rfl : results = [] := by simpa using mapped.symm
      intro result member
      cases member
  | cons item items ih =>
      simp only [List.mapM_cons, Option.bind_eq_bind, Option.bind_eq_some_iff, Option.pure_def,
        Option.some.injEq] at mapped
      rcases mapped with ⟨first, head, others, tail, rfl⟩
      intro result member
      rcases List.mem_cons.mp member with rfl | member
      · exact ⟨item, List.mem_cons_self, head⟩
      · rcases ih others tail result member with ⟨other, inside, found⟩
        exact ⟨other, List.mem_cons_of_mem item inside, found⟩

namespace Stack

theorem wellTyped_nil : WellTyped ([] : Stack schema) := by
  intro entry member
  cases member

theorem wellTyped_cons (entry : Entry schema) (rest : Stack schema) :
    WellTyped (entry :: rest) ↔ entry.WellTyped ∧ WellTyped rest :=
  List.forall_mem_cons

theorem wellTyped_drop (count : Nat) (stack : Stack schema) (wellTyped : stack.WellTyped) :
    WellTyped (stack.drop count) := by
  intro entry member
  exact wellTyped entry (List.mem_of_mem_drop member)

theorem wellTyped_push (field : Field schema) (rest next : Stack schema) (answer : Answer)
    (built : field.WellTyped) (others : rest.WellTyped)
    (pushed : push field rest = (answer, next)) : next.WellTyped := by
  cases pushed
  exact (wellTyped_cons _ rest).mpr ⟨built, others⟩

theorem wellTyped_settle {α : Type} (outcome : Except QueryError α) (make : α → Field schema)
    (rest next : Stack schema) (answer : Answer)
    (built : ∀ found, outcome = .ok found → (make found).WellTyped) (others : rest.WellTyped)
    (settled : settle (outcome.map make) rest = (answer, next)) : next.WellTyped := by
  cases outcome with
  | ok found =>
      exact wellTyped_push (make found) rest next answer (built found rfl) others settled
  | error error =>
      cases settled
      exact others

theorem wellTyped_typedApplied? (op : Operator) (stack next : Stack schema) (answer : Answer)
    (wellTyped : stack.WellTyped) (applied : typedApplied? op stack = some (answer, next)) :
    next.WellTyped := by
  unfold typedApplied? at applied
  split at applied
  · rename_i right rhs left lhs rest
    simp only [wellTyped_cons] at wellTyped
    rcases Option.bind_eq_some_iff.mp applied with ⟨expr, -, pushed⟩
    exact wellTyped_push (.typed expr) rest next answer expr.wellTyped_toExpr wellTyped.2.2
      (Option.some.inj pushed)
  · cases applied

theorem wellTyped_takeFields? (count : Nat) (stack rest : Stack schema)
    (fields : List (Field schema)) (wellTyped : stack.WellTyped)
    (taken : takeFields? count stack = some (fields, rest)) :
    (∀ field ∈ fields, field.WellTyped) ∧ rest.WellTyped := by
  unfold takeFields? at taken
  split at taken
  · rcases Option.map_eq_some_iff.mp taken with ⟨found, mapped, same⟩
    cases same
    refine ⟨?_, wellTyped_drop count stack wellTyped⟩
    intro field member
    rcases mem_of_mapM_some Entry.field? _ fields mapped field member with ⟨entry, inside, held⟩
    have onStack : entry ∈ stack := List.mem_of_mem_take (List.mem_reverse.mp inside)
    exact entry.wellTyped_field field (wellTyped entry onStack) held
  · cases taken

theorem wellTyped_takeFilter? (source : FilterSource) (stack rest : Stack schema)
    (filter : Filter schema) (wellTyped : stack.WellTyped)
    (taken : takeFilter? source stack = some (filter, rest)) :
    filter.WellTyped ∧ rest.WellTyped := by
  unfold takeFilter? at taken
  split at taken
  · cases taken
    exact ⟨trivial, wellTyped⟩
  · cases taken
    exact ⟨trivial, ((wellTyped_cons _ _).mp wellTyped).2⟩
  · cases taken
    exact (wellTyped_cons _ _).mp wellTyped
  · cases taken
    exact ⟨Filter.wellTyped_typed _, ((wellTyped_cons _ _).mp wellTyped).2⟩
  · cases taken

theorem wellTyped_parts? (stack next : Stack schema) (answer : Answer)
    (wellTyped : stack.WellTyped) (parted : parts? stack = some (answer, next)) :
    next.WellTyped := by
  unfold parts? at parted
  split at parted
  · rename_i op lhs rhs rest
    cases parted
    rcases (wellTyped_cons _ rest).mp wellTyped with ⟨whole, others⟩
    rcases (Expr.wellTyped_binary op lhs rhs).mp whole with ⟨-, left, right⟩
    simp only [wellTyped_cons]
    exact ⟨right, left, others⟩
  · rename_i type expr rest
    rcases Option.bind_eq_some_iff.mp parted with ⟨found, -, same⟩
    cases same
    simp only [wellTyped_cons]
    exact ⟨found.rhs.wellTyped_toExpr, found.lhs.wellTyped_toExpr,
      ((wellTyped_cons _ rest).mp wellTyped).2⟩
  · rename_i statement rest
    cases parted
    rcases (wellTyped_cons _ rest).mp wellTyped with ⟨whole, others⟩
    refine (wellTyped_cons _ _).mpr ⟨Filter.wellTyped_toField _ whole.filter, ?_⟩
    intro entry member
    rcases List.mem_append.mp member with member | member
    · rcases List.mem_map.mp (List.mem_reverse.mp member) with ⟨field, inside, rfl⟩
      exact whole.fields field inside
    · exact others entry member
  · cases parted

theorem wellTyped_applied? (apply : Expr → Expr → Except QueryError Expr)
    (checked : ∀ lhs rhs expr, lhs.WellTyped → rhs.WellTyped → apply lhs rhs = .ok expr →
      expr.WellTyped)
    (stack next : Stack schema) (answer : Answer) (wellTyped : stack.WellTyped)
    (applied : applied? apply stack = some (answer, next)) : next.WellTyped := by
  unfold applied? at applied
  split at applied
  · rename_i rhs lhs rest
    simp only [wellTyped_cons] at wellTyped
    refine wellTyped_settle _ _ rest next answer ?_ wellTyped.2.2 (Option.some.inj applied)
    intro expr built
    exact checked lhs rhs expr wellTyped.2.1 wellTyped.1 built
  · cases applied

theorem wellTyped_condition? (stack next : Stack schema) (answer : Answer)
    (wellTyped : stack.WellTyped) (taken : condition? stack = some (answer, next)) :
    next.WellTyped := by
  unfold condition? at taken
  split at taken
  · rename_i expr rest
    obtain ⟨whole, others⟩ := (wellTyped_cons _ rest).mp wellTyped
    refine wellTyped_settle _ _ rest next answer ?_ others (Option.some.inj taken)
    intro condition found
    obtain ⟨boolean, rfl⟩ := (Condition.ofExpr_eq_ok_iff expr condition).mp found
    exact ⟨boolean, whole⟩
  · cases taken

theorem wellTyped_inner? (stack next : Stack schema) (answer : Answer)
    (wellTyped : stack.WellTyped) (taken : inner? stack = some (answer, next)) :
    next.WellTyped := by
  unfold inner? at taken
  split at taken
  · rename_i found rest
    obtain ⟨condition, others⟩ := (wellTyped_cons _ rest).mp wellTyped
    exact wellTyped_push (.dynamic found.expr) rest next answer condition.2 others
      (Option.some.inj taken)
  · cases taken

theorem wellTyped_takeValue? (stack next : Stack schema) (answer : Answer)
    (wellTyped : stack.WellTyped) (taken : takeValue? stack = some (answer, next)) :
    next.WellTyped := by
  unfold takeValue? at taken
  split at taken
  · cases taken
    exact ((wellTyped_cons _ _).mp wellTyped).2
  · cases taken

theorem wellTyped_toDynamic? (stack next : Stack schema) (answer : Answer)
    (wellTyped : stack.WellTyped) (taken : toDynamic? stack = some (answer, next)) :
    next.WellTyped := by
  unfold toDynamic? at taken
  split at taken
  · rename_i type expr rest
    exact wellTyped_push (.dynamic expr.toExpr) rest next answer expr.wellTyped_toExpr
      ((wellTyped_cons _ rest).mp wellTyped).2 (Option.some.inj taken)
  · rename_i expr rest
    obtain ⟨whole, others⟩ := (wellTyped_cons _ rest).mp wellTyped
    exact wellTyped_push (.dynamic expr) rest next answer whole others (Option.some.inj taken)
  · cases taken

theorem wellTyped_copy? (below : Nat) (stack next : Stack schema) (answer : Answer)
    (wellTyped : stack.WellTyped) (taken : copy? below stack = some (answer, next)) :
    next.WellTyped := by
  unfold copy? at taken
  split at taken
  · rename_i field found
    exact wellTyped_push field stack next answer (wellTyped _ (List.mem_of_getElem? found))
      wellTyped (Option.some.inj taken)
  · cases taken

theorem wellTyped_swap? (stack next : Stack schema) (answer : Answer)
    (wellTyped : stack.WellTyped) (taken : swap? stack = some (answer, next)) :
    next.WellTyped := by
  unfold swap? at taken
  split at taken
  · cases taken
    simp only [wellTyped_cons] at wellTyped ⊢
    exact ⟨wellTyped.2.1, wellTyped.1, wellTyped.2.2⟩
  · cases taken

theorem wellTyped_pop? (stack next : Stack schema) (answer : Answer)
    (wellTyped : stack.WellTyped) (taken : pop? stack = some (answer, next)) :
    next.WellTyped := by
  unfold pop? at taken
  split at taken
  · cases taken
    exact ((wellTyped_cons _ _).mp wellTyped).2
  · cases taken

theorem wellTyped_join? (count : Nat) (separator : String) (room : Option Nat)
    (stack next : Stack schema) (answer : Answer) (wellTyped : stack.WellTyped)
    (taken : join? count separator room stack = some (answer, next)) : next.WellTyped := by
  rcases Option.bind_eq_some_iff.mp taken with ⟨⟨fields, rest⟩, fieldsTaken, same⟩
  cases same
  exact (wellTyped_takeFields? count stack _ fields wellTyped fieldsTaken).2

theorem wellTyped_select? (count : Nat) (source : FilterSource) (stack next : Stack schema)
    (answer : Answer) (wellTyped : stack.WellTyped)
    (taken : select? count source stack = some (answer, next)) : next.WellTyped := by
  rcases Option.bind_eq_some_iff.mp taken with ⟨⟨filter, above⟩, filterTaken, built⟩
  rcases Option.bind_eq_some_iff.mp built with ⟨⟨fields, rest⟩, fieldsTaken, same⟩
  cases same
  obtain ⟨condition, others⟩ :=
    wellTyped_takeFilter? source stack above filter wellTyped filterTaken
  obtain ⟨members, below⟩ := wellTyped_takeFields? count above rest fields others fieldsTaken
  exact (wellTyped_cons _ rest).mpr ⟨Select.wellTyped_make filter fields condition members, below⟩

theorem wellTyped_shown? (found : Option Answer) (stack next : Stack schema) (answer : Answer)
    (wellTyped : stack.WellTyped) (shown : shown? found stack = some (answer, next)) :
    next.WellTyped := by
  rcases Option.map_eq_some_iff.mp shown with ⟨given, -, same⟩
  cases same
  exact wellTyped

theorem wellTyped_step? (stack next : Stack schema) (action : Step schema) (answer : Answer)
    (wellTyped : stack.WellTyped) (stepped : stack.step? action = some (answer, next)) :
    next.WellTyped := by
  cases action with
  | column key type =>
      refine wellTyped_settle _ _ stack next answer ?_ wellTyped (Option.some.inj stepped)
      intro spec _
      exact Expr.wellTyped_column spec
  | literal value =>
      exact wellTyped_push (.dynamic (.literal value)) stack next answer
        (Expr.wellTyped_literal value) wellTyped (Option.some.inj stepped)
  | applyToken token =>
      exact wellTyped_applied? _ (Expr.wellTyped_applyToken token) stack next answer wellTyped
        stepped
  | apply op =>
      exact wellTyped_applied? _ (Expr.wellTyped_apply op) stack next answer wellTyped stepped
  | condition => exact wellTyped_condition? stack next answer wellTyped stepped
  | inner => exact wellTyped_inner? stack next answer wellTyped stepped
  | typedColumn name =>
      cases stepped
      exact (wellTyped_cons _ stack).mpr ⟨TypedExpr.wellTyped_toExpr _, wellTyped⟩
  | typedLiteral value =>
      exact wellTyped_push (.typed (.literal value.toLiteral)) stack next answer
        (TypedExpr.wellTyped_toExpr _) wellTyped (Option.some.inj stepped)
  | typedApply op => exact wellTyped_typedApplied? op stack next answer wellTyped stepped
  | typedApplyTo op value =>
      have literal : WellTyped (.expression (.typed (.literal value.toLiteral)) :: stack) :=
        (wellTyped_cons _ stack).mpr ⟨TypedExpr.wellTyped_toExpr _, wellTyped⟩
      exact wellTyped_typedApplied? op _ next answer literal stepped
  | takeValue => exact wellTyped_takeValue? stack next answer wellTyped stepped
  | toDynamic => exact wellTyped_toDynamic? stack next answer wellTyped stepped
  | empty =>
      exact wellTyped_push .empty stack next answer trivial wellTyped (Option.some.inj stepped)
  | parts => exact wellTyped_parts? stack next answer wellTyped stepped
  | copy below => exact wellTyped_copy? below stack next answer wellTyped stepped
  | swap => exact wellTyped_swap? stack next answer wellTyped stepped
  | pop => exact wellTyped_pop? stack next answer wellTyped stepped
  | same | isEmpty | display | write | writeOperand =>
      exact wellTyped_shown? _ stack next answer wellTyped stepped
  | join count separator room =>
      exact wellTyped_join? count separator room stack next answer wellTyped stepped
  | select count source => exact wellTyped_select? count source stack next answer wellTyped stepped

/-- The stack after all of the steps, if each of them fits the stack it meets. A refused step is
taken as well; it consumes its operands. -/
def after? (stack : Stack schema) : List (Step schema) → Option (Stack schema)
  | [] => some stack
  | action :: actions => do
      let (_, next) ← stack.step? action
      next.after? actions

theorem wellTyped_after? (actions : List (Step schema)) (stack last : Stack schema)
    (wellTyped : stack.WellTyped) (reached : stack.after? actions = some last) :
    last.WellTyped := by
  induction actions generalizing stack with
  | nil =>
      obtain rfl : stack = last := Option.some.inj reached
      exact wellTyped
  | cons action actions ih =>
      rcases Option.bind_eq_some_iff.mp reached with ⟨⟨answer, next⟩, stepped, rest⟩
      exact ih next (wellTyped_step? stack next action answer wellTyped stepped) rest

/-- Every value held after any steps from the empty stack on is well typed. -/
theorem session_wellTyped (actions : List (Step schema)) (stack : Stack schema)
    (reached : after? [] actions = some stack) : stack.WellTyped :=
  wellTyped_after? actions [] stack wellTyped_nil reached

/-- A session in which a mismatch is refused, a typed column is converted and used in a condition,
and a statement over the condition is taken apart again. -/
theorem session_wellTyped_parts :
    let steps : List (Step (Schema.single "active" .boolean)) :=
      [.literal (.boolean true), .literal (.text ""), .applyToken "=", .literal (.boolean true),
       .empty, .typedColumn (), .toDynamic, .literal (.boolean true), .applyToken "or",
       .condition, .select 2 .popped, .parts]
    let flag : Expr := .binary .or (.column ⟨"active", .boolean⟩) (.literal (.boolean true))
    let stack : Stack (Schema.single "active" .boolean) :=
      [.expression (.condition ⟨flag⟩), .taken (.dynamic (.literal (.boolean true)))]
    after? [] steps = some stack ∧ stack.WellTyped := by
  intro steps flag stack
  have reached : after? [] steps = some stack := rfl
  exact ⟨reached, session_wellTyped steps stack reached⟩

end Stack
end QueryAlgebra
