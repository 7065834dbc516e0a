import QueryAlgebra.Proofs.Expr.Typing
import Mathlib.Tactic.ByContra

/-!
Descriptions of expressions as they come from outside: any text may stand for a key, any text for an
operator. A description is built bottom-up, the left operand before the right one and both before
the operator, up to the first construction that fails. Building succeeds on exactly the
descriptions that the typing rules derive, and a failure is the fault of the first construction that
has one.
-/

namespace QueryAlgebra

def Operator.tokens : Operator → List String
  | eq => ["="]
  | and => ["AND", "and"]
  | or => ["OR", "or"]

theorem Operator.ofToken?_eq_some_iff (token : String) (op : Operator) :
    ofToken? token = some op ↔ token ∈ op.tokens := by
  unfold ofToken?
  split
  · rename_i named
    subst named
    cases op <;> decide
  · split
    · rename_i named
      rcases named with rfl | rfl <;> cases op <;> decide
    · split
      · rename_i named
        rcases named with rfl | rfl <;> cases op <;> decide
      · cases op <;> simp_all [tokens]

theorem Operator.ofToken?_eq_none_iff (token : String) :
    ofToken? token = none ↔ ∀ op : Operator, token ∉ op.tokens := by
  simp only [← ofToken?_eq_some_iff, Option.eq_none_iff_forall_ne_some, ne_eq]

inductive Value.HasType : Value → DataType → Prop where
  | boolean (value : Bool) : HasType (boolean value) .boolean
  | integer (value : Int32) : HasType (integer value) .integer
  | bigInt (value : Int64) : HasType (bigInt value) .bigInt
  | real (value : Binary32) : HasType (real value) .real
  | double (value : Binary64) : HasType (double value) .double
  | text (value : String) : HasType (text value) .text
  | json (value : Document) : HasType (json value) .json
  | uuid (value : Uuid) : HasType (uuid value) .uuid
  | timestamp (value : Timestamp) : HasType (timestamp value) .timestamp
  | decimal (value : Decimal) : HasType (decimal value) .decimal

theorem Value.hasType_iff (value : Value) (type : DataType) :
    value.HasType type ↔ type = value.type := by
  constructor
  · intro typed
    cases typed <;> rfl
  · rintro rfl
    cases value <;> constructor

inductive Description where
  | column (key : String) (type : DataType)
  | literal (value : Value)
  | binary (token : String) (lhs rhs : Description)

namespace Description

def build : Description → Except QueryError Expr
  | column key type => do
      let spec ← Column.create key type
      pure (.column spec)
  | literal value => pure (.literal value)
  | binary token lhs rhs => do
      let left ← lhs.build
      let right ← rhs.build
      Expr.applyToken token left right

/-- The parts of a description in the order in which they are constructed, the whole one last. -/
def constructions : Description → List Description
  | column key type => [column key type]
  | literal value => [literal value]
  | binary token lhs rhs => lhs.constructions ++ rhs.constructions ++ [binary token lhs rhs]

inductive HasType : Description → DataType → Prop where
  | column (key : String) (type : DataType) : HasType (column key type) type
  | literal {value : Value} {type : DataType} (typed : value.HasType type) :
      HasType (literal value) type
  | equality {token : String} {lhs rhs : Description} {type : DataType}
      (named : token ∈ Operator.eq.tokens) (left : HasType lhs type) (right : HasType rhs type) :
      HasType (binary token lhs rhs) .boolean
  | conjunction {token : String} {lhs rhs : Description} (named : token ∈ Operator.and.tokens)
      (left : HasType lhs .boolean) (right : HasType rhs .boolean) :
      HasType (binary token lhs rhs) .boolean
  | disjunction {token : String} {lhs rhs : Description} (named : token ∈ Operator.or.tokens)
      (left : HasType lhs .boolean) (right : HasType rhs .boolean) :
      HasType (binary token lhs rhs) .boolean

/-- The expression that a description describes: keys and values as they are, each operator for one
of its spellings. -/
inductive Describes : Description → Expr → Prop where
  | column (key : String) (type : DataType) : Describes (column key type) (.column ⟨key, type⟩)
  | literal (value : Value) : Describes (literal value) (.literal value)
  | binary {token : String} {op : Operator} {lhs rhs : Description} {left right : Expr}
      (named : token ∈ op.tokens) (first : Describes lhs left) (second : Describes rhs right) :
      Describes (binary token lhs rhs) (.binary op left right)

/-- What is wrong with a construction whose operands are constructed. A token that names no operator
is blamed whatever the operands are. -/
inductive Fault : Description → QueryError → Prop where
  | blankKey {key : String} {type : DataType} (blank : ∀ c ∈ key.toList, isBlank c = true) :
      Fault (column key type) (.badColumn (type.sqlName ++ " column has an empty key"))
  | unknownToken {token : String} {lhs rhs : Description}
      (unknown : ∀ op : Operator, token ∉ op.tokens) :
      Fault (binary token lhs rhs) (.unknownOperator token)
  | mismatch {token : String} {op : Operator} {lhs rhs : Description} {left right : DataType}
      (named : token ∈ op.tokens) (first : HasType lhs left) (second : HasType rhs right)
      (underivable : ∀ type, ¬ HasType (binary token lhs rhs) type) :
      Fault (binary token lhs rhs) (.typeMismatch op left right)

def Faultless (description : Description) : Prop := ∀ error, ¬ description.Fault error

/-- The fault of the first construction that has one. -/
def FirstFault (description : Description) (error : QueryError) : Prop :=
  ∃ before failing after, description.constructions = before ++ failing :: after ∧
    (∀ earlier ∈ before, earlier.Faultless) ∧ failing.Fault error

theorem HasType.unique {description : Description} {type other : DataType}
    (first : description.HasType type) (second : description.HasType other) : type = other := by
  cases first with
  | column => cases second; rfl
  | literal typed =>
      cases second with
      | literal typed' =>
          exact ((Value.hasType_iff _ _).mp typed).trans ((Value.hasType_iff _ _).mp typed').symm
  | equality | conjunction | disjunction => cases second <;> rfl

theorem HasType.operands {token : String} {lhs rhs : Description} {type : DataType}
    (derived : (binary token lhs rhs).HasType type) :
    (∃ left, lhs.HasType left) ∧ ∃ right, rhs.HasType right := by
  cases derived with
  | equality _ left right | conjunction _ left right | disjunction _ left right =>
      exact ⟨⟨_, left⟩, ⟨_, right⟩⟩

theorem HasType.eq_boolean {token : String} {lhs rhs : Description} {type : DataType}
    (derived : (binary token lhs rhs).HasType type) : type = .boolean := by
  cases derived <;> rfl

theorem mem_constructions_column (key : String) (type : DataType) (part : Description) :
    part ∈ (column key type).constructions ↔ part = column key type :=
  List.mem_singleton

theorem mem_constructions_literal (value : Value) (part : Description) :
    part ∈ (literal value).constructions ↔ part = literal value :=
  List.mem_singleton

theorem mem_constructions_binary (token : String) (lhs rhs part : Description) :
    part ∈ (binary token lhs rhs).constructions ↔
      part ∈ lhs.constructions ∨ part ∈ rhs.constructions ∨ part = binary token lhs rhs := by
  simp only [constructions, List.mem_append, List.mem_singleton, or_assoc]

theorem hasType_binary_iff (token : String) (op : Operator) (lhs rhs : Description)
    (left right : DataType) (named : token ∈ op.tokens) (first : lhs.HasType left)
    (second : rhs.HasType right) :
    (∃ type, (binary token lhs rhs).HasType type) ↔ op.Fits left right := by
  have spelled := (Operator.ofToken?_eq_some_iff token op).mpr named
  constructor
  · rintro ⟨type, derived⟩
    cases derived with
    | equality other lhsType rhsType =>
        rw [(Operator.ofToken?_eq_some_iff token .eq).mpr other] at spelled
        cases spelled
        exact (first.unique lhsType).trans (rhsType.unique second)
    | conjunction other lhsType rhsType =>
        rw [(Operator.ofToken?_eq_some_iff token .and).mpr other] at spelled
        cases spelled
        exact ⟨first.unique lhsType, second.unique rhsType⟩
    | disjunction other lhsType rhsType =>
        rw [(Operator.ofToken?_eq_some_iff token .or).mpr other] at spelled
        cases spelled
        exact ⟨first.unique lhsType, second.unique rhsType⟩
  · intro fits
    refine ⟨.boolean, ?_⟩
    cases op with
    | eq =>
        have same : left = right := fits
        subst same
        exact .equality named first second
    | and =>
        rcases fits with ⟨rfl, rfl⟩
        exact .conjunction named first second
    | or =>
        rcases fits with ⟨rfl, rfl⟩
        exact .disjunction named first second

theorem Fault.unique {description : Description} {error other : QueryError}
    (first : description.Fault error) (second : description.Fault other) : error = other := by
  cases first with
  | blankKey blank => cases second; rfl
  | unknownToken unknown =>
      cases second with
      | unknownToken => rfl
      | mismatch named => exact absurd named (unknown _)
  | mismatch named left right underivable =>
      cases second with
      | unknownToken unknown => exact absurd named (unknown _)
      | mismatch named' left' right' underivable' =>
          have spelled := (Operator.ofToken?_eq_some_iff _ _).mpr named
          rw [(Operator.ofToken?_eq_some_iff _ _).mpr named'] at spelled
          rw [Option.some.inj spelled, left.unique left', right.unique right']

/-- Of two decompositions with nothing faulty before the point, both have the same point. -/
theorem firstFault_unique (description : Description) (error other : QueryError)
    (first : description.FirstFault error) (second : description.FirstFault other) :
    error = other := by
  rcases first with ⟨before, failing, after, split, clean, fault⟩
  rcases second with ⟨before', failing', after', split', clean', fault'⟩
  rw [split] at split'
  rcases List.append_eq_append_iff.mp split' with ⟨gap, rfl, rest⟩ | ⟨gap, rfl, rest⟩
  · cases gap with
    | nil =>
        rcases List.cons.inj rest with ⟨rfl, -⟩
        exact fault.unique fault'
    | cons head tail =>
        rcases List.cons.inj rest with ⟨rfl, -⟩
        exact absurd fault (clean' failing (by simp) error)
  · cases gap with
    | nil =>
        rcases List.cons.inj rest with ⟨rfl, -⟩
        exact fault.unique fault'
    | cons head tail =>
        rcases List.cons.inj rest with ⟨rfl, -⟩
        exact absurd fault' (clean failing' (by simp) other)

theorem firstFault_self (description : Description) (error : QueryError)
    (before : List Description) (parts : description.constructions = before ++ [description])
    (clean : ∀ earlier ∈ before, earlier.Faultless) (fault : description.Fault error) :
    description.FirstFault error :=
  ⟨before, description, [], parts, clean, fault⟩

theorem firstFault_lhs (token : String) (lhs rhs : Description) (error : QueryError)
    (fault : lhs.FirstFault error) : (binary token lhs rhs).FirstFault error := by
  rcases fault with ⟨before, failing, after, split, clean, fault⟩
  refine ⟨before, failing, after ++ rhs.constructions ++ [binary token lhs rhs], ?_, clean, fault⟩
  simp only [constructions, split, List.append_assoc, List.cons_append]

theorem firstFault_rhs (token : String) (lhs rhs : Description) (error : QueryError)
    (left : ∀ part ∈ lhs.constructions, part.Faultless) (fault : rhs.FirstFault error) :
    (binary token lhs rhs).FirstFault error := by
  rcases fault with ⟨before, failing, after, split, clean, fault⟩
  refine ⟨lhs.constructions ++ before, failing, after ++ [binary token lhs rhs], ?_, ?_, fault⟩
  · simp only [constructions, split, List.append_assoc, List.cons_append]
  · intro earlier member
    rcases List.mem_append.mp member with member | member
    · exact left earlier member
    · exact clean earlier member

theorem build_column (key : String) (type : DataType) :
    (column key type).build =
      if isBlankText key then .error (.badColumn (type.sqlName ++ " column has an empty key"))
      else .ok (.column ⟨key, type⟩) := by
  unfold build Column.create
  cases isBlankText key <;> rfl

theorem build_binary_eq_ok_iff (token : String) (lhs rhs : Description) (expr : Expr) :
    (binary token lhs rhs).build = .ok expr ↔
      ∃ left right, lhs.build = .ok left ∧ rhs.build = .ok right ∧
        Expr.applyToken token left right = .ok expr := by
  rw [build]
  cases lhs.build with
  | error error => simp [bind, Except.bind]
  | ok left =>
      cases rhs.build with
      | error error => simp [bind, Except.bind]
      | ok right => simp [bind, Except.bind]

theorem build_binary_eq_error_iff (token : String) (lhs rhs : Description) (error : QueryError) :
    (binary token lhs rhs).build = .error error ↔
      lhs.build = .error error ∨
        ∃ left, lhs.build = .ok left ∧
          (rhs.build = .error error ∨
            ∃ right, rhs.build = .ok right ∧
              Expr.applyToken token left right = .error error) := by
  rw [build]
  cases lhs.build with
  | error error => simp [bind, Except.bind]
  | ok left =>
      cases rhs.build with
      | error error => simp [bind, Except.bind]
      | ok right => simp [bind, Except.bind]

theorem isBlankText_iff (text : String) :
    isBlankText text = true ↔ ∀ c ∈ text.toList, isBlank c = true := by
  simp only [isBlankText, List.all_eq_true]

theorem describes_of_build (description : Description) (expr : Expr)
    (built : description.build = .ok expr) :
    description.Describes expr ∧ description.HasType expr.type ∧
      ∀ part ∈ description.constructions, part.Faultless := by
  -- One induction for all three: the types of the operands decide whether the operator fits, and
  -- that the operands are clean is what a fault of the whole is weighed against.
  induction description generalizing expr with
  | column key type =>
      rw [build_column] at built
      split at built
      · cases built
      · rename_i visible
        cases built
        refine ⟨.column key type, .column key type, ?_⟩
        intro part member error fault
        have same := (mem_constructions_column key type part).mp member
        subst same
        cases fault with
        | blankKey blank => exact visible ((isBlankText_iff key).mpr blank)
  | literal value =>
      cases built
      refine ⟨.literal value, .literal ((value.hasType_iff _).mpr rfl), ?_⟩
      intro part member error fault
      have same := (mem_constructions_literal value part).mp member
      subst same
      cases fault
  | binary token lhs rhs lhsIH rhsIH =>
      obtain ⟨left, right, leftBuilt, rightBuilt, applied⟩ :=
        (build_binary_eq_ok_iff token lhs rhs expr).mp built
      rcases lhsIH left leftBuilt with ⟨leftShape, leftType, leftClean⟩
      rcases rhsIH right rightBuilt with ⟨rightShape, rightType, rightClean⟩
      rcases (Expr.applyToken_eq_ok_iff token left right expr).mp applied with
        ⟨op, spelled, fits, rfl⟩
      have named := (Operator.ofToken?_eq_some_iff token op).mp spelled
      obtain ⟨type, derived⟩ :=
        (hasType_binary_iff token op lhs rhs _ _ named leftType rightType).mpr fits
      have boolean := derived.eq_boolean
      subst boolean
      refine ⟨.binary named leftShape rightShape, derived, ?_⟩
      intro part member
      rcases (mem_constructions_binary token lhs rhs part).mp member with member | member | rfl
      · exact leftClean part member
      · exact rightClean part member
      · intro error fault
        cases fault with
        | unknownToken unknown => exact unknown op named
        | mismatch _ _ _ underivable => exact underivable .boolean derived

theorem firstFault_of_build (description : Description) (error : QueryError)
    (failed : description.build = .error error) : description.FirstFault error := by
  induction description generalizing error with
  | column key type =>
      rw [build_column] at failed
      split at failed
      · rename_i blank
        cases failed
        exact firstFault_self _ _ [] rfl (by simp) (.blankKey ((isBlankText_iff key).mp blank))
      · cases failed
  | literal value => cases failed
  | binary token lhs rhs lhsIH rhsIH =>
      -- The left operand is constructed first, so whatever it holds comes before a fault of the
      -- right one.
      rcases (build_binary_eq_error_iff token lhs rhs error).mp failed with
        leftFailed | ⟨left, leftBuilt, rightFailed | ⟨right, rightBuilt, refused⟩⟩
      · exact firstFault_lhs token lhs rhs error (lhsIH error leftFailed)
      · have leftClean := (describes_of_build lhs left leftBuilt).2.2
        exact firstFault_rhs token lhs rhs error leftClean (rhsIH error rightFailed)
      · rcases describes_of_build lhs left leftBuilt with ⟨-, leftType, leftClean⟩
        rcases describes_of_build rhs right rightBuilt with ⟨-, rightType, rightClean⟩
        have clean : ∀ earlier ∈ lhs.constructions ++ rhs.constructions, earlier.Faultless := by
          intro earlier member
          rcases List.mem_append.mp member with member | member
          · exact leftClean earlier member
          · exact rightClean earlier member
        refine firstFault_self _ error _ rfl clean ?_
        rcases (Expr.applyToken_eq_error_iff token left right error).mp refused with
          ⟨unnamed, rfl⟩ | ⟨op, spelled, unfit, rfl⟩
        · exact .unknownToken ((Operator.ofToken?_eq_none_iff token).mp unnamed)
        · have named := (Operator.ofToken?_eq_some_iff token op).mp spelled
          refine .mismatch named leftType rightType ?_
          intro type derived
          exact unfit ((hasType_binary_iff token op lhs rhs _ _ named leftType rightType).mp
            ⟨type, derived⟩)

theorem build_eq_error_iff (description : Description) (error : QueryError) :
    description.build = .error error ↔ description.FirstFault error := by
  constructor
  · exact firstFault_of_build description error
  · intro first
    cases result : description.build with
    | error other =>
        rw [firstFault_unique description other error
          (firstFault_of_build description other result) first]
    | ok expr =>
        rcases first with ⟨before, failing, after, split, -, fault⟩
        have member : failing ∈ description.constructions := by simp [split]
        exact absurd fault ((describes_of_build description expr result).2.2 failing member error)

theorem hasType_of_mem_constructions (description part : Description) (type : DataType)
    (derived : description.HasType type) (member : part ∈ description.constructions) :
    ∃ partType, part.HasType partType := by
  induction description generalizing type with
  | column key keyType =>
      have same := (mem_constructions_column key keyType part).mp member
      subst same
      exact ⟨type, derived⟩
  | literal value =>
      have same := (mem_constructions_literal value part).mp member
      subst same
      exact ⟨type, derived⟩
  | binary token lhs rhs lhsIH rhsIH =>
      rcases derived.operands with ⟨⟨left, leftType⟩, ⟨right, rightType⟩⟩
      rcases (mem_constructions_binary token lhs rhs part).mp member with member | member | rfl
      · exact lhsIH left leftType member
      · exact rhsIH right rightType member
      · exact ⟨type, derived⟩

def VisibleKeys (description : Description) : Prop :=
  ∀ key type, column key type ∈ description.constructions → ∃ c ∈ key.toList, isBlank c = false

def KnownTokens (description : Description) : Prop :=
  ∀ token lhs rhs, binary token lhs rhs ∈ description.constructions →
    token ∈ ["=", "AND", "and", "OR", "or"]

theorem mem_spellings_iff (token : String) :
    token ∈ ["=", "AND", "and", "OR", "or"] ↔ ∃ op : Operator, token ∈ op.tokens := by
  constructor
  · intro member
    simp only [List.mem_cons, List.not_mem_nil, or_false] at member
    rcases member with rfl | rfl | rfl | rfl | rfl
    · exact ⟨.eq, by decide⟩
    · exact ⟨.and, by decide⟩
    · exact ⟨.and, by decide⟩
    · exact ⟨.or, by decide⟩
    · exact ⟨.or, by decide⟩
  · rintro ⟨op, named⟩
    cases op <;> grind [Operator.tokens]

/-- Building succeeds on exactly the derivable descriptions with visible keys and known operators.
It gives the expression described, of the only type that can be derived, or else the fault of the
first construction that has one. -/
theorem build_checks (description : Description) :
    ((∃ expr, description.build = .ok expr) ↔
        description.VisibleKeys ∧ description.KnownTokens ∧ ∃ type, description.HasType type) ∧
      (∀ expr, description.build = .ok expr →
        description.Describes expr ∧ ∀ type, description.HasType type ↔ type = expr.type) ∧
      ∀ error, description.build = .error error ↔ description.FirstFault error := by
  refine ⟨⟨?_, ?_⟩, ?_, build_eq_error_iff description⟩
  · rintro ⟨expr, built⟩
    rcases describes_of_build description expr built with ⟨-, derived, clean⟩
    refine ⟨?_, ?_, expr.type, derived⟩
    · intro key type member
      by_contra invisible
      refine clean _ member _ (.blankKey ?_)
      intro c inside
      by_contra visible
      exact invisible ⟨c, inside, by simpa using visible⟩
    · intro token lhs rhs member
      by_contra unlisted
      refine clean _ member _ (.unknownToken ?_)
      intro op named
      exact unlisted ((mem_spellings_iff token).mpr ⟨op, named⟩)
  · rintro ⟨visible, known, type, derived⟩
    cases result : description.build with
    | ok expr => exact ⟨expr, rfl⟩
    | error error =>
        obtain ⟨before, failing, after, split, -, fault⟩ :=
          firstFault_of_build description error result
        have member : failing ∈ description.constructions := by simp [split]
        cases fault with
        | @blankKey key type blank =>
            rcases visible key type member with ⟨c, inside, shown⟩
            rw [blank c inside] at shown
            cases shown
        | @unknownToken token lhs rhs unknown =>
            rcases (mem_spellings_iff token).mp (known token lhs rhs member) with ⟨op, named⟩
            exact absurd named (unknown op)
        | mismatch _ _ _ underivable =>
            obtain ⟨partType, part⟩ :=
              hasType_of_mem_constructions description _ type derived member
            exact absurd part (underivable partType)
  · intro expr built
    rcases describes_of_build description expr built with ⟨shape, derived, -⟩
    refine ⟨shape, fun type => ⟨fun other => other.unique derived, ?_⟩⟩
    rintro rfl
    exact derived

end Description
end QueryAlgebra
