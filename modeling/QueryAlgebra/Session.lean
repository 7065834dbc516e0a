import QueryAlgebra.Select

/-!
A session builds expressions and statements on a stack. A step that fails reports the error and puts
nothing in the place of the operands it took; a step that does not fit what is on the stack is no
step at all.
-/

namespace QueryAlgebra

/-- An expression, a field taken back out of a statement, or a statement. Of a taken field only its
text is known. -/
inductive Entry (schema : Schema) where
  | expression (field : Field schema)
  | taken (field : Field schema)
  | statement (statement : Select schema)

inductive FilterSource where
  | popped
  | empty
  deriving DecidableEq, Repr

inductive Step (schema : Schema) where
  | column (key : String) (type : DataType)
  | literal (value : Value)
  | applyToken (token : String)
  | apply (op : Operator)
  | condition
  | inner
  | typedColumn (name : schema.Name)
  | typedLiteral (value : Value)
  | typedApply (op : Operator)
  | typedApplyTo (op : Operator) (value : Value)
  | takeValue
  | toDynamic
  | empty
  | parts
  | copy (below : Nat)
  | swap
  | pop
  | same
  | isEmpty
  | display
  | write (room : Option Nat)
  | writeOperand (room : Option Nat)
  | join (count : Nat) (separator : String) (room : Option Nat)
  | select (count : Nat) (source : FilterSource)

inductive View where
  | empty
  | expression (type : DataType) (sql : String)
  | column (type : DataType) (sql description : String)
  | condition (sql : String)
  | statement (sql : String) (fields : List String) (filter : String) (filterEmpty : Bool)
      (description : String)
  deriving DecidableEq, Repr

inductive Answer where
  | done
  | pushed (view : View)
  | failed (error : QueryError)
  | operands (op : Option Operator) (lhs rhs : String)
  | fieldCount (count : Nat)
  | value (value : Value) (sql : String)
  | same (equal : Bool)
  | isEmpty (empty : Bool)
  | text (text : String)
  | written (held : String) (result : Except QueryError Unit)

namespace Entry

variable {schema : Schema}

def sql : Entry schema → String
  | expression field => field.sql .alone
  | taken field => field.sql .alone
  | statement s => s.sql

def write : Entry schema → Writer Unit
  | expression field => field.write .alone
  | taken field => field.write .alone
  | statement s => s.write

def field? : Entry schema → Option (Field schema)
  | expression field => some field
  | taken field => some field
  | statement _ => none

def isEmpty (entry : Entry schema) : Bool :=
  entry.field?.any Field.isEmpty

def same? : Entry schema → Entry schema → Option Bool
  | expression .empty, expression .empty => some true
  | expression (.dynamic a), expression (.dynamic b) => some (a.same b)
  | expression (.condition a), expression (.condition b) => some (a.same b)
  | expression (.typed a), expression (.typed b) => some (a.same b)
  | _, _ => none

end Entry

def Field.view {schema : Schema} : Field schema → View
  | .empty => .empty
  | .dynamic expr => .expression expr.type (expr.sql .alone)
  | .condition found => .condition (found.sql .alone)
  | @Field.typed _ type expr => .expression type (expr.sql .alone)

def Select.view {schema : Schema} (statement : Select schema) : View :=
  .statement statement.sql (statement.fields.map (Field.sql .alone))
    (statement.filter.sql .alone) statement.filter.isEmpty statement.describe

abbrev Stack (schema : Schema) := List (Entry schema)

namespace Stack

variable {schema : Schema}

def push (field : Field schema) (stack : Stack schema) : Answer × Stack schema :=
  (.pushed field.view, .expression field :: stack)

def settle (outcome : Except QueryError (Field schema)) (stack : Stack schema) :
    Answer × Stack schema :=
  match outcome with
  | .ok field => stack.push field
  | .error error => (.failed error, stack)

def typedApplied? (op : Operator) : Stack schema → Option (Answer × Stack schema)
  | .expression (.typed rhs) :: .expression (.typed lhs) :: rest => do
      let expr ← TypedExpr.combine? op lhs rhs
      pure (push (.typed expr) rest)
  | _ => none

def takeFields? (count : Nat) (stack : Stack schema) :
    Option (List (Field schema) × Stack schema) :=
  if count ≤ stack.length then
    ((stack.take count).reverse.mapM Entry.field?).map fun fields => (fields, stack.drop count)
  else none

def takeFilter? (source : FilterSource) (stack : Stack schema) :
    Option (Filter schema × Stack schema) :=
  match source, stack with
  | .empty, stack => some (.empty, stack)
  | .popped, .expression .empty :: rest => some (.empty, rest)
  | .popped, .expression (.condition found) :: rest => some (.condition found, rest)
  | .popped, .expression (@Field.typed _ .boolean expr) :: rest => some (.typed expr, rest)
  | .popped, _ => none

def written (writer : Writer Unit) (room : Option Nat) : Answer :=
  let (held, result) := writer.runInto room
  .written held result

def parts? : Stack schema → Option (Answer × Stack schema)
  | .expression (.dynamic (.binary op lhs rhs)) :: rest =>
      some (.operands (some op) (lhs.sql .alone) (rhs.sql .alone),
        .expression (.dynamic rhs) :: .expression (.dynamic lhs) :: rest)
  | .expression (.typed expr) :: rest => do
      let found ← expr.operands?
      pure (.operands none (found.lhs.sql .alone) (found.rhs.sql .alone),
        .expression (.typed found.rhs) :: .expression (.typed found.lhs) :: rest)
  | .statement s :: rest =>
      some (.fieldCount s.fields.length,
        .expression s.filter.toField :: (s.fields.map .taken).reverse ++ rest)
  | _ => none

def applied? (apply : Expr → Expr → Except QueryError Expr) :
    Stack schema → Option (Answer × Stack schema)
  | .expression (.dynamic rhs) :: .expression (.dynamic lhs) :: rest =>
      some (settle ((apply lhs rhs).map .dynamic) rest)
  | _ => none

def condition? : Stack schema → Option (Answer × Stack schema)
  | .expression (.dynamic expr) :: rest =>
      some (settle ((Condition.ofExpr expr).map .condition) rest)
  | _ => none

def inner? : Stack schema → Option (Answer × Stack schema)
  | .expression (.condition found) :: rest => some (push (.dynamic found.expr) rest)
  | _ => none

def takeValue? : Stack schema → Option (Answer × Stack schema)
  | .expression (.typed (.literal value)) :: rest => some (.value value.toValue value.sql, rest)
  | _ => none

def toDynamic? : Stack schema → Option (Answer × Stack schema)
  | .expression (.typed expr) :: rest => some (push (.dynamic expr.toExpr) rest)
  | .expression (.dynamic expr) :: rest => some (push (.dynamic expr) rest)
  | _ => none

def copy? (below : Nat) (stack : Stack schema) : Option (Answer × Stack schema) :=
  match stack[below]? with
  | some (.expression field) => some (push field stack)
  | _ => none

def swap? : Stack schema → Option (Answer × Stack schema)
  | first :: second :: rest => some (.done, second :: first :: rest)
  | _ => none

def pop? : Stack schema → Option (Answer × Stack schema)
  | _ :: rest => some (.done, rest)
  | [] => none

def same? : Stack schema → Option Answer
  | first :: second :: _ => (first.same? second).map .same
  | _ => none

def join? (count : Nat) (separator : String) (room : Option Nat) (stack : Stack schema) :
    Option (Answer × Stack schema) := do
  let (fields, rest) ← takeFields? count stack
  pure (written (Writer.join separator (fields.map (Field.write .alone))) room, rest)

def select? (count : Nat) (source : FilterSource) (stack : Stack schema) :
    Option (Answer × Stack schema) := do
  let (filter, rest) ← takeFilter? source stack
  let (fields, rest) ← takeFields? count rest
  let statement := Select.make filter fields
  pure (.pushed statement.view, .statement statement :: rest)

def shown? (answer : Option Answer) (stack : Stack schema) : Option (Answer × Stack schema) :=
  answer.map fun answer => (answer, stack)

/-- The answer to a step and the stack after it, if the step fits the stack. -/
def step? (stack : Stack schema) : Step schema → Option (Answer × Stack schema)
  | .column key type =>
      some (settle ((Column.create key type).map fun column => .dynamic (.column column)) stack)
  | .literal value => some (push (.dynamic (.literal value)) stack)
  | .applyToken token => applied? (Expr.applyToken token) stack
  | .apply op => applied? (Expr.apply op) stack
  | .condition => condition? stack
  | .inner => inner? stack
  | .typedColumn name =>
      let expr : TypedExpr schema (schema.type name) := .column name rfl
      some (.pushed (.column (schema.type name) (expr.sql .alone) (schema.describe name)),
        .expression (.typed expr) :: stack)
  | .typedLiteral value => some (push (.typed (.literal value.toLiteral)) stack)
  | .typedApply op => typedApplied? op stack
  | .typedApplyTo op value =>
      typedApplied? op (.expression (.typed (.literal value.toLiteral)) :: stack)
  | .takeValue => takeValue? stack
  | .toDynamic => toDynamic? stack
  | .empty => some (push .empty stack)
  | .parts => parts? stack
  | .copy below => copy? below stack
  | .swap => swap? stack
  | .pop => pop? stack
  | .same => shown? (same? stack) stack
  | .isEmpty => shown? (stack.head?.map fun first => .isEmpty first.isEmpty) stack
  | .display => shown? (stack.head?.map fun first => .text first.sql) stack
  | .write room => shown? (stack.head?.map fun first => written first.write room) stack
  | .writeOperand room =>
      shown? ((stack.head?.bind Entry.field?).map fun field =>
        written (field.write .operand) room) stack
  | .join count separator room => join? count separator room stack
  | .select count source => select? count source stack

def run? (stack : Stack schema) : List (Step schema) → Option (List (Answer × Nat))
  | [] => some []
  | action :: actions => do
      let (answer, next) ← stack.step? action
      let others ← run? next actions
      pure ((answer, next.length) :: others)

end Stack
end QueryAlgebra
