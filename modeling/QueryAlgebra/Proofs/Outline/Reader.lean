import QueryAlgebra.Proofs.Outline

/-!
Reading an outline back from the text of an expression. The reader goes from word to word with the
groups that are still open around it; it knows neither precedence nor associativity, because a group
takes one operator. It finds the outline if no leaf holds a space or is an opening parenthesis, so
that two expressions with one text have one outline.
-/

namespace QueryAlgebra
namespace Outline

/-- What has been read of one operator with its two operands. -/
inductive Group where
  | start
  | left (lhs : Outline)
  | operator (lhs : Outline) (op : Operator)
  | closed (op : Operator) (lhs rhs : Outline)
  deriving DecidableEq, Repr

def Group.fill? (group : Group) (operand : Outline) : Option Group :=
  match group with
  | start => some (left operand)
  | operator lhs op => some (closed op lhs operand)
  | _ => none

/-- The innermost group and the ones around it. -/
structure Reader where
  group : Group
  outer : List Group
  deriving DecidableEq, Repr

namespace Reader

def takeOperand (reader : Reader) (word : String) : Option Reader :=
  if word = "(" then some ⟨.start, reader.group :: reader.outer⟩
  else (reader.group.fill? (.leaf word)).map (⟨·, reader.outer⟩)

def close (operand : Outline) : List Group → Option Reader
  | [] => none
  | group :: outer => (group.fill? operand).map (⟨·, outer⟩)

def step (reader : Reader) (word : String) : Option Reader :=
  match reader.group with
  | .start | .operator _ _ => reader.takeOperand word
  | .left lhs => (Operator.ofToken? word).map (⟨.operator lhs ·, reader.outer⟩)
  | .closed op lhs rhs => if word = ")" then close (.binary op lhs rhs) reader.outer else none

def result? : Reader → Option Outline
  | ⟨.left outline, []⟩ => some outline
  | ⟨.closed op lhs rhs, []⟩ => some (.binary op lhs rhs)
  | _ => none

end Reader

def ofWords? (words : List String) : Option Outline := do
  let reader ← words.foldlM Reader.step ⟨.start, []⟩
  reader.result?

def read? (text : String) : Option Outline :=
  ofWords? ((text.toList.splitOn ' ').map String.ofList)

/-- A leaf that cannot be taken for something else: one word, and no opening parenthesis. -/
def PlainLeaf (text : String) : Prop := ' ' ∉ text.toList ∧ text ≠ "("

/-- All leaves are plain. They may be empty or look like an operator or a closing parenthesis. -/
def Plain (outline : Outline) : Prop := ∀ text ∈ outline.leaves, PlainLeaf text

instance : DecidablePred PlainLeaf :=
  fun text => inferInstanceAs (Decidable (' ' ∉ text.toList ∧ text ≠ "("))

instance : DecidablePred Plain :=
  fun outline => inferInstanceAs (Decidable (∀ text ∈ outline.leaves, PlainLeaf text))

theorem plain_leaf (text : String) : (leaf text).Plain ↔ PlainLeaf text := by
  simp [Plain, leaves]

theorem plain_binary (op : Operator) (lhs rhs : Outline) :
    (binary op lhs rhs).Plain ↔ lhs.Plain ∧ rhs.Plain := by
  simp only [Plain, leaves, List.mem_append]
  constructor
  · intro plain
    exact ⟨fun text member => plain text (.inl member), fun text member => plain text (.inr member)⟩
  · rintro ⟨left, right⟩ text (member | member)
    · exact left text member
    · exact right text member

theorem step_operator (lhs : Outline) (op : Operator) (outer : List Group) :
    Reader.step ⟨.left lhs, outer⟩ op.symbol = some ⟨.operator lhs op, outer⟩ := by
  simp only [Reader.step, Operator.ofToken?_symbol, Option.map_some]

theorem step_leaf (group filled : Group) (outer : List Group) (text : String)
    (plain : PlainLeaf text) (due : group.fill? (.leaf text) = some filled) :
    Reader.step ⟨group, outer⟩ text = some ⟨filled, outer⟩ := by
  have taken : Reader.takeOperand ⟨group, outer⟩ text = some ⟨filled, outer⟩ := by
    rw [Reader.takeOperand, if_neg plain.2, due, Option.map_some]
  cases group with
  | start => exact taken
  | operator lhs op => exact taken
  | left lhs => simp [Group.fill?] at due
  | closed op lhs rhs => simp [Group.fill?] at due

theorem step_open (group filled : Group) (outer : List Group) (operand : Outline)
    (due : group.fill? operand = some filled) :
    Reader.step ⟨group, outer⟩ "(" = some ⟨.start, group :: outer⟩ := by
  cases group with
  | start => rfl
  | operator lhs op => rfl
  | left lhs => simp [Group.fill?] at due
  | closed op lhs rhs => simp [Group.fill?] at due

theorem step_close (group filled : Group) (outer : List Group) (op : Operator)
    (lhs rhs : Outline) (due : group.fill? (.binary op lhs rhs) = some filled) :
    Reader.step ⟨.closed op lhs rhs, group :: outer⟩ ")" = some ⟨filled, outer⟩ := by
  simp only [Reader.step, if_true, Reader.close, due, Option.map_some]

/-- The words of a plain operand fill the innermost group, whatever follows and whatever is open
around it. -/
theorem foldlM_words_operand (outline : Outline) (plain : outline.Plain) (group filled : Group)
    (outer : List Group) (rest : List String) (due : group.fill? outline = some filled) :
    (outline.words .operand ++ rest).foldlM Reader.step ⟨group, outer⟩ =
      rest.foldlM Reader.step ⟨filled, outer⟩ := by
  induction outline generalizing group filled outer rest with
  | leaf text =>
      have word := step_leaf group filled outer text ((plain_leaf text).mp plain) due
      simp only [words, List.singleton_append, List.foldlM_cons, word, Option.bind_eq_bind,
        Option.bind_some]
  | binary op lhs rhs left right =>
      rcases (plain_binary op lhs rhs).mp plain with ⟨leftPlain, rightPlain⟩
      have spelled : (binary op lhs rhs).words .operand ++ rest =
          "(" :: (lhs.words .operand ++ op.symbol :: (rhs.words .operand ++ ")" :: rest)) := by
        simp [words]
      rw [spelled, List.foldlM_cons, step_open group filled outer _ due]
      simp only [Option.bind_eq_bind, Option.bind_some]
      rw [left leftPlain .start (.left lhs) _ _ rfl, List.foldlM_cons, step_operator]
      simp only [Option.bind_eq_bind, Option.bind_some]
      rw [right rightPlain (.operator lhs op) (.closed op lhs rhs) _ _ rfl, List.foldlM_cons,
        step_close group filled outer op lhs rhs due]
      simp only [Option.bind_eq_bind, Option.bind_some]

theorem ofWords?_words (outline : Outline) (plain : outline.Plain) :
    ofWords? (outline.words .alone) = some outline := by
  cases outline with
  | leaf text =>
      have word := step_leaf .start (.left (.leaf text)) [] text ((plain_leaf text).mp plain) rfl
      simp only [ofWords?, words, List.foldlM_cons, List.foldlM_nil, word, Option.bind_eq_bind,
        Option.bind_some, Option.pure_def, Reader.result?]
  | binary op lhs rhs =>
      rcases (plain_binary op lhs rhs).mp plain with ⟨leftPlain, rightPlain⟩
      have ends := foldlM_words_operand rhs rightPlain (.operator lhs op) (.closed op lhs rhs) [] []
        rfl
      rw [List.append_nil] at ends
      rw [ofWords?, words, foldlM_words_operand lhs leftPlain .start (.left lhs) [] _ rfl,
        List.foldlM_cons, step_operator]
      simp only [Option.bind_eq_bind, Option.bind_some, ends, List.foldlM_nil, Option.pure_def,
        Reader.result?]

theorem space_not_mem_symbol (op : Operator) : ' ' ∉ op.symbol.toList := by
  cases op <;> decide

theorem space_not_mem_words (position : Position) (outline : Outline) (plain : outline.Plain) :
    ∀ word ∈ outline.words position, ' ' ∉ word.toList := by
  induction outline generalizing position with
  | leaf text =>
      intro word member
      obtain rfl : word = text := by simpa [words] using member
      exact ((plain_leaf word).mp plain).1
  | binary op lhs rhs left right =>
      rcases (plain_binary op lhs rhs).mp plain with ⟨leftPlain, rightPlain⟩
      have inner : ∀ word ∈ lhs.words .operand ++ op.symbol :: rhs.words .operand,
          ' ' ∉ word.toList := by
        intro word member
        rcases List.mem_append.mp member with member | member
        · exact left .operand leftPlain word member
        · rcases List.mem_cons.mp member with rfl | member
          · exact space_not_mem_symbol op
          · exact right .operand rightPlain word member
      cases position with
      | alone => exact inner
      | operand =>
          intro word member
          rcases List.mem_cons.mp member with rfl | member
          · decide
          · rcases List.mem_append.mp member with member | member
            · exact inner word member
            · obtain rfl : word = ")" := by simpa using member
              decide

theorem splitOn_sql (position : Position) (outline : Outline) (plain : outline.Plain) :
    ((outline.sql position).toList.splitOn ' ').map String.ofList = outline.words position := by
  have spaceless : ∀ word ∈ (outline.words position).map String.toList, ' ' ∉ word := by
    intro word member
    rcases List.mem_map.mp member with ⟨text, inside, rfl⟩
    exact space_not_mem_words position outline plain text inside
  have separator : " ".toList = [' '] := rfl
  rw [sql_eq_intercalate, String.toList_intercalate, separator,
    List.splitOn_intercalate ' ' spaceless (by simpa using words_ne_nil position outline),
    List.map_map]
  simp only [Function.comp_def, String.ofList_toList, List.map_id']

theorem read?_sql (outline : Outline) (plain : outline.Plain) :
    read? (outline.sql .alone) = some outline := by
  rw [read?, splitOn_sql .alone outline plain, ofWords?_words outline plain]

end Outline

/-- Expressions with plain leaves have one text exactly if they have one outline, and the reader
finds the outline in the text. -/
theorem Field.sql_eq_iff_outline_eq {schema other : Schema} (first : Field schema)
    (second : Field other) (left right : Outline) (firstTree : first.outline? = some left)
    (secondTree : second.outline? = some right) (leftPlain : left.Plain)
    (rightPlain : right.Plain) :
    (first.sql .alone = second.sql .alone ↔ left = right) ∧
      Outline.read? (first.sql .alone) = some left := by
  rw [first.sql_outline left firstTree, second.sql_outline right secondTree]
  have readLeft := Outline.read?_sql left leftPlain
  have readRight := Outline.read?_sql right rightPlain
  refine ⟨⟨fun same => ?_, fun same => same ▸ rfl⟩, readLeft⟩
  rw [same, readRight] at readLeft
  exact (Option.some.inj readLeft).symm

/-- The two groupings of three leaves, one of which looks like a closing parenthesis. -/
theorem sql_ne_of_regrouped :
    let column : TypedExpr (Schema.single ")" .boolean) .boolean := .column () rfl
    let first : Field (Schema.single ")" .boolean) := .typed (.and column (.or column column))
    let second : Field (Schema.single ")" .boolean) := .typed (.or (.and column column) column)
    let leaf := Outline.leaf ")"
    first.sql .alone ≠ second.sql .alone ∧
      Outline.read? (first.sql .alone) = some (.binary .and leaf (.binary .or leaf leaf)) := by
  intro column first second leaf
  have settled := first.sql_eq_iff_outline_eq second (.binary .and leaf (.binary .or leaf leaf))
    (.binary .or (.binary .and leaf leaf) leaf) rfl rfl (by decide) (by decide)
  refine ⟨fun same => ?_, settled.2⟩
  have regrouped := settled.1.mp same
  simp at regrouped

end QueryAlgebra
