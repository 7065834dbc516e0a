import QueryAlgebra.Proofs.Decimal
import QueryAlgebra.Proofs.Json.Reading
import QueryAlgebra.Proofs.Uuid
import QueryAlgebra.Proofs.Value.Equality
import QueryAlgebra.Value.Serial

/-!
Serialized values are read back. The form of a value is an object with one entry; its content is
read from the tree it was printed from, as deep as the reader goes. A leap second inside a minute
comes back as the second after it.
-/

namespace QueryAlgebra

def JsonNumber.IsInteger : JsonNumber → Prop
  | integer _ _ => True
  | float _ _ => False

theorem JsonNumber.readsBack_of_isInteger (number : JsonNumber) (isInteger : number.IsInteger) :
    number.ReadsBack := by
  cases number with
  | integer n inRange => exact readsBack_integer n inRange
  | float x finite => exact isInteger.elim

theorem DataType.ofVariant?_variant (type : DataType) : ofVariant? type.variant = some type := by
  cases type <;> decide

namespace Value

/-- No float stands for the value, and none is a number inside a JSON value. -/
def FloatFree : Value → Prop
  | real _ => False
  | double _ => False
  | json document => ∀ number ∈ document.json.numbers, number.IsInteger
  | _ => True

/-- The number of brackets and braces around the innermost part of the serialized form, the braces
around its only entry included. -/
def nesting : Value → Nat
  | json document => document.json.depth + 1
  | _ => 1

/-- The same value; of decimals, the same coefficient with its sign and the same number of
places. -/
def Matches : Value → Value → Prop
  | decimal d, decimal e => d.coefficient = e.coefficient ∧ d.scale = e.scale
  | value, other => value = other

theorem carriesTo_of_matches (value : Value) (overfull : value.Overfull) (back : Value)
    (same : value.carried.Matches back) : value.CarriesTo back := by
  have carries := value.carriesTo_carried overfull
  cases value with
  | timestamp t =>
      have shown : (timestamp t).carried = back := same
      rwa [shown] at carries
  | _ => exact overfull.elim

/-- A tree is printed where the content of a value stands, and is taken for the value again. -/
structure Encodes (content : Json) (value : Value) : Prop where
  printed : value.content = content.text
  levels : content.depth + 1 = value.nesting
  readBack : ∀ number ∈ content.numbers, number.ReadsBack
  taken : ∃ back, ofContent? value.type content = some back ∧ value.carried.Matches back

theorem readBack_number (n : Int) (inRange : -2 ^ 63 ≤ n ∧ n < 2 ^ 64) :
    ∀ number ∈ (Json.number (.integer n inRange)).numbers, number.ReadsBack := by
  intro number member
  rw [List.mem_singleton.mp member]
  exact JsonNumber.readsBack_integer n inRange

theorem integer?_toInt (n : Int32) : integer? n.toInt = some (integer n) := by
  have inRange : -2 ^ 31 ≤ n.toInt ∧ n.toInt < 2 ^ 31 := ⟨n.le_toInt, n.toInt_lt⟩
  rw [integer?, if_pos inRange, Int32.ofInt_toInt]

theorem bigInt?_toInt (n : Int64) : bigInt? n.toInt = some (bigInt n) := by
  have inRange : -2 ^ 63 ≤ n.toInt ∧ n.toInt < 2 ^ 63 := ⟨n.le_toInt, n.toInt_lt⟩
  rw [bigInt?, if_pos inRange, Int64.ofInt_toInt]

theorem exists_encodes (value : Value) (floatFree : value.FloatFree) :
    ∃ content, Encodes content value := by
  cases value with
  | boolean b => exact ⟨.bool b, rfl, rfl, by simp [Json.numbers], boolean b, rfl, rfl⟩
  | integer n =>
      have inRange : -2 ^ 63 ≤ n.toInt ∧ n.toInt < 2 ^ 64 := by
        have low := n.le_toInt
        have high := n.toInt_lt
        omega
      exact ⟨.number (.integer n.toInt inRange), rfl, rfl, readBack_number _ inRange, integer n,
        integer?_toInt n, rfl⟩
  | bigInt n =>
      have inRange : -2 ^ 63 ≤ n.toInt ∧ n.toInt < 2 ^ 64 := by
        have low := n.le_toInt
        have high := n.toInt_lt
        omega
      exact ⟨.number (.integer n.toInt inRange), rfl, rfl, readBack_number _ inRange, bigInt n,
        bigInt?_toInt n, rfl⟩
  | real x => exact floatFree.elim
  | double x => exact floatFree.elim
  | text s => exact ⟨.string s, rfl, rfl, by simp [Json.numbers], text s, rfl, rfl⟩
  | json document =>
      have same : Document.ofJson document.json = document := document.ofJson_json
      refine ⟨document.json, rfl, rfl, ?_, json document, ?_, rfl⟩
      · exact fun number member => number.readsBack_of_isInteger (floatFree number member)
      · rw [type, ofContent?, same]
  | uuid u =>
      refine ⟨.string (String.ofList u.text), rfl, rfl, by simp [Json.numbers], uuid u, ?_, rfl⟩
      rw [type, ofContent?, String.toList_ofList, u.read?_text]
      rfl
  | timestamp t =>
      -- The text shows the carried timestamp, whatever the value was.
      refine ⟨.string (String.ofList (t.text 'T')), rfl, rfl, by simp [Json.numbers],
        timestamp t.carried, ?_, rfl⟩
      rw [type, ofContent?, String.toList_ofList, t.read?_text]
      rfl
  | decimal d =>
      -- A zero is read without its sign.
      refine ⟨.string (String.ofList d.text), rfl, rfl, by simp [Json.numbers],
        decimal d.plainZero, ?_, d.coefficient_plainZero.symm, rfl⟩
      rw [type, ofContent?, String.toList_ofList, d.read?_text]
      rfl

theorem deserialize?_serialize_as (value : Value) (content : Json)
    (printed : value.content = content.text) (levels : content.depth + 1 = value.nesting)
    (reread : JsonNumber → JsonNumber)
    (reads : ∀ number ∈ content.numbers, number.ReadsAs (reread number)) :
    deserialize? value.serialize =
      if value.nesting ≤ JsonBuilder.depthLimit then
        ofContent? value.type (content.mapNumbers reread)
      else none := by
  have form : value.serialize.toList = (Json.object [(value.type.variant, content)]).text := by
    rw [serialize, String.toList_ofList, printed]
    rfl
  have depth : (Json.object [(value.type.variant, content)]).depth = value.nesting := by
    rw [← levels, Json.depth, Json.depthEntries, Json.depthEntries, Nat.max_zero]
  have all : ∀ number ∈ (Json.object [(value.type.variant, content)]).numbers,
      number.ReadsAs (reread number) := by
    simpa [Json.numbers, Json.entriesNumbers] using reads
  have read := Json.read?_text _ reread all
  rw [depth] at read
  rw [deserialize?, form, read]
  by_cases shallow : value.nesting ≤ JsonBuilder.depthLimit
  · simp only [if_pos shallow, Json.mapNumbers, Json.mapEntries, DataType.ofVariant?_variant,
      Option.bind_eq_bind, Option.bind_some]
  · simp only [if_neg shallow]

theorem deserialize?_serialize_content (value : Value) (content : Json)
    (encodes : Encodes content value) :
    deserialize? value.serialize =
      if value.nesting ≤ JsonBuilder.depthLimit then ofContent? value.type content else none := by
  have read := value.deserialize?_serialize_as content encodes.printed encodes.levels id
    encodes.readBack
  rwa [content.mapNumbers_id] at read

/-- A value without a float is read back from its serialized form if the form nests at most 127
levels, and from no deeper one. Only a leap second inside a minute comes back as the second after
it. -/
theorem deserialize?_serialize (value : Value) (floatFree : value.FloatFree) :
    (value.nesting ≤ 127 →
      ∃ back, deserialize? value.serialize = some back ∧
        (¬value.Overfull → value.Matches back) ∧ (value.Overfull → value.CarriesTo back)) ∧
    (127 < value.nesting → deserialize? value.serialize = none) := by
  rcases value.exists_encodes floatFree with ⟨content, encodes⟩
  have read := value.deserialize?_serialize_content content encodes
  constructor
  · intro shallow
    have fits : value.nesting ≤ JsonBuilder.depthLimit := shallow
    rcases encodes.taken with ⟨back, taken, same⟩
    refine ⟨back, by rw [read, if_pos fits, taken], ?_, ?_⟩
    · intro regular
      rwa [value.carried_of_not_overfull regular] at same
    · intro overfull
      exact value.carriesTo_of_matches overfull back same
  · intro deep
    have tooDeep : ¬value.nesting ≤ JsonBuilder.depthLimit := Nat.not_le.mpr deep
    rw [read, if_neg tooDeep]

/-- A timestamp without a float and of one level need not come back. -/
theorem deserialize?_innerLeapSecond :
    (timestamp innerLeapSecond).FloatFree ∧ (timestamp innerLeapSecond).nesting ≤ 127 ∧
      ¬∃ back, deserialize? (timestamp innerLeapSecond).serialize = some back ∧
        (timestamp innerLeapSecond).Matches back := by
  refine ⟨trivial, by decide, ?_⟩
  rintro ⟨back, read, same⟩
  obtain ⟨content, encodes⟩ := (timestamp innerLeapSecond).exists_encodes trivial
  obtain ⟨other, taken, shown⟩ := encodes.taken
  have shallow : (timestamp innerLeapSecond).nesting ≤ JsonBuilder.depthLimit := by decide
  rw [deserialize?_serialize_content _ content encodes, if_pos shallow, taken] at read
  obtain rfl := Option.some.inj read
  have alike : timestamp innerLeapSecond = timestamp innerLeapSecond.carried :=
    Eq.trans same (Eq.symm shown)
  exact absurd (timestamp.inj alike) (by decide)

def nestedArrays : Nat → Json
  | 0 => .null
  | levels + 1 => .array [nestedArrays levels]

theorem depth_nestedArrays (levels : Nat) : (nestedArrays levels).depth = levels := by
  induction levels with
  | zero => rfl
  | succ levels ih =>
      rw [nestedArrays, Json.depth, Json.depthItems, Json.depthItems, ih, Nat.max_zero]

theorem ordered_nestedArrays (levels : Nat) : (nestedArrays levels).Ordered := by
  induction levels with
  | zero => trivial
  | succ levels ih => exact ⟨ih, trivial⟩

theorem numbers_nestedArrays (levels : Nat) : (nestedArrays levels).numbers = [] := by
  induction levels with
  | zero => rfl
  | succ levels ih =>
      rw [nestedArrays, Json.numbers, Json.itemsNumbers, Json.itemsNumbers, ih, List.append_nil]

theorem floatFree_nestedArrays (levels : Nat) :
    (json ⟨nestedArrays levels, ordered_nestedArrays levels⟩).FloatFree := by
  intro number member
  rw [numbers_nestedArrays] at member
  cases member

/-- The braces of the form and 126 arrays are read back; one array more is refused. -/
theorem deserialize?_nestedArrays :
    (∃ back,
      deserialize? (json ⟨nestedArrays 126, ordered_nestedArrays 126⟩).serialize = some back ∧
        (json ⟨nestedArrays 126, ordered_nestedArrays 126⟩).Matches back) ∧
    deserialize? (json ⟨nestedArrays 127, ordered_nestedArrays 127⟩).serialize = none := by
  constructor
  · have shallow : (json ⟨nestedArrays 126, ordered_nestedArrays 126⟩).nesting ≤ 127 := by
      rw [nesting, depth_nestedArrays]
    obtain ⟨back, read, same, -⟩ :=
      (deserialize?_serialize _ (floatFree_nestedArrays 126)).1 shallow
    exact ⟨back, read, same id⟩
  · have deep : 127 < (json ⟨nestedArrays 127, ordered_nestedArrays 127⟩).nesting := by
      rw [nesting, depth_nestedArrays]
      decide
    exact (deserialize?_serialize _ (floatFree_nestedArrays 127)).2 deep

end Value
end QueryAlgebra
