import QueryAlgebra.Proofs.Json.Floats
import QueryAlgebra.Proofs.Value.RoundTrip

/-!
Floats through their texts. What a text shows of a finite float always rounds to the float. The
JSON reader rounds each step of its own, so a serialized float comes back as a float, of the same
sign and at most two floats away, and exactly if its literal is short.
-/

namespace QueryAlgebra

def NumberLiteral.nearest? (literal : NumberLiteral) : Option Binary64 :=
  Floating.ofScientific? literal.negative literal.magnitude

/-- The digits of a literal without the point are a float, and so is the power of ten that they are
scaled by. -/
structure NumberLiteral.IsShort (literal : NumberLiteral) : Prop where
  digits : literal.magnitude.digits ≤ 2 ^ 53
  least : -22 ≤ literal.magnitude.exponent
  greatest : literal.magnitude.exponent ≤ 22

namespace Floating

/-- The same sign, and not more than two floats in magnitude apart. -/
structure Near (x y : Binary64) : Prop where
  sign : x.negative = y.negative
  below : x.magnitude.val ≤ y.magnitude + 2
  above : y.magnitude.val ≤ x.magnitude + 2

/-- The float is the middle of two numbers that differ by one in the last digit, the lower of them
with an even one. -/
def Halfway (x : Binary64) (lower upper : Scientific) : Prop :=
  ∃ (digits : Nat) (exponent : Int), digits % 2 = 0 ∧ lower.value = digits * 10 ^ exponent ∧
    upper.value = (digits + 1) * 10 ^ exponent ∧
    lower.value + upper.value = 2 * FloatFormat.binary64.number x.magnitude

theorem nearest?_plainLiteral (x : Binary64) (finite : x.isFinite) :
    x.plainLiteral.nearest? = some x := by
  apply ofScientific?_of_rounds (by decide) (by decide) x finite
  rw [x.value_plainLiteral]
  exact FloatFormat.binary64.rounds_shortest .up x.magnitude

theorem nearest?_jsonLiteral (x : Binary64) (finite : x.isFinite) :
    x.jsonLiteral.nearest? = some x := by
  rw [NumberLiteral.nearest?, x.negative_jsonLiteral]
  exact ofScientific?_of_rounds (by decide) (by decide) x finite _ x.rounds_jsonLiteral

theorem literals_agree (x : Binary64) :
    x.jsonLiteral.magnitude.value = x.plainLiteral.magnitude.value ∨
      x.Halfway x.jsonLiteral.magnitude x.plainLiteral.magnitude := by
  rw [Halfway, x.value_jsonLiteral, x.value_plainLiteral]
  rcases FloatFormat.binary64.shortest_up_even x.magnitude with same | ⟨even, upper, middle⟩
  · rw [same]
    exact .inl rfl
  · refine .inr ⟨_, _, even, Scientific.value_eq_zpow _, ?_, middle⟩
    rw [upper, Scientific.value_eq_zpow]
    push_cast
    rfl

end Floating

def Document.reread (document : Document) : Document :=
  ⟨document.json.mapNumbers JsonNumber.reread, document.json.ordered_mapNumbers _ document.ordered⟩

namespace Value

theorem read?_sql_double (x : Binary64) (finite : x.isFinite) :
    NumberLiteral.read? (double x).sql.toList = some x.plainLiteral := by
  rw [sql, String.toList_ofList, x.read?_plainText finite]

theorem deserialize?_double (x : Binary64) (finite : x.isFinite) :
    deserialize? (double x).serialize = some (double x.reread) := by
  have read := (double x).deserialize?_serialize_as (.number (.float x finite)) rfl rfl
    JsonNumber.reread fun number _ => number.readsAs_reread
  have shallow : (double x).nesting ≤ JsonBuilder.depthLimit := by
    have flat : (double x).nesting = 1 := rfl
    rw [flat]
    decide
  rw [read, if_pos shallow]
  rfl

theorem deserialize?_json (document : Document)
    (shallow : (json document).nesting ≤ JsonBuilder.depthLimit) :
    deserialize? (json document).serialize = some (json document.reread) := by
  have read := (json document).deserialize?_serialize_as document.json rfl rfl
    JsonNumber.reread fun number _ => number.readsAs_reread
  rw [read, if_pos shallow]
  exact congrArg (fun back => some (json back)) document.reread.ofJson_json

/-- A finite float is shown without an exponent and serialized with or without one; either text
rounds to the float, and both show one number except halfway between two. A serialized float is
read as a near one, as itself if its literal is short; and so is every float in a JSON document,
where it stands as it does on its own, while the rest of the document stays as it is. -/
theorem double_texts :
    (∀ x : Binary64, x.isFinite → ∃ shown written : NumberLiteral,
      NumberLiteral.read? (double x).sql.toList = some shown ∧ shown.exponent = none ∧
      shown.nearest? = some x ∧
      NumberLiteral.read? (double x).content = some written ∧ written.nearest? = some x ∧
      written.negative = shown.negative ∧
      (written.magnitude.value = shown.magnitude.value ∨
        x.Halfway written.magnitude shown.magnitude) ∧
      deserialize? (double x).serialize = some (double x.reread) ∧ x.reread.Near x ∧
      (written.IsShort → x.reread = x)) ∧
    (∀ document : Document,
      (∀ x finite, .float x finite ∈ document.json.numbers →
        Json.StandsIn (double x).content (json document).content) ∧
      ((json document).nesting ≤ 127 →
        deserialize? (json document).serialize = some (json document.reread))) := by
  constructor
  · intro x finite
    obtain ⟨sign, below, above⟩ := x.reread_near finite
    exact ⟨x.plainLiteral, x.jsonLiteral, read?_sql_double x finite, rfl,
      x.nearest?_plainLiteral finite, x.read?_jsonText finite, x.nearest?_jsonLiteral finite,
      x.negative_jsonLiteral, x.literals_agree, deserialize?_double x finite, ⟨sign, below, above⟩,
      fun short => x.reread_eq finite short.digits short.least short.greatest⟩
  · intro document
    constructor
    · intro x finite member
      exact document.json.number_standsIn (.float x finite) member
    · exact deserialize?_json document

/-- Two to the power -25 is the middle of the numbers that its two texts show, and 7e185 is read as
the float below it. -/
theorem double_texts_differ :
    (∃ shown written : NumberLiteral,
      NumberLiteral.read? (double (.ofBits .binary64 0x3E60000000000000)).sql.toList = some shown ∧
      NumberLiteral.read? (double (.ofBits .binary64 0x3E60000000000000)).content = some written ∧
      shown.magnitude.value ≠ written.magnitude.value) ∧
    deserialize? (double (.ofBits .binary64 0x668497B31FDC744B)).serialize =
      some (double (.ofBits .binary64 0x668497B31FDC744A)) ∧
    Floating.ofBits .binary64 0x668497B31FDC744A ≠ .ofBits .binary64 0x668497B31FDC744B := by
  refine ⟨?_, ?_, by decide⟩
  · have finite : (Floating.ofBits .binary64 0x3E60000000000000).isFinite := by decide
    have upper : (Floating.ofBits .binary64 0x3E60000000000000).plainLiteral.magnitude =
        ⟨29802322387695313, -24⟩ := by decide +kernel
    have lower : (Floating.ofBits .binary64 0x3E60000000000000).jsonLiteral.magnitude =
        ⟨29802322387695312, -24⟩ := by decide +kernel
    refine ⟨_, _, read?_sql_double _ finite, Floating.read?_jsonText _ finite, ?_⟩
    rw [upper, lower, Scientific.value_eq_zpow, Scientific.value_eq_zpow]
    norm_num
  · have back : (Floating.ofBits .binary64 0x668497B31FDC744B).reread =
        .ofBits .binary64 0x668497B31FDC744A := by decide +kernel
    rw [deserialize?_double _ (by decide), back]

def tenthAndOne : Document :=
  ⟨.array [.number (.float (.ofBits .binary64 0x3FB999999999999A) (by decide)),
    .number (.integer 1 (by decide))], by simp [Json.Ordered, Json.OrderedItems]⟩

/-- A tenth comes back exactly, and so does a document of two levels in which it stands. -/
theorem double_texts_tenth :
    (Floating.ofBits .binary64 0x3FB999999999999A).isFinite = true ∧
    deserialize? (double (.ofBits .binary64 0x3FB999999999999A)).serialize =
      some (double (.ofBits .binary64 0x3FB999999999999A)) ∧
    (json tenthAndOne).nesting ≤ 127 ∧
    deserialize? (json tenthAndOne).serialize = some (json tenthAndOne.reread) := by
  have finite : (Floating.ofBits .binary64 0x3FB999999999999A).isFinite = true := by decide
  obtain ⟨shown, written, -, -, -, read, -, -, -, back, -, exact⟩ := double_texts.1 _ finite
  have literal : written = ⟨false, ['0'], some ['1'], none⟩ := by
    have direct : NumberLiteral.read? (double (.ofBits .binary64 0x3FB999999999999A)).content =
        some ⟨false, ['0'], some ['1'], none⟩ := by decide +kernel
    exact Option.some.inj (read.symm.trans direct)
  have short : written.IsShort := by
    rw [literal]
    exact ⟨by decide, by decide, by decide⟩
  have shallow : (json tenthAndOne).nesting ≤ 127 := by decide
  refine ⟨finite, ?_, shallow, (double_texts.2 tenthAndOne).2 shallow⟩
  rw [back, exact short]

end Value
end QueryAlgebra
