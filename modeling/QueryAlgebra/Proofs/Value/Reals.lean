import QueryAlgebra.Proofs.Json.Narrowing
import QueryAlgebra.Proofs.Value.Floats

/-!
32-bit floats through their serialized form. The shortest digits of the narrow format are read with
the precision of the wide one and then narrowed, and every finite float comes back.
-/

namespace QueryAlgebra

open Floating (ofScientific?)

/-- The 32-bit float that a literal is narrowed to, if it is rounded to a wide float first. -/
def NumberLiteral.narrowed? (literal : NumberLiteral) : Option Binary32 :=
  literal.nearest?.map (Floating.convert .binary32)

namespace Value

theorem deserialize?_of_isWord (value : Value) (number : JsonNumber)
    (isWord : (JsonToken.number number).IsWord value.content) :
    deserialize? value.serialize = ofContent? value.type (.number number) := by
  have tokens : JsonToken.ofText? value.serialize.toList =
      some (Json.object [(value.type.variant, .number number)]).tokens := by
    rw [serialize, String.toList_ofList]
    exact Json.ofText?_of_lexes _ _ (Json.lexes_entry _ number _ [] isWord)
  have shallow : (Json.object [(value.type.variant, .number number)]).depth ≤
      JsonBuilder.depthLimit := by
    have flat : (Json.object [(value.type.variant, .number number)]).depth = 1 := rfl
    rw [flat]
    decide
  rw [deserialize?, Json.read?_of_tokens _ _ tokens, if_pos shallow]
  simp only [DataType.ofVariant?_variant, Option.bind_eq_bind, Option.bind_some]

theorem deserialize?_serialize_real (x : Binary32) (finite : x.isFinite) :
    deserialize? (real x).serialize = some (real x) := by
  obtain ⟨wide, wideFinite, reads, narrow⟩ := x.number?_literal finite
  have isWord := x.isWord_jsonText finite _ reads
  rw [deserialize?_of_isWord (real x) _ isWord, type, ofContent?, narrow]

theorem narrowed?_singular : ∀ negative,
    (Floating.literal (.ofRank negative FloatFormat.singular : Binary32)).narrowed? ≠
      some (.ofRank negative FloatFormat.singular) := by
  decide +kernel

/-- A single magnitude is missed if the number is rounded to a 64-bit float first. -/
theorem narrowed?_literal_iff (x : Binary32) (finite : x.isFinite) :
    x.literal.narrowed? = some x ↔ x.magnitude.val ≠ FloatFormat.singular := by
  constructor
  · intro narrow same
    have missed := narrowed?_singular x.negative
    rw [← same, x.ofRank_magnitude finite] at missed
    exact missed narrow
  · intro regular
    obtain ⟨wide, nearest, narrow⟩ := x.exists_nearest finite regular
    rw [NumberLiteral.narrowed?, NumberLiteral.nearest?, x.negative_literal, nearest,
      Option.map_some, narrow]

/-- A finite 32-bit float comes back from its serialized form. The number in it rounds to the float.
If it is rounded to a 64-bit float first, a single magnitude is missed; the reader rounds its steps
otherwise and does not miss it. -/
theorem deserialize?_real (x : Binary32) (finite : x.isFinite) :
    deserialize? (real x).serialize = some (real x) ∧
    ∃ written : NumberLiteral, NumberLiteral.read? (real x).content = some written ∧
      ofScientific? written.negative written.magnitude = some x ∧
      (written.narrowed? = some x ↔ x.magnitude.val ≠ 0x15AE43FD) := by
  refine ⟨deserialize?_serialize_real x finite, x.literal, x.read?_literal finite, ?_,
    narrowed?_literal_iff x finite⟩
  rw [x.negative_literal]
  exact Floating.ofScientific?_of_rounds (by decide) (by decide) x finite _ x.rounds_literal

/-- The float 7.038531e-26, which the nearest 64-bit float misses, comes back. -/
theorem deserialize?_real_missed :
    (Floating.ofBits .binary32 0x15AE43FD).isFinite = true ∧
    (real (.ofBits .binary32 0x15AE43FD)).serialize = "\x7b\"F32\":7.038531e-26\x7d" ∧
    deserialize? (real (.ofBits .binary32 0x15AE43FD)).serialize =
      some (real (.ofBits .binary32 0x15AE43FD)) := by
  have finite : (Floating.ofBits .binary32 0x15AE43FD).isFinite = true := by decide
  exact ⟨finite, by decide, (deserialize?_real _ finite).1⟩

end Value
end QueryAlgebra
