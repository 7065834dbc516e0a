import QueryAlgebra.Json.Token

/-!
Reading a JSON value from its tokens with a stack of the arrays and objects that are still open.
A text with more than 127 of them open at once is refused.
-/

namespace QueryAlgebra

/-- An array or object that is open around the value being read, with what it holds so far, newest
first. The value being read is an item of the array, or belongs to the key of the object. -/
inductive JsonFrame where
  | array (items : List Json)
  | object (entries : List (String × Json)) (key : String)

inductive JsonFocus where
  | value
  | firstItem
  | firstKey
  | key (entries : List (String × Json))
  | colon (entries : List (String × Json)) (key : String)
  | complete (json : Json)

structure JsonBuilder where
  frames : List JsonFrame
  focus : JsonFocus

namespace JsonBuilder

def depthLimit : Nat := 127

def start : JsonBuilder := ⟨[], .value⟩

def takeValue (frames : List JsonFrame) (token : JsonToken) : Option JsonBuilder :=
  match token with
  | .null => some ⟨frames, .complete .null⟩
  | .bool b => some ⟨frames, .complete (.bool b)⟩
  | .number n => some ⟨frames, .complete (.number n)⟩
  | .string s => some ⟨frames, .complete (.string s)⟩
  | .openArray =>
      if frames.length < depthLimit then some ⟨.array [] :: frames, .firstItem⟩ else none
  | .openObject =>
      if frames.length < depthLimit then some ⟨frames, .firstKey⟩ else none
  | _ => none

def takeSeparator (frames : List JsonFrame) (json : Json) (token : JsonToken) :
    Option JsonBuilder :=
  match frames, token with
  | .array items :: frames, .comma => some ⟨.array (json :: items) :: frames, .value⟩
  | .array items :: frames, .closeArray =>
      some ⟨frames, .complete (.array (json :: items).reverse)⟩
  | .object entries key :: frames, .comma => some ⟨frames, .key ((key, json) :: entries)⟩
  | .object entries key :: frames, .closeObject =>
      some ⟨frames, .complete (.object ((key, json) :: entries).reverse)⟩
  | _, _ => none

def step (builder : JsonBuilder) (token : JsonToken) : Option JsonBuilder :=
  match builder.focus, token with
  | .value, token => takeValue builder.frames token
  | .firstItem, .closeArray => some ⟨builder.frames.tail, .complete (.array [])⟩
  | .firstItem, token => takeValue builder.frames token
  | .firstKey, .closeObject => some ⟨builder.frames, .complete (.object [])⟩
  | .firstKey, .string key => some ⟨builder.frames, .colon [] key⟩
  | .key entries, .string key => some ⟨builder.frames, .colon entries key⟩
  | .colon entries key, .colon => some ⟨.object entries key :: builder.frames, .value⟩
  | .complete json, token => takeSeparator builder.frames json token
  | _, _ => none

def result? : JsonBuilder → Option Json
  | ⟨[], .complete json⟩ => some json
  | _ => none

end JsonBuilder

/-- The value that a JSON text denotes, entries as written. -/
def Json.read? (text : List Char) : Option Json := do
  let tokens ← JsonToken.ofText? text
  let builder ← tokens.foldlM JsonBuilder.step .start
  builder.result?

def Document.read? (text : List Char) : Option Document :=
  (Json.read? text).map Document.ofJson

end QueryAlgebra
