import QueryAlgebra.Json.Reader
import QueryAlgebra.Value

/-!
The serialized forms: a value is a JSON object whose only key names its variant, and a type is a
JSON string with its name.
-/

namespace QueryAlgebra

def DataType.variant : DataType → String
  | boolean => "Bool"
  | integer => "I32"
  | bigInt => "I64"
  | real => "F32"
  | double => "F64"
  | text => "String"
  | json => "Json"
  | uuid => "Uuid"
  | timestamp => "Timestamp"
  | decimal => "Decimal"

def DataType.ofVariant? (key : String) : Option DataType :=
  all.find? fun type => type.variant = key

namespace Value

/-- What stands under the key of a serialized value. A float that is not finite is `null`. -/
def content : Value → List Char
  | boolean b => (Json.bool b).text
  | integer n => intDigits n.toInt
  | bigInt n => intDigits n.toInt
  | real x => x.jsonText
  | double x => x.jsonText
  | text s => Json.quote s
  | json document => document.json.text
  | uuid u => Json.quote (String.ofList u.text)
  | timestamp t => Json.quote (String.ofList (t.text 'T'))
  | decimal d => Json.quote (String.ofList d.text)

def serialize (value : Value) : String :=
  String.ofList ('{' :: Json.quote value.type.variant ++ ':' :: value.content ++ ['}'])

def integer? (n : Int) : Option Value :=
  if -2 ^ 31 ≤ n ∧ n < 2 ^ 31 then some (integer (Int32.ofInt n)) else none

def bigInt? (n : Int) : Option Value :=
  if -2 ^ 63 ≤ n ∧ n < 2 ^ 63 then some (bigInt (Int64.ofInt n)) else none

/-- A JSON float becomes a decimal through its digits. -/
def decimalOfNumber? : JsonNumber → Option Decimal
  | .integer n _ => Decimal.ofInt? n
  | .float x _ => Decimal.ofPositional? x.plainText

def ofContent? : DataType → Json → Option Value
  | .boolean, .bool b => some (boolean b)
  | .integer, .number (.integer n _) => integer? n
  | .bigInt, .number (.integer n _) => bigInt? n
  | .real, .number (.integer n _) => some (real (Floating.ofInt n))
  | .real, .number (.float x _) => some (real (x.convert .binary32))
  | .double, .number (.integer n _) => some (double (Floating.ofInt n))
  | .double, .number (.float x _) => some (double x)
  | .text, .string s => some (text s)
  | .json, any => some (json (Document.ofJson any))
  | .uuid, .string s => (Uuid.read? s.toList).map uuid
  | .timestamp, .string s => (Timestamp.read? s.toList).map timestamp
  | .decimal, .string s => (Decimal.read? s.toList).map decimal
  | .decimal, .number n => (decimalOfNumber? n).map decimal
  | _, _ => none

/-- The value that a serialized form denotes: an object with one entry, under the key of a
variant. -/
def deserialize? (form : String) : Option Value :=
  match Json.read? form.toList with
  | some (.object [(key, content)]) => do
      let type ← DataType.ofVariant? key
      ofContent? type content
  | _ => none

end Value

namespace DataType

def serialize (type : DataType) : String :=
  String.ofList (Json.quote type.name)

/-- A type is its name, or an object with its name as the only key and `null` under it. -/
def deserialize? (form : String) : Option DataType :=
  match Json.read? form.toList with
  | some (.string name) => ofName? name
  | some (.object [(name, .null)]) => ofName? name
  | _ => none

end DataType
end QueryAlgebra
