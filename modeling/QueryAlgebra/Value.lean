import QueryAlgebra.DataType
import QueryAlgebra.Decimal
import QueryAlgebra.Floating.Printer
import QueryAlgebra.Json.Printer
import QueryAlgebra.Timestamp
import QueryAlgebra.Uuid

/-!
Literal values of the ten column types, their text in a query and their equality.
-/

namespace QueryAlgebra

inductive Value where
  | boolean (value : Bool)
  | integer (value : Int32)
  | bigInt (value : Int64)
  | real (value : Binary32)
  | double (value : Binary64)
  | text (value : String)
  | json (value : Document)
  | uuid (value : Uuid)
  | timestamp (value : Timestamp)
  | decimal (value : Decimal)

namespace Value

def type : Value → DataType
  | boolean _ => .boolean
  | integer _ => .integer
  | bigInt _ => .bigInt
  | real _ => .real
  | double _ => .double
  | text _ => .text
  | json _ => .json
  | uuid _ => .uuid
  | timestamp _ => .timestamp
  | decimal _ => .decimal

/-- A value as it stands in a query. A text stands there as it is, without quotes. -/
def sql : Value → String
  | boolean true => "true"
  | boolean false => "false"
  | integer n => String.ofList (intDigits n.toInt)
  | bigInt n => String.ofList (intDigits n.toInt)
  | real x => String.ofList x.plainText
  | double x => String.ofList x.plainText
  | text s => s
  | json document => String.ofList document.json.text
  | uuid u => String.ofList u.text
  | timestamp t => String.ofList (t.text ' ')
  | decimal d => String.ofList d.text

def same : Value → Value → Bool
  | boolean a, boolean b => a = b
  | integer a, integer b => a = b
  | bigInt a, bigInt b => a = b
  | real a, real b => a.same b
  | double a, double b => a.same b
  | text a, text b => a = b
  | json a, json b => a.same b
  | uuid a, uuid b => a = b
  | timestamp a, timestamp b => a = b
  | decimal a, decimal b => a.same b
  | _, _ => false

theorem type_eq_of_same (a b : Value) (equal : a.same b) : a.type = b.type := by
  cases a <;> cases b <;> simp_all [same, type]

end Value
end QueryAlgebra
