import QueryAlgebra.Value

/-!
Literals of a known column type. Each type has native values of its own, and these their own text and
their own equality. A literal converts to a value, whose type is known only at run time.
-/

namespace QueryAlgebra

/-- The native values of each column type. -/
inductive Literal : DataType → Type where
  | boolean (value : Bool) : Literal .boolean
  | integer (value : Int32) : Literal .integer
  | bigInt (value : Int64) : Literal .bigInt
  | real (value : Binary32) : Literal .real
  | double (value : Binary64) : Literal .double
  | text (value : String) : Literal .text
  | json (value : Document) : Literal .json
  | uuid (value : Uuid) : Literal .uuid
  | timestamp (value : Timestamp) : Literal .timestamp
  | decimal (value : Decimal) : Literal .decimal

namespace Literal

def sql : {type : DataType} → Literal type → String
  | _, boolean b => if b then "true" else "false"
  | _, integer n => String.ofList (intDigits n.toInt)
  | _, bigInt n => String.ofList (intDigits n.toInt)
  | _, real x => String.ofList x.plainText
  | _, double x => String.ofList x.plainText
  | _, text s => s
  | _, json document => String.ofList document.json.text
  | _, uuid u => String.ofList u.text
  | _, timestamp t => String.ofList (t.text ' ')
  | _, decimal d => String.ofList d.text

def same : {type other : DataType} → Literal type → Literal other → Bool
  | _, _, boolean a, boolean b => a = b
  | _, _, integer a, integer b => a = b
  | _, _, bigInt a, bigInt b => a = b
  | _, _, real a, real b => a.same b
  | _, _, double a, double b => a.same b
  | _, _, text a, text b => a = b
  | _, _, json a, json b => a.same b
  | _, _, uuid a, uuid b => a = b
  | _, _, timestamp a, timestamp b => a = b
  | _, _, decimal a, decimal b => a.same b
  | _, _, _, _ => false

def toValue : {type : DataType} → Literal type → Value
  | _, boolean b => .boolean b
  | _, integer n => .integer n
  | _, bigInt n => .bigInt n
  | _, real x => .real x
  | _, double x => .double x
  | _, text s => .text s
  | _, json document => .json document
  | _, uuid u => .uuid u
  | _, timestamp t => .timestamp t
  | _, decimal d => .decimal d

theorem type_toValue {type : DataType} (literal : Literal type) : literal.toValue.type = type := by
  cases literal <;> rfl

theorem sql_toValue {type : DataType} (literal : Literal type) :
    literal.toValue.sql = literal.sql := by
  cases literal with
  | boolean b => cases b <;> rfl
  | _ => rfl

theorem same_toValue {type other : DataType} (a : Literal type) (b : Literal other) :
    a.toValue.same b.toValue = a.same b := by
  cases a <;> cases b <;> rfl

end Literal

def Value.toLiteral : (value : Value) → Literal value.type
  | boolean b => .boolean b
  | integer n => .integer n
  | bigInt n => .bigInt n
  | real x => .real x
  | double x => .double x
  | text s => .text s
  | json document => .json document
  | uuid u => .uuid u
  | timestamp t => .timestamp t
  | decimal d => .decimal d

end QueryAlgebra
