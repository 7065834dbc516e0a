/-!
The ten column types, with the name a SQL text uses for each and the name a serialized form uses.
-/

namespace QueryAlgebra

inductive DataType where
  | boolean
  | integer
  | bigInt
  | real
  | double
  | text
  | json
  | uuid
  | timestamp
  | decimal
  deriving DecidableEq, Repr

namespace DataType

def all : List DataType :=
  [boolean, integer, bigInt, real, double, text, json, uuid, timestamp, decimal]

def sqlName : DataType → String
  | boolean => "BOOLEAN"
  | integer => "INTEGER"
  | bigInt => "BIGINT"
  | real => "REAL"
  | double => "DOUBLE PRECISION"
  | text => "TEXT"
  | json => "JSON"
  | uuid => "UUID"
  | timestamp => "TIMESTAMP"
  | decimal => "DECIMAL"

def name : DataType → String
  | boolean => "Boolean"
  | integer => "Integer"
  | bigInt => "BigInt"
  | real => "Real"
  | double => "Double"
  | text => "Text"
  | json => "Json"
  | uuid => "Uuid"
  | timestamp => "Timestamp"
  | decimal => "Decimal"

def ofName? (name : String) : Option DataType :=
  all.find? fun type => type.name = name

end DataType
end QueryAlgebra
