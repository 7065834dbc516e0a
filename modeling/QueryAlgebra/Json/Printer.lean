import QueryAlgebra.Json.Basic
import QueryAlgebra.Floating.Printer

/-!
The compact text of a JSON value: no blanks, and in strings only the quote, the backslash and the
characters below the space are escaped.
-/

namespace QueryAlgebra

def JsonNumber.text : JsonNumber → List Char
  | integer n _ => intDigits n
  | float x _ => x.jsonText

namespace Json

def escapeChar (c : Char) : List Char :=
  if c = '"' then ['\\', '"']
  else if c = '\\' then ['\\', '\\']
  else if c = '\n' then ['\\', 'n']
  else if c = '\r' then ['\\', 'r']
  else if c = '\t' then ['\\', 't']
  else if c.toNat = 0x08 then ['\\', 'b']
  else if c.toNat = 0x0C then ['\\', 'f']
  else if c.toNat < 0x20 then '\\' :: 'u' :: hexDigits 4 c.toNat
  else [c]

def quote (s : String) : List Char :=
  '"' :: s.toList.flatMap escapeChar ++ ['"']

mutual
def text : Json → List Char
  | null => "null".toList
  | bool true => "true".toList
  | bool false => "false".toList
  | number n => n.text
  | string s => quote s
  | array items => '[' :: itemsText items ++ [']']
  | object entries => '{' :: entriesText entries ++ ['}']

def itemsText : List Json → List Char
  | [] => []
  | [item] => item.text
  | item :: items => item.text ++ ',' :: itemsText items

def entriesText : List (String × Json) → List Char
  | [] => []
  | [(key, value)] => quote key ++ ':' :: value.text
  | (key, value) :: entries => quote key ++ ':' :: value.text ++ ',' :: entriesText entries
end

end Json
end QueryAlgebra
