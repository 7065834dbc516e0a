import QueryAlgebra.Text.Invisible
import QueryAlgebra.Text.Numeral

/-!
Quoted text for descriptions: the quote, the backslash and the characters without a visible form are
escaped, so that the text can be recovered.
-/

namespace QueryAlgebra

def quotedChar (c : Char) : List Char :=
  if c = '"' then ['\\', '"']
  else if c = '\\' then ['\\', '\\']
  else if c = '\n' then ['\\', 'n']
  else if c = '\r' then ['\\', 'r']
  else if c = '\t' then ['\\', 't']
  else if c.toNat = 0 then ['\\', '0']
  else if c.toNat < 0x20 ∨ c.toNat = 0x7F ∨ isInvisible c then
    '\\' :: 'u' :: '\x7b' :: hexNumeral c.toNat ++ ['\x7d']
  else [c]

def quoted (text : String) : String :=
  String.ofList ('"' :: text.toList.flatMap quotedChar ++ ['"'])

end QueryAlgebra
