import QueryAlgebra.Text.Numeral

/-!
Identifiers of 128 bits. The text is the 32 hexadecimal digits in groups of 8, 4, 4, 4 and 12;
reading also takes the digits without hyphens, and the grouped form in braces or as a URN.
-/

namespace QueryAlgebra

structure Uuid where
  number : Fin (2 ^ 128)
  deriving DecidableEq, Repr

namespace Uuid

def groups : List Nat := [8, 4, 4, 4, 12]

def hyphenate : List Nat → List Char → List Char
  | [], _ => []
  | [width], digits => digits.take width
  | width :: widths, digits => digits.take width ++ '-' :: hyphenate widths (digits.drop width)

def unhyphenate? : List Nat → List Char → Option (List Char)
  | [], text => if text = [] then some [] else none
  | [width], text => if text.length = width then some text else none
  | width :: widths, text =>
      match text.drop width with
      | '-' :: rest => (unhyphenate? widths rest).map (text.take width ++ ·)
      | _ => none

def ofNat (n : Nat) : Uuid := ⟨Fin.ofNat (2 ^ 128) n⟩

def digits (uuid : Uuid) : List Char := hexDigits 32 uuid.number

def text (uuid : Uuid) : List Char := hyphenate groups uuid.digits

def ofDigits? (digits : List Char) : Option Uuid :=
  if digits.length = 32 then (ofHexDigits? digits).map ofNat else none

def ofHyphenated? (text : List Char) : Option Uuid := do
  let digits ← unhyphenate? groups text
  ofDigits? digits

/-- The scheme in front of a URN, in lower case; letters of either case may stand for it. -/
def urnScheme : List Char := "urn:uuid:".toList

def read? (text : List Char) : Option Uuid :=
  if text.length = 32 then ofDigits? text
  else if text.length = 36 then ofHyphenated? text
  else if text.length = 38 then
    if text.head? = some '{' ∧ text.getLast? = some '}' then ofHyphenated? (text.drop 1).dropLast
    else none
  else if (text.take urnScheme.length).map Char.toLower = urnScheme then
    ofHyphenated? (text.drop urnScheme.length)
  else none

end Uuid
end QueryAlgebra
