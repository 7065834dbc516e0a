/-!
Natural numbers as text: runs of decimal digits, numerals padded to a fixed width, numerals with a
decimal point, and hexadecimal numerals of a fixed width.
-/

namespace QueryAlgebra

-- Powers are the built-in ones in every module, also where Mathlib offers its own.
@[default_instance 20000]
instance (priority := high) powNat : Pow Nat Nat := instPowNat

@[default_instance 10000]
instance (priority := high) powInt : Pow Int Nat := instPowNat

def decimalDigits (n : Nat) : List Char :=
  Nat.toDigits 10 n

def ofDecimalDigits (digits : List Char) : Nat :=
  Nat.ofDigitChars 10 digits 0

theorem ofDecimalDigits_decimalDigits (n : Nat) : ofDecimalDigits (decimalDigits n) = n :=
  Nat.ofDigitChars_toDigits (by decide) (by decide)

def intDigits (n : Int) : List Char :=
  if n < 0 then '-' :: decimalDigits n.natAbs else decimalDigits n.natAbs

def paddedDigits (width n : Nat) : List Char :=
  List.replicate (width - (decimalDigits n).length) '0' ++ decimalDigits n

/-- The number `n / 10 ^ places` with exactly `places` digits after the point, and no point when
there are none. -/
def pointDigits (n places : Nat) : List Char :=
  decimalDigits (n / 10 ^ places) ++
    if places = 0 then [] else '.' :: paddedDigits places (n % 10 ^ places)

def spanDigits (text : List Char) : List Char × List Char :=
  text.span Char.isDigit

def hexDigits : Nat → Nat → List Char
  | 0, _ => []
  | width + 1, n => hexDigits width (n / 16) ++ [Nat.digitChar (n % 16)]

def hexValue? (c : Char) : Option Nat :=
  if c.isDigit then some (c.toNat - '0'.toNat)
  else if 'a' ≤ c ∧ c ≤ 'f' then some (c.toNat - 'a'.toNat + 10)
  else if 'A' ≤ c ∧ c ≤ 'F' then some (c.toNat - 'A'.toNat + 10)
  else none

def ofHexDigits? (digits : List Char) : Option Nat :=
  digits.foldlM (fun value c => (16 * value + ·) <$> hexValue? c) 0

def hexNumeral (n : Nat) : List Char :=
  Nat.toDigits 16 n

end QueryAlgebra
