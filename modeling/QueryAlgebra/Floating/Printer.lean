import QueryAlgebra.Floating.Shortest
import QueryAlgebra.Text.Numeral

/-!
Two texts of a floating-point number. The plain text is positional whatever the size; the JSON text
is positional inside a window of exponents and scientific outside, and always shows that it is not
an integer.
-/

namespace QueryAlgebra

namespace Scientific

def positional (s : Scientific) : List Char :=
  pointDigits (s.digits * 10 ^ s.exponent.toNat) (-s.exponent).toNat

def leading (s : Scientific) : Int :=
  s.exponent + (decimalDigits s.digits).length - 1

def scientific (s : Scientific) : List Char :=
  let mantissa := match decimalDigits s.digits with
    | [] => []
    | [digit] => [digit]
    | digit :: rest => digit :: '.' :: rest
  let sign := if s.leading < 0 then '-' else '+'
  mantissa ++ 'e' :: sign :: decimalDigits s.leading.natAbs

end Scientific

/-- The exponents of the first digit for which a JSON number is written without an exponent. -/
structure PositionalWindow where
  least : Int
  greatest : Int
  deriving DecidableEq, Repr

def FloatFormat.jsonWindow (format : FloatFormat) : PositionalWindow :=
  if format = .binary32 then ⟨-6, 12⟩ else ⟨-5, 15⟩

namespace Floating

variable {format : FloatFormat}

def signed (x : Floating format) (text : List Char) : List Char :=
  if x.negative then '-' :: text else text

/-- The shortest digits, positional, without a point after a whole number; a tie goes up. -/
def plainText (x : Floating format) : List Char :=
  if x.isNan then "NaN".toList
  else if x.isFinite then x.signed (format.shortest .up x.magnitude).positional
  else x.signed "inf".toList

/-- The shortest digits as a JSON number, a tie to the even digit; a number that is not finite has
no JSON text but `null`. -/
def jsonText (x : Floating format) : List Char :=
  if x.isFinite then
    let s := format.shortest .even x.magnitude
    x.signed <|
      if format.jsonWindow.least ≤ s.leading ∧ s.leading ≤ format.jsonWindow.greatest then
        s.positional ++ if 0 ≤ s.exponent then ".0".toList else []
      else s.scientific
  else "null".toList

/-! The rank `0x3E60000000000000` is two to the power -25, halfway between two shortest texts. -/

example : String.ofList (ofBits .binary64 0x3E60000000000000).plainText =
    "0.000000029802322387695313" := by decide +kernel

example : String.ofList (ofBits .binary64 0x3E60000000000000).jsonText =
    "2.9802322387695312e-8" := by decide +kernel

example : String.ofList (ofBits .binary64 0x8000000000000000).plainText = "-0" := by
  decide +kernel

example : String.ofList (ofBits .binary32 0x3F800000).jsonText = "1.0" := by decide +kernel

end Floating
end QueryAlgebra
