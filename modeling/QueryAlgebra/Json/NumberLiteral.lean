import QueryAlgebra.Floating.Arithmetic
import QueryAlgebra.Json.Basic
import QueryAlgebra.Text.Numeral

/-!
Number literals of JSON and the numbers they stand for. A literal that is not an integer is read in
three rounded steps: its digits are gathered into a significand of 64 bits, the significand is made
a float, and the float is multiplied or divided by a power of ten that is a float too. So the number
read may lie a little off the one written.
-/

namespace QueryAlgebra

structure NumberLiteral where
  negative : Bool
  whole : List Char
  fraction : Option (List Char)
  exponent : Option (Bool × List Char)
  deriving DecidableEq, Repr

namespace NumberLiteral

def fraction? : List Char → Option (Option (List Char) × List Char)
  | '.' :: rest =>
      let (digits, rest) := spanDigits rest
      if digits = [] then none else some (some digits, rest)
  | rest => some (none, rest)

def exponent? : List Char → Option (Option (Bool × List Char))
  | [] => some none
  | mark :: rest =>
      let (negative, digits) := match rest with
        | '-' :: digits => (true, digits)
        | '+' :: digits => (false, digits)
        | digits => (false, digits)
      if (mark = 'e' ∨ mark = 'E') ∧ digits ≠ [] ∧ digits.all Char.isDigit then
        some (some (negative, digits))
      else none

def read? (word : List Char) : Option NumberLiteral := do
  let (negative, unsigned) := match word with
    | '-' :: rest => (true, rest)
    | rest => (false, rest)
  let (whole, rest) := spanDigits unsigned
  if whole = [] ∨ whole.head? = some '0' ∧ whole ≠ ['0'] then none
  else
    let (fraction, rest) ← fraction? rest
    let exponent ← exponent? rest
    pure ⟨negative, whole, fraction, exponent⟩

def writtenExponent (literal : NumberLiteral) : Int :=
  match literal.exponent with
  | none => 0
  | some (negative, digits) =>
      if negative then -ofDecimalDigits digits else ofDecimalDigits digits

def magnitude (literal : NumberLiteral) : Scientific :=
  let fraction := literal.fraction.getD []
  ⟨ofDecimalDigits (literal.whole ++ fraction), literal.writtenExponent - fraction.length⟩

/-- Adds digits before the point to a significand. The first one for which 64 bits are too few and
all after it are dropped, and each counts as a place. -/
def gatherWhole (significand : Nat) : List Char → Scientific
  | [] => ⟨significand, 0⟩
  | digit :: rest =>
      let next := 10 * significand + (digit.toNat - '0'.toNat)
      if next < 2 ^ 64 then gatherWhole next rest else ⟨significand, (digit :: rest).length⟩

def gatherFraction (gathered : Scientific) : List Char → Scientific
  | [] => gathered
  | digit :: rest =>
      let next := 10 * gathered.digits + (digit.toNat - '0'.toNat)
      if next < 2 ^ 64 then gatherFraction ⟨next, gathered.exponent - 1⟩ rest else gathered

def gathered (literal : NumberLiteral) : Scientific :=
  let digits := gatherFraction (gatherWhole 0 literal.whole) (literal.fraction.getD [])
  ⟨digits.digits, literal.writtenExponent + digits.exponent⟩

def greatestPower : Nat := 308

/-- The rank of the float that a significand with an exponent is read as, at least the rank of
infinity if it is too large. A power of ten below the least one is taken in two steps, and after two
steps of the greatest power nothing is left. -/
def scaledRank (s : Scientific) : Nat :=
  let format := FloatFormat.binary64
  let power (exponent : Nat) := format.ofNat (10 ^ exponent)
  let start := format.ofNat s.digits
  let places := (-s.exponent).toNat
  if s.digits = 0 then 0
  else if 0 ≤ s.exponent then
    if s.exponent ≤ greatestPower then format.product start (power s.exponent.toNat)
    else format.infinity
  else if places ≤ greatestPower then format.quotient start (power places)
  else if places ≤ 2 * greatestPower then
    format.quotient (format.quotient start (power greatestPower)) (power (places - greatestPower))
  else 0

/-- The integer that a literal without point and exponent stands for, unless it is minus zero or
takes more than 64 bits. -/
def integer? (literal : NumberLiteral) : Option JsonNumber :=
  let size := ofDecimalDigits literal.whole
  if literal.fraction.isSome || literal.exponent.isSome || literal.negative && size = 0 then none
  else
    let value : Int := if literal.negative then -size else size
    if inRange : -2 ^ 63 ≤ value ∧ value < 2 ^ 64 then some (.integer value inRange) else none

def float? (literal : NumberLiteral) : Option JsonNumber :=
  let rank := scaledRank literal.gathered
  if below : rank < FloatFormat.binary64.infinity then
    some (.float (.ofRank literal.negative rank) (Floating.ofRank_isFinite _ _ below))
  else none

def number? (literal : NumberLiteral) : Option JsonNumber :=
  literal.integer? <|> literal.float?

end NumberLiteral
end QueryAlgebra
