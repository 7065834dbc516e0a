import QueryAlgebra.Text.Numeral

/-!
Decimal numbers: a sign, a coefficient of at most 96 bits, and up to 28 places after the point. Two
decimals are equal as numbers whatever their numbers of places and whatever the sign of a zero.
-/

namespace QueryAlgebra

structure Decimal where
  negative : Bool
  digits : Nat
  scale : Nat
  digits_lt : digits < 2 ^ 96
  scale_le : scale ≤ 28
  deriving DecidableEq, Repr

namespace Decimal

def ofParts? (negative : Bool) (digits scale : Nat) : Option Decimal :=
  if valid : digits < 2 ^ 96 ∧ scale ≤ 28 then some ⟨negative, digits, scale, valid.1, valid.2⟩
  else none

def coefficient (d : Decimal) : Int := if d.negative then -d.digits else d.digits

def ofCoefficient? (coefficient : Int) (scale : Nat) : Option Decimal :=
  ofParts? (coefficient < 0) coefficient.natAbs scale

def ofInt? (n : Int) : Option Decimal := ofCoefficient? n 0

def same (a b : Decimal) : Bool :=
  a.coefficient * 10 ^ b.scale = b.coefficient * 10 ^ a.scale

def text (d : Decimal) : List Char :=
  if d.negative then '-' :: pointDigits d.digits d.scale else pointDigits d.digits d.scale

/-- A coefficient and a scale after one more digit that there is no room for: from five on the
coefficient goes up by one, if need be at the cost of one more place. -/
def roundLast? (coefficient scale : Nat) (digit : Char) : Option (Nat × Nat) :=
  let up := coefficient + 1
  if digit < '5' then some (coefficient, scale)
  else if up < 2 ^ 96 then some (up, scale)
  else if scale = 0 then none
  else some ((up + 4) / 10, scale - 1)

/-- Coefficients below this can take one more digit without leaving a word of 64 bits, whatever
character stands for the digit. -/
def wordRoom : Nat := (2 ^ 64 - 1) / 10 - 255

/-- Whether an underscore ends a number: it follows the last place, and the coefficient up to that
place was small enough for a word. -/
def endsAtUnderscore (coefficient scale : Nat) : Bool :=
  scale = 28 && coefficient / 10 < wordRoom

def weightless (rest : List Char) : Bool := rest.all fun c => c.isDigit || c = '_'

/-- Reads digits with at most one point, and underscores after the first digit, to a coefficient and
a scale. The first digit after the point that there is no room for rounds the number, and the ones
after it have no weight. An underscore is skipped, or stands for such a digit, a zero. -/
def unsigned? (digitSeen pointSeen : Bool) (coefficient scale : Nat) :
    List Char → Option (Nat × Nat)
  | [] => if digitSeen then some (coefficient, scale) else none
  | c :: rest =>
      let next := 10 * coefficient + (c.toNat - '0'.toNat)
      if c = '_' then
        if !digitSeen then none
        else if endsAtUnderscore coefficient scale then
          if weightless rest then some (coefficient, scale) else none
        else unsigned? digitSeen pointSeen coefficient scale rest
      else if c = '.' then
        if pointSeen then none else unsigned? digitSeen true coefficient scale rest
      else if !c.isDigit then none
      else if next < 2 ^ 96 ∧ scale < 28 then
        unsigned? true pointSeen next (if pointSeen then scale + 1 else scale) rest
      else if pointSeen && weightless rest then roundLast? coefficient scale c
      else none

def signed? (negative : Bool) (text : List Char) : Option Decimal := do
  let (digits, scale) ← unsigned? false false 0 0 text
  ofParts? (negative && digits ≠ 0) digits scale

def ofPositional? : List Char → Option Decimal
  | '-' :: rest => signed? true rest
  | '+' :: rest => signed? false rest
  | text => signed? false text

def exponentSize? (text : List Char) : Option Nat :=
  let digits := match text with
    | '+' :: rest => rest
    | rest => rest
  if digits ≠ [] ∧ digits.all Char.isDigit ∧ ofDecimalDigits digits ≤ 28 then
    some (ofDecimalDigits digits)
  else none

def shiftRight? (d : Decimal) (size : Nat) : Option Decimal :=
  if size ≤ d.scale then ofParts? d.negative d.digits (d.scale - size)
  else ofParts? d.negative (d.digits * 10 ^ (size - d.scale)) 0

/-- Moves the point `size` places to the left. Places after the 28th are rounded, a half away from
zero; a negative number rounded to zero keeps its sign. -/
def shiftLeft? (d : Decimal) (size : Nat) : Option Decimal :=
  let excess := d.scale + size - 28
  if excess = 0 then ofParts? d.negative d.digits (d.scale + size)
  else ofParts? d.negative ((d.digits + 5 * 10 ^ (excess - 1)) / 10 ^ excess) 28

def ofScientific? (text : List Char) : Option Decimal :=
  let (base, rest) := text.span fun c => c ≠ 'e' && c ≠ 'E'
  match rest with
  | [] => none
  | _ :: '-' :: exponent => do
      let d ← ofPositional? base
      let size ← exponentSize? exponent
      d.shiftLeft? size
  | _ :: exponent => do
      let d ← ofPositional? base
      let size ← exponentSize? exponent
      d.shiftRight? size

def read? (text : List Char) : Option Decimal :=
  ofPositional? text <|> ofScientific? text

end Decimal
end QueryAlgebra
