import QueryAlgebra.Floating.Basic

/-!
Rounding a ratio of natural numbers to the nearest floating-point number, a half to the even rank,
and the two conversions built on it: from digits with a decimal exponent and between formats.
-/

namespace QueryAlgebra

def divRoundEven (numerator denominator : Nat) : Nat :=
  let whole := numerator / denominator
  let twice := 2 * (numerator % denominator)
  if denominator < twice ∨ twice = denominator ∧ whole % 2 = 1 then whole + 1 else whole

structure Scientific where
  digits : Nat
  exponent : Int
  deriving DecidableEq, Repr

namespace Scientific

def numerator (s : Scientific) : Nat := s.digits * 10 ^ s.exponent.toNat

def denominator (s : Scientific) : Nat := 10 ^ (-s.exponent).toNat

end Scientific

namespace FloatFormat

variable (format : FloatFormat)

/-- The rank of the number nearest to a ratio. A ratio too large for the format gets the rank of
infinity or a larger one. -/
def nearest (numerator denominator : Nat) : Nat :=
  let scaled := numerator * 2 ^ format.subunit
  let shift := (scaled / denominator).log2 - format.fractionBits
  shift * 2 ^ format.fractionBits + divRoundEven scaled (denominator * 2 ^ shift)

def exceeds (s : Scientific) : Bool :=
  0 < s.digits && (2 ^ format.exponentBits : Int) ≤ s.exponent

/-- Whether a number is so small that its length and decimal exponent show it: each power of ten
takes more than three binary places. -/
def vanishes (s : Scientific) : Bool :=
  s.digits = 0 || (s.digits.log2 + format.subunit + 2 : Int) ≤ -3 * s.exponent

def rankOf? (s : Scientific) : Option Nat :=
  if format.exceeds s then none
  else
    let rank := if format.vanishes s then 0 else format.nearest s.numerator s.denominator
    if rank < format.infinity then some rank else none

end FloatFormat

namespace Floating

variable {format : FloatFormat}

def ofRank (negative : Bool) (rank : Nat) : Floating format :=
  ⟨negative, ⟨min rank format.infinity,
    Nat.lt_of_le_of_lt (Nat.min_le_right _ _) format.infinity_lt⟩⟩

def ofScientific? (negative : Bool) (s : Scientific) : Option (Floating format) :=
  (format.rankOf? s).map (ofRank negative)

def ofInt (n : Int) : Floating format :=
  ofRank (n < 0) (format.nearest n.natAbs 1)

def convert (target : FloatFormat) (x : Floating format) : Floating target :=
  ofRank x.negative (target.nearest (format.units x.magnitude) (2 ^ format.subunit))

theorem ofRank_isFinite (negative : Bool) (rank : Nat) (below : rank < format.infinity) :
    (ofRank negative rank : Floating format).isFinite := by
  apply decide_eq_true
  exact Nat.lt_of_le_of_lt (Nat.min_le_left _ _) below

end Floating
end QueryAlgebra
