import QueryAlgebra.Floating.Rounding

/-!
The shortest decimal number that reads back as a given floating-point number: of the grids of
multiples of a power of ten, the coarsest one with a point in the interval of numbers that round to
the given one, and on that grid the point nearest to it.
-/

namespace QueryAlgebra

inductive Tie where
  | up
  | even
  deriving DecidableEq, Repr

/-- The numbers that round to the float of a rank, and the float itself, as numerators over one
denominator. The ends belong to the interval iff the rank is even. -/
structure RoundingInterval where
  low : Nat
  middle : Nat
  high : Nat
  denominator : Nat
  closed : Bool
  deriving DecidableEq, Repr

def FloatFormat.interval (format : FloatFormat) (rank : Nat) : RoundingInterval where
  low := format.units (rank - 1) + format.units rank
  middle := 2 * format.units rank
  high := format.units rank + format.units (rank + 1)
  denominator := 2 ^ (format.subunit + 1)
  closed := rank % 2 = 0

namespace RoundingInterval

def contains (i : RoundingInterval) (s : Scientific) : Bool :=
  let point := s.numerator * i.denominator
  let low := i.low * s.denominator
  let high := i.high * s.denominator
  if i.closed then low ≤ point && point ≤ high else low < point && point < high

def nearer (i : RoundingInterval) (tie : Tie) (lower upper : Scientific) : Scientific :=
  let twice := 2 * i.middle * lower.denominator
  let sum := (lower.numerator + upper.numerator) * i.denominator
  if twice < sum then lower
  else if sum < twice then upper
  else match tie with
    | .up => upper
    | .even => if lower.digits % 2 = 0 then lower else upper

/-- The point of the grid of multiples of `10 ^ exponent` that lies in the interval nearest to its
middle. -/
def onGrid? (i : RoundingInterval) (tie : Tie) (exponent : Int) : Option Scientific :=
  let stretch := 10 ^ (-exponent).toNat
  let step := 10 ^ exponent.toNat * i.denominator
  let lower : Scientific := ⟨i.middle * stretch / step, exponent⟩
  let upper : Scientific := ⟨lower.digits + 1, exponent⟩
  match i.contains lower, i.contains upper with
  | true, true => some (i.nearer tie lower upper)
  | true, false => some lower
  | false, true => some upper
  | false, false => none

def topExponent (i : RoundingInterval) : Nat :=
  (Nat.toDigits 10 (i.high / i.denominator)).length

end RoundingInterval

def FloatFormat.exact (format : FloatFormat) (rank : Nat) : Scientific :=
  ⟨format.units rank * 5 ^ format.subunit, -format.subunit⟩

/-- The shortest decimal number that reads back as the float of a finite rank. -/
def FloatFormat.shortest (format : FloatFormat) (tie : Tie) (rank : Nat) : Scientific :=
  if rank = 0 then ⟨0, 0⟩
  else
    let i := format.interval rank
    let grids := List.range (i.topExponent + format.subunit)
    let found := grids.findSome? fun (finer : Nat) => i.onGrid? tie (i.topExponent - finer)
    found.getD (format.exact rank)

end QueryAlgebra
