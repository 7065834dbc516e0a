import QueryAlgebra.Floating.Rounding

/-!
Products and quotients of non-negative floating-point numbers, each rounded to the nearest number of
the format. Numbers are given by their ranks; a product may have the rank of infinity or a larger
one.
-/

namespace QueryAlgebra.FloatFormat

variable (format : FloatFormat)

def ofNat (n : Nat) : Nat := format.nearest n 1

def product (a b : Nat) : Nat :=
  format.nearest (format.units a * format.units b) (2 ^ (2 * format.subunit))

def quotient (a b : Nat) : Nat :=
  format.nearest (format.units a) (format.units b)

end QueryAlgebra.FloatFormat
