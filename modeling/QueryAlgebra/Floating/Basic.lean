import QueryAlgebra.Text.Numeral

/-!
Binary floating-point numbers as a sign and a magnitude. The magnitude of a finite number is its
rank among the non-negative ones: zero has rank 0, the smallest positive number rank 1, and the
rank after the largest finite number stands for infinity. All larger ranks are NaNs.
-/

namespace QueryAlgebra

structure FloatFormat where
  fractionBits : Nat
  exponentBits : Nat
  deriving DecidableEq, Repr

namespace FloatFormat

def binary32 : FloatFormat := ⟨23, 8⟩

def binary64 : FloatFormat := ⟨52, 11⟩

variable (format : FloatFormat)

def magnitudeBits : Nat := format.fractionBits + format.exponentBits

def infinity : Nat := (2 ^ format.exponentBits - 1) * 2 ^ format.fractionBits

/-- The smallest positive number is one over two to this power. -/
def subunit : Nat := 2 ^ (format.exponentBits - 1) - 2 + format.fractionBits

/-- The number of a given rank, counted in smallest positive numbers. -/
def units (rank : Nat) : Nat :=
  let shift := rank / 2 ^ format.fractionBits - 1
  (rank - shift * 2 ^ format.fractionBits) * 2 ^ shift

theorem infinity_lt : format.infinity < 2 ^ format.magnitudeBits := by
  have positive : 0 < 2 ^ format.exponentBits := Nat.two_pow_pos _
  unfold infinity magnitudeBits
  rw [Nat.add_comm, Nat.pow_add]
  exact Nat.mul_lt_mul_of_pos_right (by omega) (Nat.two_pow_pos _)

end FloatFormat

structure Floating (format : FloatFormat) where
  negative : Bool
  magnitude : Fin (2 ^ format.magnitudeBits)
  deriving DecidableEq, Repr

abbrev Binary32 := Floating .binary32

abbrev Binary64 := Floating .binary64

namespace Floating

variable {format : FloatFormat}

def ofBits (format : FloatFormat) (bits : Nat) : Floating format :=
  ⟨bits.testBit format.magnitudeBits,
   ⟨bits % 2 ^ format.magnitudeBits, Nat.mod_lt _ (Nat.two_pow_pos _)⟩⟩

def bits (x : Floating format) : Nat :=
  (if x.negative then 2 ^ format.magnitudeBits else 0) + x.magnitude

def isNan (x : Floating format) : Bool :=
  format.infinity < x.magnitude

def isFinite (x : Floating format) : Bool :=
  x.magnitude < format.infinity

def isZero (x : Floating format) : Bool :=
  x.magnitude.val = 0

def same (x y : Floating format) : Bool :=
  !x.isNan && !y.isNan && (x = y || x.isZero && y.isZero)

theorem same_comm (x y : Floating format) : x.same y = y.same x := by
  unfold same
  rw [Bool.and_comm (!x.isNan), Bool.and_comm x.isZero, decide_eq_decide.mpr (eq_comm (a := x))]

theorem same_self (x : Floating format) : x.same x = !x.isNan := by
  simp [same]

end Floating
end QueryAlgebra
