import Mathlib.Data.Nat.Dist
import Mathlib.Tactic.Ring

/-!
Fractions near to a ratio. Two fractions with small denominators that both lie very near to one
ratio are equal. So one such fraction in lowest terms tells which others are near to the ratio: the
fractions it is equal to, and only if it is near enough itself.
-/

namespace QueryAlgebra

structure Fraction where
  numerator : Nat
  denominator : Nat
  deriving DecidableEq, Repr

namespace Fraction

def gap (f g : Fraction) : Nat :=
  Nat.dist (f.numerator * g.denominator) (g.numerator * f.denominator)

def scale (g : Fraction) (factor : Nat) : Fraction :=
  ⟨g.numerator * factor, g.denominator * factor⟩

theorem gap_triangle (f ratio g : Fraction) :
    f.gap g * ratio.denominator ≤
      f.gap ratio * g.denominator + ratio.gap g * f.denominator := by
  have detour := Nat.dist.triangle_inequality
    (f.numerator * g.denominator * ratio.denominator)
    (ratio.numerator * f.denominator * g.denominator)
    (g.numerator * f.denominator * ratio.denominator)
  have first : f.numerator * g.denominator * ratio.denominator =
      f.numerator * ratio.denominator * g.denominator := Nat.mul_right_comm _ _ _
  have middle : ratio.numerator * f.denominator * g.denominator =
      ratio.numerator * g.denominator * f.denominator := Nat.mul_right_comm _ _ _
  have last : g.numerator * f.denominator * ratio.denominator =
      g.numerator * ratio.denominator * f.denominator := Nat.mul_right_comm _ _ _
  simp only [gap, ← Nat.dist_mul_right]
  rw [← first, ← last, ← middle]
  exact detour

theorem gap_scale (g ratio : Fraction) (factor : Nat) :
    (g.scale factor).gap ratio = g.gap ratio * factor := by
  rw [gap, gap, scale, ← Nat.dist_mul_right, ← Nat.mul_assoc,
    Nat.mul_right_comm g.numerator factor]

def Near (precision : Nat) (ratio f : Fraction) : Prop :=
  f.gap ratio * 2 ^ precision ≤ ratio.numerator * f.denominator

instance (precision : Nat) (ratio f : Fraction) : Decidable (Near precision ratio f) :=
  inferInstanceAs (Decidable (_ ≤ _))

theorem near_of_le {precision : Nat} {ratio f : Fraction}
    (above : f.numerator * ratio.denominator * 2 ^ precision ≤
      ratio.numerator * f.denominator * 2 ^ precision + ratio.numerator * f.denominator)
    (below : ratio.numerator * f.denominator * 2 ^ precision ≤
      f.numerator * ratio.denominator * 2 ^ precision + ratio.numerator * f.denominator) :
    Near precision ratio f := by
  rw [Near, gap, ← Nat.dist_mul_right, Nat.dist]
  omega

theorem near_scale (precision : Nat) (ratio g : Fraction) (factor : Nat) (positive : 0 < factor)
    (near : Near precision ratio (g.scale factor)) : Near precision ratio g := by
  rw [Near, gap_scale, scale, Nat.mul_right_comm, ← Nat.mul_assoc] at near
  exact Nat.le_of_mul_le_mul_right near positive

/-- A fraction in lowest terms, so near to a ratio that all fractions near to it with denominators
below a bound are equal to this one. -/
structure Settles (precision bound : Nat) (ratio g : Fraction) : Prop where
  lowest : g.numerator.Coprime g.denominator
  close : bound * (ratio.gap g * 2 ^ precision + g.denominator * ratio.numerator) <
    ratio.denominator * 2 ^ precision

instance (precision bound : Nat) (ratio g : Fraction) :
    Decidable (Settles precision bound ratio g) :=
  decidable_of_iff (g.numerator.Coprime g.denominator ∧
      bound * (ratio.gap g * 2 ^ precision + g.denominator * ratio.numerator) <
        ratio.denominator * 2 ^ precision)
    ⟨fun ⟨lowest, close⟩ => ⟨lowest, close⟩, fun settles => ⟨settles.lowest, settles.close⟩⟩

theorem Settles.gap_eq_zero {precision bound : Nat} {ratio g f : Fraction}
    (settles : Settles precision bound ratio g) (near : Near precision ratio f)
    (small : f.denominator ≤ bound) : f.gap g = 0 := by
  have triangle := f.gap_triangle ratio g
  have scaled : f.gap g * (ratio.denominator * 2 ^ precision) <
      ratio.denominator * 2 ^ precision := by
    calc
      f.gap g * (ratio.denominator * 2 ^ precision) =
          f.gap g * ratio.denominator * 2 ^ precision := (Nat.mul_assoc ..).symm
      _ ≤ (f.gap ratio * g.denominator + ratio.gap g * f.denominator) * 2 ^ precision :=
        Nat.mul_le_mul_right _ triangle
      _ = f.gap ratio * 2 ^ precision * g.denominator +
          ratio.gap g * 2 ^ precision * f.denominator := by ring
      _ ≤ ratio.numerator * f.denominator * g.denominator +
          ratio.gap g * 2 ^ precision * f.denominator :=
        Nat.add_le_add_right (Nat.mul_le_mul_right _ near) _
      _ = f.denominator * (ratio.gap g * 2 ^ precision + g.denominator * ratio.numerator) := by
        ring
      _ ≤ bound * (ratio.gap g * 2 ^ precision + g.denominator * ratio.numerator) :=
        Nat.mul_le_mul_right _ small
      _ < ratio.denominator * 2 ^ precision := settles.close
  -- Different fractions are at least one apart over their common denominator.
  by_contra apart
  have least := Nat.le_mul_of_pos_left (ratio.denominator * 2 ^ precision)
    (Nat.pos_of_ne_zero apart)
  omega

theorem Settles.exists_scale {precision bound : Nat} {ratio g f : Fraction}
    (settles : Settles precision bound ratio g) (near : Near precision ratio f)
    (positive : 0 < f.denominator) (small : f.denominator ≤ bound) :
    ∃ factor, 0 < factor ∧ f = g.scale factor := by
  have cross := Nat.eq_of_dist_eq_zero (settles.gap_eq_zero near small)
  obtain ⟨factor, multiple⟩ : g.denominator ∣ f.denominator :=
    settles.lowest.symm.dvd_of_dvd_mul_left ⟨f.numerator, by rw [← cross, Nat.mul_comm]⟩
  have nonzero : 0 < g.denominator ∧ 0 < factor := by
    rw [multiple] at positive
    exact ⟨Nat.pos_of_mul_pos_right positive, Nat.pos_of_mul_pos_left positive⟩
  refine ⟨factor, nonzero.2, ?_⟩
  have numerator : f.numerator = g.numerator * factor := by
    apply Nat.eq_of_mul_eq_mul_right nonzero.1
    rw [cross, multiple]
    ring
  cases f
  rw [scale, Fraction.mk.injEq]
  exact ⟨numerator, multiple⟩

theorem Near.gap_eq_zero {precision : Nat} {ratio f : Fraction} (near : Near precision ratio f)
    (small : ratio.numerator * f.denominator % ratio.denominator = 0 ∨
      ratio.numerator * f.denominator <
        ratio.numerator * f.denominator % ratio.denominator * 2 ^ precision)
    (large : ratio.numerator * f.denominator <
      (ratio.denominator - ratio.numerator * f.denominator % ratio.denominator) * 2 ^ precision) :
    f.gap ratio = 0 := by
  have division := Nat.div_add_mod' (ratio.numerator * f.denominator) ratio.denominator
  have multiples (less more : Nat) (order : less < more) :
      less * ratio.denominator + ratio.denominator ≤ more * ratio.denominator := by
    rw [← Nat.succ_mul]
    exact Nat.mul_le_mul_right _ order
  have below (least : Nat) (inside : least ≤ f.gap ratio) :
      least * 2 ^ precision ≤ ratio.numerator * f.denominator :=
    (Nat.mul_le_mul_right _ inside).trans near
  generalize ratio.numerator * f.denominator / ratio.denominator = whole at *
  generalize remains : ratio.numerator * f.denominator % ratio.denominator = rest at *
  have distance : f.gap ratio = Nat.dist (f.numerator * ratio.denominator)
    (whole * ratio.denominator + rest) := by rw [division, gap]
  rcases Nat.lt_trichotomy f.numerator whole with less | rfl | more
  · have apart := multiples _ _ less
    have far := below (ratio.denominator - rest) (by rw [distance, Nat.dist]; omega)
    omega
  · have apart := below rest (by rw [distance, Nat.dist]; omega)
    rcases small with rfl | far
    · rw [distance, Nat.add_zero, Nat.dist_self]
    · omega
  · have apart := multiples _ _ more
    have far := below (ratio.denominator - rest) (by rw [distance, Nat.dist]; omega)
    omega

/-- The last convergent of a ratio with a denominator up to a bound, by steps of Euclid's algorithm
from the last two convergents on. -/
def convergent (bound : Nat) : Nat → Fraction → Fraction → Fraction → Fraction
  | 0, _, _, last => last
  | steps + 1, ratio, before, last =>
      let whole := ratio.numerator / ratio.denominator
      let next : Fraction := ⟨whole * last.numerator + before.numerator,
        whole * last.denominator + before.denominator⟩
      if ratio.denominator = 0 ∨ bound < next.denominator then last
      else convergent bound steps ⟨ratio.denominator, ratio.numerator % ratio.denominator⟩ last next

end Fraction
end QueryAlgebra
