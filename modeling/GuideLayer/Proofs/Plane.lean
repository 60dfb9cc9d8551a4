import GuideLayer.Geometry.Polygon
import Mathlib.Algebra.Module.Defs
import Mathlib.Algebra.Order.Field.Rat
import Mathlib.Analysis.Convex.Basic
import Mathlib.Tactic.FieldSimp
import Mathlib.Tactic.Linarith
import Mathlib.Tactic.Ring

/-!
The plane over exact numbers. Points are a vector space over the rationals, and
on which side of a line a point is, and how far off, is an affine function of
the point. All that is proved about clipping goes through this one function.
-/

namespace GuideLayer

attribute [ext] Point

namespace Scalar

theorem abs_rat (x : ℚ) : Scalar.abs x = |x| := by
  change (if x < 0 then -x else x) = |x|
  split
  · rename_i h
    exact (abs_of_neg h).symm
  · rename_i h
    exact (abs_of_nonneg (not_lt.mp h)).symm

theorem positivePart_rat (x : ℚ) : Scalar.positivePart x = max 0 x := by
  change (if 0 < x then x else 0) = max 0 x
  split
  · rename_i h
    exact (max_eq_right h.le).symm
  · rename_i h
    exact (max_eq_left (not_lt.mp h)).symm

/-- A share of the whole is not touched. -/
theorem clampUnit_of_mem {x : ℚ} (h0 : 0 ≤ x) (h1 : x ≤ 1) : Scalar.clampUnit x = x := by
  change (if x < 0 then 0 else if 1 < x then 1 else x) = x
  rw [if_neg (not_lt.mpr h0), if_neg (not_lt.mpr h1)]

end Scalar

namespace Point

instance : Neg (Point ℚ) := ⟨fun p => ⟨-p.x, -p.y⟩⟩

instance : AddCommGroup (Point ℚ) where
  add_assoc p q r := Point.ext (add_assoc p.x q.x r.x) (add_assoc p.y q.y r.y)
  zero_add p := Point.ext (zero_add p.x) (zero_add p.y)
  add_zero p := Point.ext (add_zero p.x) (add_zero p.y)
  add_comm p q := Point.ext (add_comm p.x q.x) (add_comm p.y q.y)
  neg_add_cancel p := Point.ext (neg_add_cancel p.x) (neg_add_cancel p.y)
  sub_eq_add_neg p q := Point.ext (sub_eq_add_neg p.x q.x) (sub_eq_add_neg p.y q.y)
  nsmul := nsmulRec
  zsmul := zsmulRec

instance : SMul ℚ (Point ℚ) := ⟨fun k p => p * k⟩

instance : Module ℚ (Point ℚ) where
  one_smul p := Point.ext (mul_one p.x) (mul_one p.y)
  mul_smul k l p := Point.ext
    (show p.x * (k * l) = p.x * l * k by ring) (show p.y * (k * l) = p.y * l * k by ring)
  smul_zero k := Point.ext (zero_mul k) (zero_mul k)
  smul_add k p q := Point.ext (add_mul p.x q.x k) (add_mul p.y q.y k)
  add_smul k l p := Point.ext (mul_add p.x k l) (mul_add p.y k l)
  zero_smul p := Point.ext (mul_zero p.x) (mul_zero p.y)

@[simp] theorem x_smul (k : ℚ) (p : Point ℚ) : (k • p).x = k * p.x := mul_comm p.x k

@[simp] theorem y_smul (k : ℚ) (p : Point ℚ) : (k • p).y = k * p.y := mul_comm p.y k

@[simp] theorem x_neg (p : Point ℚ) : (-p).x = -p.x := rfl

@[simp] theorem y_neg (p : Point ℚ) : (-p).y = -p.y := rfl

theorem cross_eq (p q : Point ℚ) : p.cross q = p.x * q.y - p.y * q.x := rfl

end Point

namespace Polygon

theorem areaEps_rat : (areaEps : ℚ) = 1 / 10 ^ 12 := by
  norm_num [areaEps]

theorem areaEps_pos : (0 : ℚ) < areaEps := by
  rw [areaEps_rat]
  norm_num

/-- On which side of a line a point is: positive to the left, zero on the line. It is the distance
from the line, times the length of the edge that the line is given by. -/
def side (line : Point ℚ × Point ℚ) (p : Point ℚ) : ℚ :=
  (line.2 - line.1).cross (p - line.1)

theorem inside_iff (line : Point ℚ × Point ℚ) (p : Point ℚ) :
    Inside line.1 (line.2 - line.1) p ↔ 0 ≤ side line p := Iff.rfl

theorem side_sub_side (line : Point ℚ × Point ℚ) (p q : Point ℚ) :
    (line.2 - line.1).cross (q - p) = side line q - side line p := by
  simp only [side, Point.cross_eq, Point.x_sub, Point.y_sub]
  ring

/-- The side is an affine function of the point. -/
theorem side_combine (line : Point ℚ × Point ℚ) (p q : Point ℚ) {s t : ℚ} (h : s + t = 1) :
    side line (s • p + t • q) = s * side line p + t * side line q := by
  obtain rfl : s = 1 - t := by linarith
  simp only [side, Point.cross_eq, Point.x_sub, Point.y_sub, Point.x_add, Point.y_add,
    Point.x_smul, Point.y_smul]
  ring

/-- The points whose side is in a convex set of numbers are a convex set themselves. -/
theorem convex_setOf_side_mem {S : Set ℚ} (hS : Convex ℚ S) (line : Point ℚ × Point ℚ) :
    Convex ℚ {p | side line p ∈ S} := by
  intro p hp q hq s t hs ht hst
  change side line (s • p + t • q) ∈ S
  rw [side_combine line p q hst]
  exact hS hp hq hs ht hst

theorem convex_setOf_side_nonneg (line : Point ℚ × Point ℚ) :
    Convex ℚ {p | 0 ≤ side line p} :=
  convex_setOf_side_mem (convex_Ici 0) line

theorem convex_setOf_side_neg (line : Point ℚ × Point ℚ) :
    Convex ℚ {p | side line p < 0} :=
  convex_setOf_side_mem (convex_Iio 0) line

theorem convex_setOf_lt_side (line : Point ℚ × Point ℚ) (k : ℚ) :
    Convex ℚ {p | k < side line p} :=
  convex_setOf_side_mem (convex_Ioi k) line

end Polygon

end GuideLayer
