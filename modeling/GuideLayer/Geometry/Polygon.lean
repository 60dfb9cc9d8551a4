import GuideLayer.Geometry.Point

/-!
Polygons as lists of vertices: area, clipping against a convex polygon, and
the share of the joint area that two convex polygons have in common. Turned
viewports are compared through their corners, so nothing here assumes sides
along the axes.
-/

namespace GuideLayer

namespace Polygon

variable {α : Type} [Scalar α]

/-- Areas up to this one count as nothing, and so do the cross products of near-parallel edges. -/
def areaEps : α := 1e-12

/-- Each element with the next one, the last with the first. -/
def cyclicPairs {β : Type} : List β → List (β × β)
  | [] => []
  | p :: ps => (p :: ps).zip (ps ++ [p])

/-- Twice the area enclosed, positive for counter-clockwise order. -/
def doubledArea (ps : List (Point α)) : α :=
  (cyclicPairs ps).foldl (fun sum e => sum + e.1.cross e.2) 0

/-- The area with its sign; fewer than three points enclose none. -/
def signedArea (ps : List (Point α)) : α :=
  if ps.length < 3 then 0 else doubledArea ps * 0.5

def area (ps : List (Point α)) : α := Scalar.abs (signedArea ps)

/-- The same vertices in counter-clockwise order. -/
def counterClockwise (ps : List (Point α)) : List (Point α) :=
  if signedArea ps < 0 then ps.reverse else ps

/-- On or to the left of the line through `a` along `edge`. -/
def Inside (a edge p : Point α) : Prop := 0 ≤ edge.cross (p - a)

instance (a edge p : Point α) : Decidable (Inside a edge p) :=
  inferInstanceAs (Decidable (0 ≤ edge.cross (p - a)))

/-- Where the segment from `p` to `q` meets the line through `a` along `edge`.
A segment that is nearly parallel to the line is met at its start. -/
def crossing (a edge p q : Point α) : Point α :=
  let across := edge.cross (q - p)
  if Scalar.abs across < areaEps then p
  else p + (q - p) * (edge.cross (a - p) / across)

/-- What one edge of the subject leaves on the inner side of a line. -/
def keepEdge (a edge : Point α) (e : Point α × Point α) : List (Point α) :=
  if Inside a edge e.1 then
    if Inside a edge e.2 then [e.2] else [crossing a edge e.1 e.2]
  else
    if Inside a edge e.2 then [crossing a edge e.1 e.2, e.2] else []

/-- The part of a polygon on the inner side of the line from `a` to `b`. -/
def clipHalfPlane (subject : List (Point α)) (line : Point α × Point α) : List (Point α) :=
  (cyclicPairs subject).flatMap (keepEdge line.1 (line.2 - line.1))

/-- The part of a polygon inside a convex, counter-clockwise one. -/
def clip (subject window : List (Point α)) : List (Point α) :=
  (cyclicPairs window).foldl clipHalfPlane subject

/-- Shared area over joint area, between zero and one. Polygons without area share nothing. -/
def overlap (ps qs : List (Point α)) : α :=
  let ps := counterClockwise ps
  let qs := counterClockwise qs
  let left := area ps
  let right := area qs
  if left ≤ areaEps ∨ right ≤ areaEps then 0
  else
    let common := area (clip ps qs)
    let joint := left + right - common
    if joint ≤ areaEps then 0 else Scalar.clampUnit (common / joint)

end Polygon

end GuideLayer
