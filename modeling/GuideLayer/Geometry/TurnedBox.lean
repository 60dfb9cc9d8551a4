import GuideLayer.Geometry.Box

/-!
A box laid on the map: turned counter-clockwise and moved to an origin.
-/

namespace GuideLayer

structure TurnedBox (α : Type) where
  origin : Point α
  angle : α
  frame : Box α
  deriving DecidableEq, Repr

namespace TurnedBox

variable {α : Type} [Scalar α]

instance : Inhabited (TurnedBox α) := ⟨⟨0, 0, default⟩⟩

/-- Turning and moving keep the area of the local box. -/
def area (b : TurnedBox α) : α := b.frame.area

/-- From the local frame to the map. -/
def toMap [Trig α] (b : TurnedBox α) (p : Point α) : Point α :=
  b.origin + p.turned b.angle

/-- The corners on the map, counter-clockwise. -/
def corners [Trig α] (b : TurnedBox α) : List (Point α) :=
  b.frame.corners.map b.toMap

end TurnedBox

end GuideLayer
