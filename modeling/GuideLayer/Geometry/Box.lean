import GuideLayer.Geometry.Point

/-!
Boxes along the axes of a local frame.
-/

namespace GuideLayer

/-- A box between two opposite corners. It may be degenerate or inverted. -/
structure Box (α : Type) where
  low : Point α
  high : Point α
  deriving DecidableEq, Repr

namespace Box

variable {α : Type} [Scalar α]

instance : Inhabited (Box α) := ⟨⟨0, 0⟩⟩

/-- The box around the origin with the given half sides. -/
def centered (halfWidth halfHeight : α) : Box α :=
  ⟨⟨-halfWidth, -halfHeight⟩, ⟨halfWidth, halfHeight⟩⟩

def width (b : Box α) : α := b.high.x - b.low.x

def height (b : Box α) : α := b.high.y - b.low.y

/-- An inverted side counts as zero. -/
def area (b : Box α) : α :=
  Scalar.positivePart b.width * Scalar.positivePart b.height

/-- A box that encloses no area: a point, a segment, or inverted. -/
def Degenerate (b : Box α) : Prop := ¬(0 < b.width ∧ 0 < b.height)

instance (b : Box α) : Decidable b.Degenerate :=
  inferInstanceAs (Decidable (¬(0 < b.width ∧ 0 < b.height)))

/-- Counter-clockwise, beginning at the low corner. -/
def corners (b : Box α) : List (Point α) :=
  [⟨b.low.x, b.low.y⟩, ⟨b.high.x, b.low.y⟩, ⟨b.high.x, b.high.y⟩, ⟨b.low.x, b.high.y⟩]

end Box

end GuideLayer
