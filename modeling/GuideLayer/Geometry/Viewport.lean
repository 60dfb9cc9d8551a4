import GuideLayer.Geometry.TurnedBox

/-!
The map camera. `scale` is map units per pixel, so a larger one shows more of
the map. Pixels grow to the right and down, map units to the right and up.
-/

namespace GuideLayer

structure Viewport (α : Type) where
  center : Point α
  scale : α
  angle : α
  pixelWidth : α
  pixelHeight : α
  deriving DecidableEq, Repr

namespace Viewport

variable {α : Type} [Scalar α]

instance : Inhabited (Viewport α) := ⟨⟨0, 0, 0, 0, 0⟩⟩

/-- The area of the map on screen. -/
def visible (v : Viewport α) : TurnedBox α :=
  ⟨v.center, v.angle,
    Box.centered (0.5 * v.pixelWidth * v.scale) (0.5 * v.pixelHeight * v.scale)⟩

/-- Nothing of the map is on screen. -/
def Degenerate (v : Viewport α) : Prop := v.visible.frame.Degenerate

instance (v : Viewport α) : Decidable v.Degenerate :=
  inferInstanceAs (Decidable v.visible.frame.Degenerate)

def pixelCenter (v : Viewport α) : Point α := ⟨0.5 * v.pixelWidth, 0.5 * v.pixelHeight⟩

/-- From the map to the screen. Without a positive scale every point is at the centre. -/
def toPixel [Trig α] (v : Viewport α) (p : Point α) : Point α :=
  if v.scale ≤ 0 then v.pixelCenter
  else
    let offset := (p - v.center).turned (-v.angle) * (1.0 / v.scale : α)
    ⟨0.5 * v.pixelWidth + offset.x, 0.5 * v.pixelHeight - offset.y⟩

/-- From the screen to the map. -/
def toMap [Trig α] (v : Viewport α) (pixel : Point α) : Point α :=
  let offset : Point α := ⟨pixel.x - 0.5 * v.pixelWidth, 0.5 * v.pixelHeight - pixel.y⟩
  v.center + (offset * v.scale).turned v.angle

end Viewport

end GuideLayer
