import GuideLayer.Proofs.Overlap
import GuideLayer.Proofs.Transition

/-!
The screen and the map. Between them stands the frame of what is visible: from
it to the map leads a turn and a shift, and to the screen a change of unit and
of the direction of the height. Each of the two steps has an inverse, and the
second one takes the box of the frame exactly to the screen. What is said of the
screen and the map follows from that, for every centre, angle, scale and size.
-/

namespace GuideLayer

namespace Box

/-- The point is in the box or on its border. -/
def Holds (b : Box ℚ) (p : Point ℚ) : Prop :=
  (b.low.x ≤ p.x ∧ p.x ≤ b.high.x) ∧ b.low.y ≤ p.y ∧ p.y ≤ b.high.y

end Box

/-! ### Between the frame and the screen -/

namespace Viewport

variable {v : Viewport ℚ}

/-- All pixels, with the border of the screen. -/
def screen (v : Viewport ℚ) : Box ℚ := ⟨0, ⟨v.pixelWidth, v.pixelHeight⟩⟩

/-- From the local frame to the screen. -/
def drawn (v : Viewport ℚ) (p : Point ℚ) : Point ℚ :=
  ⟨v.pixelWidth / 2 + p.x / v.scale, v.pixelHeight / 2 - p.y / v.scale⟩

/-- From the screen to the local frame. -/
def picked (v : Viewport ℚ) (pixel : Point ℚ) : Point ℚ :=
  ⟨(pixel.x - v.pixelWidth / 2) * v.scale, (v.pixelHeight / 2 - pixel.y) * v.scale⟩

theorem picked_drawn (h : 0 < v.scale) (p : Point ℚ) : v.picked (v.drawn p) = p := by
  have hscale := h.ne'
  ext
  · simp only [picked, drawn]
    field_simp
    ring
  · simp only [picked, drawn]
    field_simp
    ring

theorem drawn_picked (h : 0 < v.scale) (pixel : Point ℚ) : v.drawn (v.picked pixel) = pixel := by
  ext
  · simp only [picked, drawn, mul_div_cancel_right₀ _ h.ne']
    ring
  · simp only [picked, drawn, mul_div_cancel_right₀ _ h.ne']
    ring

/-- Half the pixels to each side make half the extent to each side. -/
theorem abs_le_half_iff {scale : ℚ} (h : 0 < scale) (pixels x : ℚ) :
    |x / scale| ≤ pixels / 2 ↔ -(0.5 * pixels * scale) ≤ x ∧ x ≤ 0.5 * pixels * scale := by
  have hhalf : pixels / 2 * scale = 0.5 * pixels * scale := by ring
  rw [abs_div, abs_of_pos h, div_le_iff₀ h, hhalf, abs_le]

/-- The box of the frame is the screen. -/
theorem holds_drawn_iff (h : 0 < v.scale) (p : Point ℚ) :
    v.screen.Holds (v.drawn p) ↔ v.visible.frame.Holds p := by
  have hx : 0 ≤ v.pixelWidth / 2 + p.x / v.scale ∧
      v.pixelWidth / 2 + p.x / v.scale ≤ v.pixelWidth ↔ |p.x / v.scale| ≤ v.pixelWidth / 2 := by
    rw [abs_le]
    constructor
    · exact fun hin => ⟨by linarith, by linarith⟩
    · exact fun hin => ⟨by linarith, by linarith⟩
  -- The height is measured downwards on the screen, so that here the two bounds change places.
  have hy : 0 ≤ v.pixelHeight / 2 - p.y / v.scale ∧
      v.pixelHeight / 2 - p.y / v.scale ≤ v.pixelHeight ↔ |p.y / v.scale| ≤ v.pixelHeight / 2 := by
    rw [abs_le]
    constructor
    · exact fun hin => ⟨by linarith, by linarith⟩
    · exact fun hin => ⟨by linarith, by linarith⟩
  exact and_congr (hx.trans (abs_le_half_iff h _ _)) (hy.trans (abs_le_half_iff h _ _))

end Viewport

/-! ### Turning back -/

section

variable [Trig ℚ]

/-- What is used of the cosine and the sine of an angle. -/
structure Trig.Sound (angle : ℚ) : Prop where
  unit : Trig.cos angle ^ 2 + Trig.sin angle ^ 2 = 1
  cos_neg : Trig.cos (-angle) = Trig.cos angle
  sin_neg : Trig.sin (-angle) = -Trig.sin angle

namespace Point

variable {angle : ℚ}

theorem turned_neg_turned (h : Trig.Sound angle) (p : Point ℚ) :
    (p.turned angle).turned (-angle) = p := by
  ext
  · simp only [turned, h.cos_neg, h.sin_neg]
    linear_combination p.x * h.unit
  · simp only [turned, h.cos_neg, h.sin_neg]
    linear_combination p.y * h.unit

theorem turned_turned_neg (h : Trig.Sound angle) (p : Point ℚ) :
    (p.turned (-angle)).turned angle = p := by
  ext
  · simp only [turned, h.cos_neg, h.sin_neg]
    linear_combination p.x * h.unit
  · simp only [turned, h.cos_neg, h.sin_neg]
    linear_combination p.y * h.unit

end Point

namespace TurnedBox

variable {b : TurnedBox ℚ}

/-- From the map to the local frame. -/
def toLocal (b : TurnedBox ℚ) (p : Point ℚ) : Point ℚ := (p - b.origin).turned (-b.angle)

/-- The point of the map is in the box that lies on it, or on its border. -/
def Covers (b : TurnedBox ℚ) (p : Point ℚ) : Prop := ∃ q, b.frame.Holds q ∧ b.toMap q = p

theorem toMap_toLocal (h : Trig.Sound b.angle) (p : Point ℚ) : b.toMap (b.toLocal p) = p := by
  rw [toMap, toLocal, Point.turned_turned_neg h]
  exact add_sub_cancel b.origin p

theorem toLocal_toMap (h : Trig.Sound b.angle) (p : Point ℚ) : b.toLocal (b.toMap p) = p := by
  have hoffset : b.origin + p.turned b.angle - b.origin = p.turned b.angle :=
    add_sub_cancel_left b.origin _
  rw [toLocal, toMap, hoffset, Point.turned_neg_turned h]

theorem covers_iff (h : Trig.Sound b.angle) {p : Point ℚ} :
    b.Covers p ↔ b.frame.Holds (b.toLocal p) := by
  constructor
  · rintro ⟨q, hq, rfl⟩
    rwa [toLocal_toMap h]
  · exact fun hp => ⟨b.toLocal p, hp, toMap_toLocal h p⟩

end TurnedBox

namespace Viewport

variable {v : Viewport ℚ}

/-! ### Between the map and the screen -/

theorem toPixel_eq (h : 0 < v.scale) (p : Point ℚ) :
    v.toPixel p = v.drawn (v.visible.toLocal p) := by
  have hone : (1.0 : ℚ) = 1 := by norm_num
  unfold toPixel
  rw [if_neg h.not_ge]
  ext
  · simp only [drawn, TurnedBox.toLocal, visible, Point.x_mul, hone]
    ring
  · simp only [drawn, TurnedBox.toLocal, visible, Point.y_mul, hone]
    ring

theorem toMap_eq (pixel : Point ℚ) : v.toMap pixel = v.visible.toMap (v.picked pixel) := by
  have hpicked :
      (⟨pixel.x - 0.5 * v.pixelWidth, 0.5 * v.pixelHeight - pixel.y⟩ : Point ℚ) * v.scale =
        v.picked pixel := by
    ext
    · simp only [picked, Point.x_mul]
      ring
    · simp only [picked, Point.y_mul]
      ring
  rw [← hpicked]
  rfl

theorem toMap_toPixel (h : 0 < v.scale) (hangle : Trig.Sound v.angle) (p : Point ℚ) :
    v.toMap (v.toPixel p) = p := by
  rw [toMap_eq, toPixel_eq h, picked_drawn h]
  exact TurnedBox.toMap_toLocal hangle p

theorem toPixel_toMap (h : 0 < v.scale) (hangle : Trig.Sound v.angle) (pixel : Point ℚ) :
    v.toPixel (v.toMap pixel) = pixel := by
  have hlocal : v.visible.toLocal (v.visible.toMap (v.picked pixel)) = v.picked pixel :=
    TurnedBox.toLocal_toMap hangle _
  rw [toMap_eq, toPixel_eq h, hlocal, drawn_picked h]

theorem covers_visible_iff (h : 0 < v.scale) (hangle : Trig.Sound v.angle) {p : Point ℚ} :
    v.visible.Covers p ↔ v.screen.Holds (v.toPixel p) := by
  have hcovers : v.visible.Covers p ↔ v.visible.frame.Holds (v.visible.toLocal p) :=
    TurnedBox.covers_iff hangle
  rw [hcovers, toPixel_eq h, holds_drawn_iff h]

/-- A point of the map is found again from its pixel, and a pixel from its point of the map. A point
of the frame is in its box just when its pixel is on the screen, so that a request for the guides
of a viewport is for the points of the map that are on screen, and for no others. -/
theorem screen_is_visible_area (hscale : 0 < v.scale) (hangle : Trig.Sound v.angle) :
    (∀ p, v.toMap (v.toPixel p) = p) ∧ (∀ pixel, v.toPixel (v.toMap pixel) = pixel) ∧
    (∀ p, v.visible.frame.Holds p ↔ v.screen.Holds (v.toPixel (v.visible.toMap p))) ∧
    ∀ {σ : Type} (l : Layer σ ℚ) (zoom : Nat), l.usableCamera? = some ⟨v, zoom⟩ →
      ∃ r, l.request.queue = l.queue.send r ∧
        ∀ p, r.area.Covers p ↔ v.screen.Holds (v.toPixel p) := by
  refine ⟨toMap_toPixel hscale hangle, toPixel_toMap hscale hangle, fun p => ?_, ?_⟩
  · have hlocal : v.visible.toLocal (v.visible.toMap p) = p := TurnedBox.toLocal_toMap hangle p
    rw [toPixel_eq hscale, hlocal, holds_drawn_iff hscale]
  · intro σ l zoom hcamera
    rw [Layer.request_of_usable hcamera]
    exact ⟨_, rfl, fun p => covers_visible_iff hscale hangle⟩

end Viewport

end

section

attribute [local instance] Trig.ofHalfTangent

namespace Viewport

theorem sound_ofHalfTangent (angle : ℚ) : Trig.Sound angle where
  unit := Trig.ofHalfTangent_unit angle
  cos_neg := by simp only [Trig.cos, neg_sq]
  sin_neg := by
    simp only [Trig.sin, neg_sq]
    ring

/-- A screen with an even number of pixels one way only, turned by the angle with the tangent four
thirds. -/
def askance : Viewport ℚ := ⟨⟨10, -20⟩, 3 / 2, 1 / 2, 90, 41⟩

/-- A layer that has looked at the map that way. -/
def onlooker : Layer Unit ℚ := { settings := .standard, store := (), camera := some ⟨askance, 12⟩ }

theorem screen_is_visible_area_askance :
    0 < askance.scale ∧ Trig.Sound askance.angle ∧
      askance.toMap (askance.toPixel ⟨7, 5⟩) = ⟨7, 5⟩ ∧
      askance.toPixel (askance.toMap ⟨90, 0⟩) = ⟨90, 0⟩ ∧
      askance.screen.Holds (askance.toPixel (askance.visible.toMap ⟨135 / 2, -123 / 4⟩)) ∧
      onlooker.usableCamera? = some ⟨askance, 12⟩ ∧
      ∃ r, onlooker.request.queue = onlooker.queue.send r ∧
        ∀ p, r.area.Covers p ↔ askance.screen.Holds (askance.toPixel p) := by
  have hscale : 0 < askance.scale := by decide +kernel
  have hangle := sound_ofHalfTangent askance.angle
  have hcamera : onlooker.usableCamera? = some ⟨askance, 12⟩ := by decide +kernel
  have hcorner : askance.visible.frame.Holds ⟨135 / 2, -123 / 4⟩ := by
    unfold Box.Holds
    decide +kernel
  obtain ⟨hmap, hpixel, hframe, hrequest⟩ := screen_is_visible_area hscale hangle
  exact ⟨hscale, hangle, hmap _, hpixel _, (hframe _).mp hcorner, hcamera,
    hrequest onlooker 12 hcamera⟩

end Viewport

end

end GuideLayer
