import GuideLayer.Proofs.Overlap
import GuideLayer.Proofs.Transition
import GuideLayer.Proofs.Validation

/-!
The same viewport once more. It overlaps with itself entirely, so that there is
nothing to ask. But viewports are compared only if the scale is positive and
the area is more than counts as nothing, and to show anything a viewport needs
neither. The scale and both sides of the screen may be negative, and the area
may be tiny. Such a viewport is asked for every time that it is reported.
-/

namespace GuideLayer

open GuideLayer.Polygon

section

variable [Trig ℚ]

namespace TurnedBox

variable {b : TurnedBox ℚ}

theorem overlap_self (hunit : Trig.cos b.angle ^ 2 + Trig.sin b.angle ^ 2 = 1)
    (harea : areaEps < b.extents.area) : overlap b.corners b.corners = 1 := by
  obtain ⟨hwidth, hheight⟩ := sides_ne_zero harea
  -- No side of a box sticks out of the box, so that none can be too short.
  have hfits : b.extents.Fits b.extents := by
    constructor
    · rw [width_extents]
      exact abs_pos.mpr hwidth
    · rw [height_extents]
      exact abs_pos.mpr hheight
    · rwa [width_extents, height_extents, ← area_extents]
    · exact fun hout => absurd hout (by simp)
    · exact fun hout => absurd hout (by simp)
  rw [(overlap_corners rfl hunit hfits harea).1, Box.share_self (areaEps_pos.trans harea)]

theorem overlap_of_area_le (hunit : Trig.cos b.angle ^ 2 + Trig.sin b.angle ^ 2 = 1)
    (hwidth : b.frame.width ≠ 0) (hheight : b.frame.height ≠ 0)
    (harea : b.extents.area ≤ areaEps) (ps : List (Point ℚ)) : overlap b.corners ps = 0 := by
  have hround := Axes.outlines_counterClockwise (Axes.turned _ _ hunit) (b := b.along)
    (by rwa [width_along]) (by rwa [height_along])
  have hleft : Polygon.area (counterClockwise b.corners) ≤ areaEps := by
    rw [corners_eq_outline b hunit, hround.area]
    exact harea
  unfold overlap
  exact if_pos (.inl hleft)

end TurnedBox

namespace Layer

/-- A viewport that shows anything is like itself just when it can be compared at all. -/
theorem looksLike_self_iff [HostNames] {s : Settings ℚ} (hvalid : s.validate = .ok ())
    (hless : s.minOverlap < 1) {v : Viewport ℚ} (hunit : Trig.cos v.angle ^ 2 + Trig.sin v.angle ^ 2 = 1)
    (hsees : ¬v.Degenerate) :
    looksLike s v v = true ↔ 0 < v.scale ∧ areaEps < v.visible.area := by
  obtain ⟨-, heps, hmin, -⟩ := (Settings.validate_eq_ok_iff s).mp hvalid
  obtain ⟨hwidth, hheight⟩ := not_not.mp hsees
  have harea : v.visible.extents.area = v.visible.area := by
    rw [TurnedBox.area_extents, abs_of_pos hwidth, abs_of_pos hheight, TurnedBox.area,
      Box.area_of_spans ⟨(sub_pos.mp hwidth).le, (sub_pos.mp hheight).le⟩]
  unfold looksLike
  by_cases hscale : v.scale ≤ 0
  · rw [if_pos hscale]
    exact iff_of_false nofun (fun h => h.1.not_ge hscale)
  -- The scale did not change, and any change that is seen is positive.
  have hsame : ¬s.scaleEps < Scalar.abs (v.scale - v.scale) / v.scale := by
    rw [Scalar.abs_rat, sub_self, abs_zero, zero_div]
    exact heps.1.not_gt
  rw [if_neg hscale, if_neg hsame, decide_eq_true_iff]
  by_cases htiny : v.visible.area ≤ areaEps
  · rw [TurnedBox.overlap_of_area_le hunit hwidth.ne' hheight.ne' (by rwa [harea])]
    exact iff_of_false hmin.1.not_gt (fun h => h.2.not_ge htiny)
  · rw [TurnedBox.overlap_self hunit (by rwa [harea, ← not_le])]
    exact iff_of_true hless ⟨not_le.mp hscale, not_le.mp htiny⟩

variable {σ : Type}

theorem updateViewport_same [HostNames] {l : Layer σ ℚ} (hvalid : l.settings.validate = .ok ())
    (hless : l.settings.minOverlap < 1) {c : Camera ℚ} (hon : l.phase.isPaused = false)
    (hcamera : l.camera = some c) (hsees : ¬c.viewport.Degenerate)
    (hunit : Trig.cos c.viewport.angle ^ 2 + Trig.sin c.viewport.angle ^ 2 = 1) (zoom : Nat) :
    l.updateViewport ⟨c.viewport, zoom⟩ =
      if 0 < c.viewport.scale ∧ areaEps < c.viewport.visible.area then l.suppress
      else (l.record ⟨c.viewport, zoom⟩).request := by
  have husable : l.usableCamera? = some c := usableCamera?_eq_some_iff.mpr ⟨hcamera, hsees⟩
  unfold updateViewport
  rw [if_neg (by simp [hon]), if_neg hsees, husable]
  dsimp only
  simp only [looksLike_self_iff hvalid hless hunit hsees]

variable [MarkStore σ ℚ]

/-- The recorded viewport, reported once more at whatever zoom level, is not asked for again, and
the layer goes on as it was, just when its scale is positive and its area is not tiny. Otherwise it
is asked for again each time. -/
theorem updateViewport_same_iff [HostNames] {l : Layer σ ℚ} (hvalid : l.settings.validate = .ok ())
    (hless : l.settings.minOverlap < 1) (steps : List (LayerStep ℚ)) {c : Camera ℚ}
    (hon : (l.run steps).phase.isPaused = false) (hcamera : (l.run steps).camera = some c)
    (hsees : ¬c.viewport.Degenerate)
    (hunit : Trig.cos c.viewport.angle ^ 2 + Trig.sin c.viewport.angle ^ 2 = 1) (zoom : Nat) :
    (((l.run steps).updateViewport ⟨c.viewport, zoom⟩).queue = (l.run steps).queue ∧
        ((l.run steps).updateViewport ⟨c.viewport, zoom⟩).camera = some c ↔
      0 < c.viewport.scale ∧ areaEps < c.viewport.visible.area) ∧
    (0 < c.viewport.scale ∧ areaEps < c.viewport.visible.area →
      (l.run steps).updateViewport ⟨c.viewport, zoom⟩ = (l.run steps).suppress) ∧
    (¬(0 < c.viewport.scale ∧ areaEps < c.viewport.visible.area) →
      (l.run steps).updateViewport ⟨c.viewport, zoom⟩ =
        ((l.run steps).record ⟨c.viewport, zoom⟩).request) := by
  obtain ⟨locale, hsettings⟩ := settings_run l steps
  have hvalid' : (l.run steps).settings.validate = .ok () := by
    rw [hsettings]
    exact hvalid
  have hless' : (l.run steps).settings.minOverlap < 1 := by rwa [hsettings]
  rw [updateViewport_same hvalid' hless' hon hcamera hsees hunit zoom]
  refine ⟨?_, fun h => if_pos h, fun h => if_neg h⟩
  split
  · rename_i h
    exact iff_of_true ⟨rfl, hcamera⟩ h
  · rename_i h
    -- The viewport is the same but it is asked for, and the queue counts that.
    have hasks := request_of_usable
      (usableCamera?_record (c := ⟨c.viewport, zoom⟩) hsees (l.run steps))
    rw [hasks]
    refine iff_of_false (fun hsame => ?_) h
    exact Nat.succ_ne_self _ (congrArg RequestQueue.issued hsame.1)

end Layer

end

section

attribute [local instance] Trig.ofHalfTangent HostNames.ascii

namespace Viewport

/-- A screen that shows something, but so little that it counts as nothing. -/
def speck : Viewport ℚ := ⟨⟨0, 0⟩, 1, 0, 1 / 2 ^ 21, 1 / 2 ^ 20⟩

/-- A screen that is turned, and shows enough. -/
def slanted : Viewport ℚ := ⟨⟨3, 4⟩, 2, 1 / 2, 100, 50⟩

/-- A screen with both sides and the scale negative. It shows a hundred units each way. -/
def inverted : Viewport ℚ := ⟨⟨0, 0⟩, -1, 0, -100, -100⟩

end Viewport

namespace Layer

open Viewport

/-- A layer with standard settings and no marks. -/
def quiet : Layer (MarkBoard ℚ) ℚ := { settings := .standard, store := {} }

/-- The layer is switched on and a viewport is reported. -/
def seeing (v : Viewport ℚ) : List (LayerStep ℚ) := [.setEnabled true, .updateViewport ⟨v, 16⟩]

theorem validate_quiet : quiet.settings.validate = .ok () := by
  rw [Settings.validate_eq_ok_iff]
  refine ⟨?_, ?_, ?_, ?_⟩ <;> decide +kernel

theorem updateViewport_same_slanted :
    quiet.settings.validate = .ok () ∧ quiet.settings.minOverlap < 1 ∧
      (quiet.run (seeing slanted)).phase.isPaused = false ∧
      (quiet.run (seeing slanted)).camera = some ⟨slanted, 16⟩ ∧ ¬slanted.Degenerate ∧
      (quiet.run (seeing slanted)).updateViewport ⟨slanted, 12⟩ =
        (quiet.run (seeing slanted)).suppress := by
  have hless : quiet.settings.minOverlap < 1 := by decide +kernel
  have hon : (quiet.run (seeing slanted)).phase.isPaused = false := by decide +kernel
  have hcamera : (quiet.run (seeing slanted)).camera = some ⟨slanted, 16⟩ := by decide +kernel
  have hsees : ¬slanted.Degenerate := by decide +kernel
  obtain ⟨-, hsame, -⟩ := updateViewport_same_iff validate_quiet hless (seeing slanted) hon hcamera
    hsees (Trig.ofHalfTangent_unit _) 12
  exact ⟨validate_quiet, hless, hon, hcamera, hsees, hsame (by decide +kernel)⟩

/-- Neither a tiny viewport nor one with a negative scale is known again. -/
theorem asks_again : ∀ v ∈ [speck, inverted], (quiet.run (seeing v)).phase.isPaused = false ∧
    (quiet.run (seeing v)).camera = some ⟨v, 16⟩ ∧ ¬v.Degenerate ∧
    ((quiet.run (seeing v)).updateViewport ⟨v, 16⟩).queue.issued ≠
      (quiet.run (seeing v)).queue.issued := by
  decide +kernel

/-- It is not so that every viewport that shows anything is asked for only once. -/
theorem not_forall_updateViewport_same :
    ¬∀ (l : Layer (MarkBoard ℚ) ℚ) (steps : List (LayerStep ℚ)) (c : Camera ℚ) (zoom : Nat),
      l.Fresh → l.settings.validate = .ok () → l.settings.minOverlap < 1 →
      (l.run steps).phase.isPaused = false → (l.run steps).camera = some c →
      ¬c.viewport.Degenerate →
      Trig.cos c.viewport.angle ^ 2 + Trig.sin c.viewport.angle ^ 2 = 1 →
        ((l.run steps).updateViewport ⟨c.viewport, zoom⟩).queue = (l.run steps).queue ∧
          ((l.run steps).updateViewport ⟨c.viewport, zoom⟩).camera = some c := by
  intro h
  obtain ⟨hon, hcamera, hsees, hasks⟩ := asks_again speck (by simp)
  obtain ⟨hqueue, -⟩ := h quiet (seeing speck) ⟨speck, 16⟩ 16 rfl validate_quiet
    (by decide +kernel) hon hcamera hsees (Trig.ofHalfTangent_unit _)
  exact hasks (congrArg RequestQueue.issued hqueue)

end Layer

end

end GuideLayer
