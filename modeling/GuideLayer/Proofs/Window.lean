import GuideLayer.Proofs.Clipping
import GuideLayer.Proofs.Motion
import GuideLayer.Proofs.Screen

/-!
Windows, that is, polygons that others can be clipped against. Clipping looks at
one edge of a window after the other and at nothing else, so that what all edges
have on their inner sides must be the figure that the vertices go around. Of a
box in its own frame this is read off the coordinates. To lay the box on the map
is a motion, and motions keep sides and areas, so that neither the origin nor
the angle is looked at again.
-/

namespace GuideLayer

open List GuideLayer.Polygon

namespace Polygon

variable {subject window : List (Point ℚ)}

/-- The vertices go around a convex figure of some area counter-clockwise, and the figure is all
that the edges have on their inner sides. -/
structure IsWindow (ps : List (Point ℚ)) : Prop where
  leftTurning : LeftTurning ps
  signedArea_pos : 0 < signedArea ps
  mem_hull_iff : ∀ p, p ∈ hull ps ↔ ∀ e ∈ cyclicPairs ps, Inside e.1 (e.2 - e.1) p

/-- Clipping a convex figure against a window leaves what the two have in common. -/
theorem IsWindow.hull_clip (h : IsWindow window) (hsubject : LeftTurning subject)
    (hsharp : SharpAlong (cyclicPairs window) subject) :
    hull (clip subject window) = hull subject ∩ hull window := by
  rw [clip, hull_foldl_clipHalfPlane hsubject hsharp]
  ext p
  exact and_congr_right' (h.mem_hull_iff p).symm

/-- Four points go around counter-clockwise if none of them is outside of an edge. Any three of
them, in their order, are an edge and another point. -/
theorem leftTurning_of_four {a b c d : Point ℚ}
    (h : ∀ e ∈ cyclicPairs [a, b, c, d], ∀ p ∈ [a, b, c, d], 0 ≤ side e p) :
    LeftTurning [a, b, c, d] := by
  have habc : 0 ≤ side (a, b) c := h (a, b) (by simp [cyclicPairs]) c (by simp)
  have hbcd : 0 ≤ side (b, c) d := h (b, c) (by simp [cyclicPairs]) d (by simp)
  have hcda : 0 ≤ side (c, d) a := h (c, d) (by simp [cyclicPairs]) a (by simp)
  have hdab : 0 ≤ side (d, a) b := h (d, a) (by simp [cyclicPairs]) b (by simp)
  rw [← side_rotate] at hcda
  rw [side_rotate] at hdab
  simp [leftTurning_cons, habc, hbcd, hcda, hdab]

end Polygon

/-! ### Motions -/

namespace Motion

variable (m : Motion) {ps : List (Point ℚ)}

/-- The motion that takes everything back. -/
def inverse : Motion where
  shift := ⟨-(m.cos * m.shift.x + m.sin * m.shift.y), m.sin * m.shift.x - m.cos * m.shift.y⟩
  cos := m.cos
  sin := -m.sin
  unit := by
    rw [neg_sq]
    exact m.unit

theorem inverse_move_move (p : Point ℚ) : m.inverse.move (m.move p) = p := by
  ext
  · simp only [move, turn, inverse, Point.x_add, Point.y_add]
    linear_combination p.x * m.unit
  · simp only [move, turn, inverse, Point.x_add, Point.y_add]
    linear_combination p.y * m.unit

theorem move_inverse_move (p : Point ℚ) : m.move (m.inverse.move p) = p := by
  ext
  · simp only [move, turn, inverse, Point.x_add, Point.y_add]
    linear_combination (p.x - m.shift.x) * m.unit
  · simp only [move, turn, inverse, Point.x_add, Point.y_add]
    linear_combination (p.y - m.shift.y) * m.unit

theorem move_combine (p q : Point ℚ) {s t : ℚ} (h : s + t = 1) :
    m.move (s • p + t • q) = s • m.move p + t • m.move q := by
  obtain rfl : s = 1 - t := by linarith
  ext
  · simp only [move, turn, Point.x_add, Point.y_add, Point.x_smul, Point.y_smul]
    ring
  · simp only [move, turn, Point.x_add, Point.y_add, Point.x_smul, Point.y_smul]
    ring

theorem side_move (a b p : Point ℚ) :
    side (m.move a, m.move b) (m.move p) = side (a, b) p := by
  change (m.move b - m.move a).cross (m.move p - m.move a) = (b - a).cross (p - a)
  rw [move_sub_move, move_sub_move, cross_turn]

theorem leftTurning_move (h : LeftTurning ps) : LeftTurning (ps.map m.move) := by
  intro a b c habc
  obtain ⟨l, hl, heq⟩ := sublist_map_iff.mp habc
  obtain ⟨a', b', c', rfl⟩ : ∃ a' b' c', l = [a', b', c'] := by
    rw [← length_eq_three, ← length_map m.move, ← heq]
    rfl
  cases heq
  rw [side_move]
  exact h a' b' c' hl

theorem move_mem_hull {p : Point ℚ} (h : p ∈ hull ps) : m.move p ∈ hull (ps.map m.move) := by
  have hconvex : Convex ℚ {q | m.move q ∈ hull (ps.map m.move)} := by
    intro q hq r hr s t hs ht hst
    change m.move (s • q + t • r) ∈ hull (ps.map m.move)
    rw [m.move_combine q r hst]
    exact convex_hull _ hq hr hs ht hst
  have hall : hull ps ⊆ {q | m.move q ∈ hull (ps.map m.move)} :=
    hull_subset (fun q hq => mem_hull (mem_map_of_mem hq)) hconvex
  exact hall h

theorem move_mem_hull_iff {p : Point ℚ} : m.move p ∈ hull (ps.map m.move) ↔ p ∈ hull ps := by
  constructor
  · intro h
    have hback := m.inverse.move_mem_hull h
    have hpoint : m.inverse.move ∘ m.move = id := funext m.inverse_move_move
    rwa [map_map, hpoint, map_id, inverse_move_move] at hback
  · exact m.move_mem_hull

/-- A window is one wherever it is moved. -/
theorem isWindow_move (h : IsWindow ps) : IsWindow (ps.map m.move) where
  leftTurning := m.leftTurning_move h.leftTurning
  signedArea_pos := by
    rw [signedArea_move]
    exact h.signedArea_pos
  mem_hull_iff p := by
    -- Any point of the map is where some point has been moved to.
    rw [← m.move_inverse_move p, move_mem_hull_iff, h.mem_hull_iff, cyclicPairs_map, forall_mem_map]
    simp only [Prod.map_fst, Prod.map_snd, move_sub_move, inside_move]

end Motion

/-! ### Boxes in their own frame -/

namespace Box

variable {b : Box ℚ} {p : Point ℚ}

/-- How far a point is to the left of each edge, times the length of the edge. -/
theorem map_side_corners (b : Box ℚ) (p : Point ℚ) :
    (cyclicPairs b.corners).map (fun e => side e p) =
      [b.width * (p.y - b.low.y), b.height * (b.high.x - p.x), b.width * (b.high.y - p.y),
        b.height * (p.x - b.low.x)] := by
  simp only [corners, cyclicPairs, cons_append, nil_append, zip_cons_cons, zip_nil_left, map_cons,
    map_nil, side, Point.cross_eq, Point.x_sub, Point.y_sub, width_eq, height_eq]
  ring_nf

theorem forall_side_corners_iff :
    (∀ e ∈ cyclicPairs b.corners, 0 ≤ side e p) ↔
      0 ≤ b.width * (p.y - b.low.y) ∧ 0 ≤ b.height * (b.high.x - p.x) ∧
        0 ≤ b.width * (b.high.y - p.y) ∧ 0 ≤ b.height * (p.x - b.low.x) := by
  have hsides : (∀ e ∈ cyclicPairs b.corners, 0 ≤ side e p) ↔
      ∀ x ∈ (cyclicPairs b.corners).map (fun e => side e p), 0 ≤ x := forall_mem_map.symm
  rw [hsides, map_side_corners]
  simp

theorem Holds.spans (h : b.Holds p) : b.Spans := ⟨h.1.1.trans h.1.2, h.2.1.trans h.2.2⟩

theorem Holds.side_nonneg (h : b.Holds p) : ∀ e ∈ cyclicPairs b.corners, 0 ≤ side e p := by
  have hwidth : 0 ≤ b.width := h.spans.width_nonneg
  have hheight : 0 ≤ b.height := h.spans.height_nonneg
  obtain ⟨⟨hleft, hright⟩, hbelow, habove⟩ := h
  rw [forall_side_corners_iff]
  exact ⟨mul_nonneg hwidth (sub_nonneg.mpr hbelow), mul_nonneg hheight (sub_nonneg.mpr hright),
    mul_nonneg hwidth (sub_nonneg.mpr habove), mul_nonneg hheight (sub_nonneg.mpr hleft)⟩

/-- What all edges of a box have on their inner sides is the box, if it has two sides. -/
theorem holds_iff_side_nonneg (hwidth : 0 < b.width) (hheight : 0 < b.height) :
    b.Holds p ↔ ∀ e ∈ cyclicPairs b.corners, 0 ≤ side e p := by
  refine ⟨Holds.side_nonneg, fun h => ?_⟩
  rw [forall_side_corners_iff] at h
  obtain ⟨hbelow, hright, habove, hleft⟩ := h
  exact ⟨⟨sub_nonneg.mp (nonneg_of_mul_nonneg_right hleft hheight),
      sub_nonneg.mp (nonneg_of_mul_nonneg_right hright hheight)⟩,
    sub_nonneg.mp (nonneg_of_mul_nonneg_right hbelow hwidth),
    sub_nonneg.mp (nonneg_of_mul_nonneg_right habove hwidth)⟩

theorem holds_of_mem_corners (h : b.Spans) (hp : p ∈ b.corners) : b.Holds p := by
  simp only [corners, mem_cons, not_mem_nil, or_false] at hp
  obtain ⟨hx, hy⟩ := h
  rcases hp with rfl | rfl | rfl | rfl
  · exact ⟨⟨le_rfl, hx⟩, le_rfl, hy⟩
  · exact ⟨⟨hx, le_rfl⟩, le_rfl, hy⟩
  · exact ⟨⟨hx, le_rfl⟩, hy, le_rfl⟩
  · exact ⟨⟨le_rfl, hx⟩, hy, le_rfl⟩

theorem leftTurning_corners (h : b.Spans) : LeftTurning b.corners :=
  leftTurning_of_four (fun e he _ hp => (holds_of_mem_corners h hp).side_nonneg e he)

theorem convex_setOf_holds (b : Box ℚ) : Convex ℚ {p | b.Holds p} := by
  intro p hp q hq s t hs ht hst
  have hx := convex_Icc b.low.x b.high.x hp.1 hq.1 hs ht hst
  have hy := convex_Icc b.low.y b.high.y hp.2 hq.2 hs ht hst
  exact ⟨by simpa using hx, by simpa using hy⟩

/-- A point of a box is between two points of its upright sides. -/
theorem Holds.mem_hull_corners (h : b.Holds p) : p ∈ hull b.corners := by
  obtain ⟨x, y⟩ := p
  obtain ⟨hx, hy⟩ := h
  rw [← Set.mem_Icc, ← segment_eq_Icc (hx.1.trans hx.2)] at hx
  rw [← Set.mem_Icc, ← segment_eq_Icc (hy.1.trans hy.2)] at hy
  obtain ⟨s, t, hs, ht, hst, rfl⟩ := hx
  obtain ⟨u, v, hu, hv, huv, rfl⟩ := hy
  have hleft : u • ⟨b.low.x, b.low.y⟩ + v • ⟨b.low.x, b.high.y⟩ ∈ hull b.corners :=
    convex_hull _ (mem_hull (by simp [corners])) (mem_hull (by simp [corners])) hu hv huv
  have hright : u • ⟨b.high.x, b.low.y⟩ + v • ⟨b.high.x, b.high.y⟩ ∈ hull b.corners :=
    convex_hull _ (mem_hull (by simp [corners])) (mem_hull (by simp [corners])) hu hv huv
  convert convex_hull _ hleft hright hs ht hst using 1
  ext
  · simp only [smul_eq_mul, Point.x_add, Point.x_smul]
    linear_combination (-s * b.low.x - t * b.high.x) * huv
  · simp only [smul_eq_mul, Point.y_add, Point.y_smul]
    linear_combination (-u * b.low.y - v * b.high.y) * hst

theorem mem_hull_corners_iff (h : b.Spans) : p ∈ hull b.corners ↔ b.Holds p := by
  constructor
  · intro hp
    have hall : hull b.corners ⊆ {q | b.Holds q} :=
      hull_subset (fun q hq => holds_of_mem_corners h hq) b.convex_setOf_holds
    exact hall hp
  · exact Holds.mem_hull_corners

theorem spans_of_not_degenerate (h : ¬b.Degenerate) : b.Spans := by
  obtain ⟨hwidth, hheight⟩ := not_not.mp h
  exact ⟨sub_nonneg.mp hwidth.le, sub_nonneg.mp hheight.le⟩

theorem signedArea_corners (b : Box ℚ) : signedArea b.corners = b.width * b.height := by
  let A := Axes.turned 1 0 (by norm_num)
  have hplace : A.place = id := by
    funext p
    ext <;> simp [A, Axes.place, Axes.turned]
  have houtline : A.outline b = b.corners := by rw [Axes.outline, hplace, map_id]
  rw [← houtline, A.signedArea_outline]

theorem isWindow_corners (h : ¬b.Degenerate) : IsWindow b.corners where
  leftTurning := leftTurning_corners (spans_of_not_degenerate h)
  signedArea_pos := by
    obtain ⟨hwidth, hheight⟩ := not_not.mp h
    rw [signedArea_corners]
    exact mul_pos hwidth hheight
  mem_hull_iff p := by
    obtain ⟨hwidth, hheight⟩ := not_not.mp h
    rw [mem_hull_corners_iff (spans_of_not_degenerate h)]
    exact holds_iff_side_nonneg hwidth hheight

end Box

/-! ### Boxes on the map -/

section

variable [Trig ℚ]

namespace TurnedBox

variable {b : TurnedBox ℚ} {p : Point ℚ}

/-- The motion that takes the frame to where the box lies on the map. -/
def placement (b : TurnedBox ℚ) (hunit : Trig.cos b.angle ^ 2 + Trig.sin b.angle ^ 2 = 1) :
    Motion :=
  ⟨b.origin, Trig.cos b.angle, Trig.sin b.angle, hunit⟩

variable (hunit : Trig.cos b.angle ^ 2 + Trig.sin b.angle ^ 2 = 1)

theorem toMap_eq_move (p : Point ℚ) : b.toMap p = (b.placement hunit).move p := by
  ext
  · simp only [toMap, Point.turned, placement, Motion.move, Motion.turn, Point.x_add,
      mul_comm p.x, mul_comm p.y]
  · simp only [toMap, Point.turned, placement, Motion.move, Motion.turn, Point.y_add,
      mul_comm p.x, mul_comm p.y]

theorem corners_eq_map_move : b.corners = b.frame.corners.map (b.placement hunit).move :=
  map_congr_left (fun p _ => toMap_eq_move hunit p)

include hunit

theorem signedArea_corners (hspans : b.frame.Spans) : signedArea b.corners = b.area := by
  have harea : b.area = b.frame.width * b.frame.height := Box.area_of_spans hspans
  rw [corners_eq_map_move hunit, Motion.signedArea_move, Box.signedArea_corners, harea]

theorem counterClockwise_corners (hspans : b.frame.Spans) :
    counterClockwise b.corners = b.corners := by
  apply counterClockwise_of_nonneg
  rw [signedArea_corners hunit hspans]
  exact Box.area_nonneg _

theorem side_corners_nonneg (hspans : b.frame.Spans) :
    ∀ e ∈ cyclicPairs b.corners, ∀ p ∈ b.corners, 0 ≤ side e p := by
  rw [corners_eq_map_move hunit, cyclicPairs_map]
  intro e he p hp
  obtain ⟨⟨a, c⟩, he', rfl⟩ := mem_map.mp he
  obtain ⟨q, hq, rfl⟩ := mem_map.mp hp
  have hside : 0 ≤ side (a, c) q := (Box.holds_of_mem_corners hspans hq).side_nonneg _ he'
  rwa [← (b.placement hunit).side_move] at hside

theorem leftTurning_corners (hspans : b.frame.Spans) : LeftTurning b.corners :=
  leftTurning_of_four (side_corners_nonneg hunit hspans)

theorem isWindow_corners (hsees : ¬b.frame.Degenerate) : IsWindow b.corners := by
  rw [corners_eq_map_move hunit]
  exact Motion.isWindow_move _ (Box.isWindow_corners hsees)

theorem mem_hull_corners_iff (hspans : b.frame.Spans) : p ∈ hull b.corners ↔ b.Covers p := by
  rw [corners_eq_map_move hunit]
  constructor
  · intro hp
    rw [← (b.placement hunit).move_inverse_move p, Motion.move_mem_hull_iff,
      Box.mem_hull_corners_iff hspans] at hp
    refine ⟨_, hp, ?_⟩
    rw [toMap_eq_move hunit, Motion.move_inverse_move]
  · rintro ⟨q, hq, rfl⟩
    rw [toMap_eq_move hunit]
    exact Motion.move_mem_hull _ hq.mem_hull_corners

end TurnedBox

namespace Viewport

/-- No corner of a box on the map is outside of any of its edges, whatever its origin and its angle.
So its corners go around it counter-clockwise and are left in their order, and what they enclose is
its area. The corners of a viewport that shows something are a window: clipping a convex figure
against them leaves exactly what the viewport shows of it. -/
theorem corners_make_window :
    (∀ b : TurnedBox ℚ, Trig.cos b.angle ^ 2 + Trig.sin b.angle ^ 2 = 1 → b.frame.Spans →
      (∀ e ∈ cyclicPairs b.corners, ∀ p ∈ b.corners, Inside e.1 (e.2 - e.1) p) ∧
      LeftTurning b.corners ∧
      signedArea b.corners = b.area ∧ b.area = b.frame.width * b.frame.height ∧
      counterClockwise b.corners = b.corners) ∧
    ∀ v : Viewport ℚ, Trig.cos v.angle ^ 2 + Trig.sin v.angle ^ 2 = 1 → ¬v.Degenerate →
      IsWindow (counterClockwise v.visible.corners) ∧
      ∀ subject, LeftTurning subject →
        SharpAlong (cyclicPairs (counterClockwise v.visible.corners)) subject →
          ∀ p, p ∈ hull (clip subject (counterClockwise v.visible.corners)) ↔
            p ∈ hull subject ∧ v.visible.Covers p := by
  constructor
  · intro b hunit hspans
    exact ⟨TurnedBox.side_corners_nonneg hunit hspans, TurnedBox.leftTurning_corners hunit hspans,
      TurnedBox.signedArea_corners hunit hspans, Box.area_of_spans hspans,
      TurnedBox.counterClockwise_corners hunit hspans⟩
  · intro v hunit hsees
    have hspans : v.visible.frame.Spans := Box.spans_of_not_degenerate hsees
    have hunit' : Trig.cos v.visible.angle ^ 2 + Trig.sin v.visible.angle ^ 2 = 1 := hunit
    have hwindow : IsWindow v.visible.corners := TurnedBox.isWindow_corners hunit' hsees
    rw [TurnedBox.counterClockwise_corners hunit' hspans]
    refine ⟨hwindow, fun subject hsubject hsharp p => ?_⟩
    rw [hwindow.hull_clip hsubject hsharp]
    exact and_congr_right' (TurnedBox.mem_hull_corners_iff hunit' hspans)

end Viewport

end

section

attribute [local instance] Trig.ofHalfTangent

namespace Viewport

/-- A box without height. On the map it is a segment. -/
def flatBox : TurnedBox ℚ := ⟨⟨10, -20⟩, 1 / 2, ⟨⟨-5, 2⟩, ⟨5, 2⟩⟩⟩

/-- A triangle with one vertex in the middle of the screen of `askance` and two off it. -/
def gable : List (Point ℚ) := [⟨10, -20⟩, ⟨210, -20⟩, ⟨10, 180⟩]

theorem corners_make_window_askance :
    flatBox.frame.Spans ∧ LeftTurning flatBox.corners ∧ signedArea flatBox.corners = 0 ∧
      counterClockwise flatBox.corners = flatBox.corners ∧
    ¬askance.Degenerate ∧ IsWindow (counterClockwise askance.visible.corners) ∧
      LeftTurning gable ∧ SharpAlong (cyclicPairs (counterClockwise askance.visible.corners)) gable ∧
      ⟨10, -20⟩ ∈ hull (clip gable (counterClockwise askance.visible.corners)) ∧
      ⟨210, -20⟩ ∉ hull (clip gable (counterClockwise askance.visible.corners)) := by
  obtain ⟨hbox, hviewport⟩ := corners_make_window
  have hspans : flatBox.frame.Spans := ⟨by decide +kernel, by decide +kernel⟩
  obtain ⟨-, hturning, harea, hproduct, horder⟩ :=
    hbox flatBox (Trig.ofHalfTangent_unit _) hspans
  have hflat : flatBox.frame.width * flatBox.frame.height = 0 := by decide +kernel
  have hsees : ¬askance.Degenerate := by decide +kernel
  obtain ⟨hwindow, hclip⟩ := hviewport askance (Trig.ofHalfTangent_unit _) hsees
  have hgable : LeftTurning gable := by decide +kernel
  have hsharp : SharpAlong (cyclicPairs (counterClockwise askance.visible.corners)) gable := by
    decide +kernel
  have hmiddle : askance.visible.Covers ⟨10, -20⟩ := by
    refine ⟨0, ?_, by decide +kernel⟩
    unfold Box.Holds
    decide +kernel
  have hoff : ¬askance.visible.Covers ⟨210, -20⟩ := by
    rw [TurnedBox.covers_iff (sound_ofHalfTangent _), Box.Holds]
    decide +kernel
  refine ⟨hspans, hturning, harea.trans (hproduct.trans hflat), horder, hsees, hwindow, hgable,
    hsharp, ?_, ?_⟩
  · rw [hclip gable hgable hsharp]
    exact ⟨mem_hull (by simp [gable]), hmiddle⟩
  · rw [hclip gable hgable hsharp]
    exact fun h => hoff h.2

end Viewport

end

end GuideLayer
