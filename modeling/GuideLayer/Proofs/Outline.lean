import GuideLayer.Geometry.TurnedBox
import GuideLayer.Proofs.Turning

/-!
Boxes that stand in the same direction. What one of them leaves of the other
is a box again, whose vertices may come in pairs, and it is begun with any of
them. Of the four edges of a window only the lower one has to be looked at: a
quarter turn of the axes makes any other edge the lower one.
-/

namespace GuideLayer

attribute [ext] Box

open List GuideLayer.Polygon

namespace Box

/-- Some point is in the box. -/
def Spans (b : Box ℚ) : Prop := b.low.x ≤ b.high.x ∧ b.low.y ≤ b.high.y

/-- The same box along axes that are turned by a quarter. -/
def turn (b : Box ℚ) : Box ℚ := ⟨⟨b.low.y, -b.high.x⟩, ⟨b.high.y, -b.low.x⟩⟩

/-- What is above a height. -/
def raise (y : ℚ) (b : Box ℚ) : Box ℚ := ⟨⟨b.low.x, max b.low.y y⟩, b.high⟩

/-- What two boxes have in common. -/
def meet (b w : Box ℚ) : Box ℚ :=
  ⟨⟨max b.low.x w.low.x, max b.low.y w.low.y⟩, ⟨min b.high.x w.high.x, min b.high.y w.high.y⟩⟩

theorem width_eq (b : Box ℚ) : b.width = b.high.x - b.low.x := rfl

theorem height_eq (b : Box ℚ) : b.height = b.high.y - b.low.y := rfl

theorem Spans.width_nonneg {b : Box ℚ} (h : b.Spans) : 0 ≤ b.width := sub_nonneg.mpr h.1

theorem Spans.height_nonneg {b : Box ℚ} (h : b.Spans) : 0 ≤ b.height := sub_nonneg.mpr h.2

@[simp] theorem width_turn (b : Box ℚ) : b.turn.width = b.height := rfl

@[simp] theorem height_turn (b : Box ℚ) : b.turn.height = b.width := by
  simp only [turn, width_eq, height_eq]
  ring

theorem spans_turn {b : Box ℚ} : b.turn.Spans ↔ b.Spans := by
  simp only [Spans, turn, neg_le_neg_iff, and_comm]

/-- Four quarter turns are none, and between them a box is cut off at each side of a window. -/
theorem turn_raise_four (b w : Box ℚ) :
    (((((((b.raise w.low.y).turn.raise w.turn.low.y).turn).raise
      w.turn.turn.low.y).turn).raise w.turn.turn.turn.low.y).turn) = b.meet w := by
  simp only [turn, raise, meet, neg_neg, max_neg_neg]

/-- A window cuts a box so that it is told where: the sides of the window are not too short, nor is
a side of the box that sticks out. -/
structure Fits (b w : Box ℚ) : Prop where
  width : 0 < w.width
  height : 0 < w.height
  area : (areaEps : ℚ) < w.width * w.height
  upright : b.low.y < w.low.y ∨ w.high.y < b.high.y → (areaEps : ℚ) ≤ w.width * b.height
  across : b.low.x < w.low.x ∨ w.high.x < b.high.x → (areaEps : ℚ) ≤ w.height * b.width

theorem Fits.turn {b w : Box ℚ} (h : b.Fits w) : b.turn.Fits w.turn where
  width := h.height
  height := by
    rw [height_turn]
    exact h.width
  area := by
    rw [width_turn, height_turn, mul_comm]
    exact h.area
  upright hout := by
    rw [width_turn, height_turn]
    exact h.across (hout.symm.imp neg_lt_neg_iff.mp neg_lt_neg_iff.mp)
  across hout := by
    rw [width_turn, height_turn]
    exact h.upright hout

/-- What sticks out above is not cut short below, unless it is longer than the window. -/
theorem Fits.raise {b w : Box ℚ} (h : b.Fits w) : (b.raise w.low.y).Fits w where
  width := h.width
  height := h.height
  area := h.area
  upright hout := by
    have hover : w.high.y < b.high.y :=
      hout.resolve_left (fun hlow => hlow.not_ge (le_max_right b.low.y w.low.y))
    have hheight : (b.raise w.low.y).height = b.high.y - max b.low.y w.low.y := rfl
    rw [hheight]
    obtain hlow | hlow := max_choice b.low.y w.low.y
    · rw [hlow]
      exact h.upright (.inr hover)
    · rw [hlow]
      refine h.area.le.trans (mul_le_mul_of_nonneg_left ?_ h.width.le)
      rw [height_eq]
      linarith
  across := h.across

theorem area_rat (b : Box ℚ) : b.area = max 0 b.width * max 0 b.height := by
  rw [area, Scalar.positivePart_rat, Scalar.positivePart_rat]

end Box

/-- Two directions that span a unit of area, the second to the left of the first. -/
structure Axes where
  u : Point ℚ
  v : Point ℚ
  unit : u.cross v = 1

namespace Axes

variable {A : Axes} {b w : Box ℚ} {ps : List (Point ℚ)}

/-- The point with the given coordinates. -/
def place (A : Axes) (p : Point ℚ) : Point ℚ := p.x • A.u + p.y • A.v

/-- Turned to the left by a quarter. -/
def turn (A : Axes) : Axes where
  u := A.v
  v := -A.u
  unit := by
    rw [← A.unit]
    simp only [Point.cross_eq, Point.x_neg, Point.y_neg]
    ring

/-- Where points are to lines does not depend on the axes. -/
theorem side_place (A : Axes) (a b p : Point ℚ) :
    side (A.place a, A.place b) (A.place p) = side (a, b) p := by
  have hunit := A.unit
  simp only [side, place, Point.cross_eq, Point.x_sub, Point.y_sub, Point.x_add, Point.y_add,
    Point.x_smul, Point.y_smul] at hunit ⊢
  linear_combination ((b.x - a.x) * (p.y - a.y) - (b.y - a.y) * (p.x - a.x)) * hunit

/-- The corners of a box along the axes. -/
def outline (A : Axes) (b : Box ℚ) : List (Point ℚ) := b.corners.map A.place

/-- The lower edge of a box along the axes. -/
def floor (A : Axes) (b : Box ℚ) : Point ℚ × Point ℚ :=
  (A.place b.low, A.place ⟨b.high.x, b.low.y⟩)

theorem place_turn (A : Axes) (p : Point ℚ) : A.turn.place p = A.place ⟨-p.y, p.x⟩ := by
  ext <;> simp [place, turn, add_comm]

theorem outline_turn (A : Axes) (b : Box ℚ) : A.turn.outline b.turn = (A.outline b).rotate 1 := by
  simp [outline, Box.corners, Box.turn, place_turn]

theorem outline_turn_four (A : Axes) (b : Box ℚ) :
    A.turn.turn.turn.turn.outline b = A.outline b := by
  simp [outline, Box.corners, place_turn]

/-- The edges of a box are lower edges along axes that are turned again and again. -/
theorem cyclicPairs_outline (A : Axes) (w : Box ℚ) :
    cyclicPairs (A.outline w) =
      [A.floor w, A.turn.floor w.turn, A.turn.turn.floor w.turn.turn,
        A.turn.turn.turn.floor w.turn.turn.turn] := by
  simp [cyclicPairs, outline, Box.corners, floor, Box.turn, place_turn]

theorem side_floor (A : Axes) (w : Box ℚ) (p : Point ℚ) :
    side (A.floor w) (A.place p) = w.width * (p.y - w.low.y) := by
  rw [floor, side_place]
  simp only [side, Point.cross_eq, Point.x_sub, Point.y_sub, Box.width_eq]
  ring

/-- A list that goes around a box, if there is anything in the box. -/
structure Outlines (A : Axes) (b : Box ℚ) (ps : List (Point ℚ)) : Prop where
  around : b.Spans → ps ~r A.outline b
  nothing : ¬b.Spans → ps = []

theorem Outlines.turn (h : A.Outlines b ps) : A.turn.Outlines b.turn ps := by
  refine ⟨fun hspans => ?_, fun hnot => h.nothing (mt Box.spans_turn.mpr hnot)⟩
  rw [outline_turn]
  exact (h.around (Box.spans_turn.mp hspans)).trans (IsRotated.forall _ 1).symm

/-! ### What one edge leaves of a box -/

theorem clipHalfPlane_of_inside {line : Point ℚ × Point ℚ} (h : ∀ p ∈ ps, 0 ≤ side line p) :
    clipHalfPlane ps line = ps.rotate 1 := by
  have hkeep : ∀ e ∈ cyclicPairs ps, keepEdge line.1 (line.2 - line.1) e = [e.2] := by
    intro e he
    have hends := mem_of_mem_cyclicPairs he
    simp [keepEdge, inside_iff, h _ hends.1, h _ hends.2]
  unfold clipHalfPlane
  rw [flatMap_congr hkeep, ← map_eq_flatMap]
  exact map_snd_cyclicPairs ps

theorem clipHalfPlane_of_outside {line : Point ℚ × Point ℚ} (h : ∀ p ∈ ps, side line p < 0) :
    clipHalfPlane ps line = [] := by
  unfold clipHalfPlane
  rw [flatMap_eq_nil_iff]
  intro e he
  have hends := mem_of_mem_cyclicPairs he
  simp [keepEdge, inside_iff, (h _ hends.1).not_ge, (h _ hends.2).not_ge]

/-- Of a square with two vertices outside, two crossings take their place. -/
theorem clipHalfPlane_of_two_outside {line : Point ℚ × Point ℚ} {a b c d : Point ℚ}
    (ha : side line a < 0) (hb : side line b < 0) (hc : 0 ≤ side line c) (hd : 0 ≤ side line d) :
    clipHalfPlane [a, b, c, d] line =
      [crossing line.1 (line.2 - line.1) b c, c, d, crossing line.1 (line.2 - line.1) d a] := by
  simp [clipHalfPlane, cyclicPairs, keepEdge, inside_iff, ha.not_ge, hb.not_ge, hc, hd]

/-- An upright edge crosses a lower edge where it has its height. -/
theorem crossing_floor (hw : 0 < w.width) {x y y' : ℚ} (hlong : areaEps ≤ w.width * |y' - y|) :
    crossing (A.floor w).1 ((A.floor w).2 - (A.floor w).1) (A.place ⟨x, y⟩) (A.place ⟨x, y'⟩) =
      A.place ⟨x, w.low.y⟩ := by
  have hcross : ((A.floor w).2 - (A.floor w).1).cross (A.place ⟨x, y'⟩ - A.place ⟨x, y⟩) =
      w.width * (y' - y) := by
    rw [side_sub_side, side_floor, side_floor]
    ring
  have hne : y - y' ≠ 0 := by
    intro heq
    rw [abs_sub_comm, heq, abs_zero, mul_zero] at hlong
    exact hlong.not_gt areaEps_pos
  rw [crossing_eq_hit, hit, side_floor, side_floor, ← mul_sub, sub_sub_sub_cancel_right]
  · have hw' := hw.ne'
    unfold place
    ext
    · simp only [Point.x_add, Point.x_smul]
      field_simp
      ring
    · simp only [Point.y_add, Point.y_smul]
      field_simp
      ring
  · rw [hcross, Scalar.abs_rat, abs_mul, abs_of_pos hw]
    exact hlong.not_gt

theorem outline_eq (A : Axes) (b : Box ℚ) :
    A.outline b = [A.place ⟨b.low.x, b.low.y⟩, A.place ⟨b.high.x, b.low.y⟩,
      A.place ⟨b.high.x, b.high.y⟩, A.place ⟨b.low.x, b.high.y⟩] := rfl

/-- A box above an edge keeps its corners. -/
theorem clipHalfPlane_of_above (hw : 0 < w.width) (hspans : b.Spans)
    (habove : w.low.y ≤ b.low.y) :
    clipHalfPlane (A.outline b) (A.floor w) = (A.outline b).rotate 1 := by
  have hlow : 0 ≤ w.width * (b.low.y - w.low.y) := mul_nonneg hw.le (sub_nonneg.mpr habove)
  have hhigh : 0 ≤ w.width * (b.high.y - w.low.y) :=
    mul_nonneg hw.le (sub_nonneg.mpr (habove.trans hspans.2))
  refine clipHalfPlane_of_inside ?_
  simp [outline_eq, side_floor, hlow, hhigh]

/-- The lower corners of a box that reaches down across an edge give way to where its sides cross
the edge. -/
theorem clipHalfPlane_of_across (hw : 0 < w.width) (hlow : b.low.y < w.low.y)
    (hhigh : w.low.y ≤ b.high.y) (hlong : areaEps ≤ w.width * b.height) :
    clipHalfPlane (A.outline b) (A.floor w) =
      (A.outline ⟨⟨b.low.x, w.low.y⟩, b.high⟩).rotate 1 := by
  have hunder : w.width * (b.low.y - w.low.y) < 0 := mul_neg_of_pos_of_neg hw (sub_neg.mpr hlow)
  have hover : 0 ≤ w.width * (b.high.y - w.low.y) := mul_nonneg hw.le (sub_nonneg.mpr hhigh)
  have hup : areaEps ≤ w.width * |b.high.y - b.low.y| := by
    rwa [abs_of_pos (sub_pos.mpr (hlow.trans_le hhigh))]
  have hdown : areaEps ≤ w.width * |b.low.y - b.high.y| := by rwa [abs_sub_comm]
  rw [outline_eq, clipHalfPlane_of_two_outside (by rwa [side_floor]) (by rwa [side_floor])
    (by rwa [side_floor]) (by rwa [side_floor]), crossing_floor hw hup, crossing_floor hw hdown]
  rfl

/-- Nothing is left of a box below an edge. -/
theorem clipHalfPlane_of_below (hw : 0 < w.width) (hspans : b.Spans)
    (hbelow : b.high.y < w.low.y) : clipHalfPlane (A.outline b) (A.floor w) = [] := by
  have hlow : w.width * (b.low.y - w.low.y) < 0 :=
    mul_neg_of_pos_of_neg hw (sub_neg.mpr (hspans.2.trans_lt hbelow))
  have hhigh : w.width * (b.high.y - w.low.y) < 0 :=
    mul_neg_of_pos_of_neg hw (sub_neg.mpr hbelow)
  refine clipHalfPlane_of_outside ?_
  simp [outline_eq, side_floor, hlow, hhigh]

/-- A lower edge cuts a box off at its height. Where the sides of the box are cut, they must not be
so short that it is not told where. -/
theorem Outlines.raise (h : A.Outlines b ps) (hw : 0 < w.width)
    (hlong : b.low.y < w.low.y → w.low.y ≤ b.high.y → areaEps ≤ w.width * b.height) :
    A.Outlines (b.raise w.low.y) (clipHalfPlane ps (A.floor w)) := by
  by_cases hspans : b.Spans
  case neg =>
    rw [h.nothing hspans]
    have hnot : ¬(b.raise w.low.y).Spans :=
      fun hraised => hspans ⟨hraised.1, (le_max_left _ _).trans hraised.2⟩
    exact ⟨fun hraised => absurd hraised hnot, fun _ => rfl⟩
  have hrot := isRotated_clipHalfPlane (h.around hspans) (A.floor w)
  -- The box is above the edge, across it, or below it. A flat box on the edge counts as above.
  obtain habove | hlow := le_or_gt w.low.y b.low.y
  · have hraise : b.raise w.low.y = b := by rw [Box.raise, max_eq_left habove]
    rw [clipHalfPlane_of_above hw hspans habove] at hrot
    rw [hraise]
    exact ⟨fun _ => hrot.trans (IsRotated.forall _ 1), fun hnot => absurd hspans hnot⟩
  obtain hhigh | hbelow := le_or_gt w.low.y b.high.y
  · have hraise : b.raise w.low.y = ⟨⟨b.low.x, w.low.y⟩, b.high⟩ := by
      rw [Box.raise, max_eq_right hlow.le]
    rw [clipHalfPlane_of_across hw hlow hhigh (hlong hlow hhigh)] at hrot
    rw [hraise]
    exact ⟨fun _ => hrot.trans (IsRotated.forall _ 1), fun hnot => absurd ⟨hspans.1, hhigh⟩ hnot⟩
  · have hnot : ¬(b.raise w.low.y).Spans :=
      fun hraised => hbelow.not_ge ((le_max_right _ _).trans hraised.2)
    rw [clipHalfPlane_of_below hw hspans hbelow, isRotated_nil_iff] at hrot
    exact ⟨fun hraised => absurd hraised hnot, fun _ => hrot⟩

/-! ### What a window leaves of a box -/

/-- One edge of a window, and on to the next one. -/
theorem Outlines.clip_turn (h : A.Outlines b ps) (hfits : b.Fits w) :
    A.turn.Outlines (b.raise w.low.y).turn (clipHalfPlane ps (A.floor w)) :=
  (h.raise hfits.width (fun hlow _ => hfits.upright (.inl hlow))).turn

/-- Clipping one box against another leaves what they have in common. -/
theorem Outlines.clip (h : A.Outlines b ps) (hfits : b.Fits w) :
    A.Outlines (b.meet w) (clip ps (A.outline w)) := by
  have hone := h.clip_turn hfits
  have htwo := hone.clip_turn hfits.raise.turn
  have hthree := htwo.clip_turn hfits.raise.turn.raise.turn
  have hfour := hthree.clip_turn hfits.raise.turn.raise.turn.raise.turn
  rw [Box.turn_raise_four] at hfour
  rw [Polygon.clip, cyclicPairs_outline]
  refine ⟨fun hspans => ?_, hfour.nothing⟩
  rw [← outline_turn_four A]
  exact hfour.around hspans

end Axes

end GuideLayer
