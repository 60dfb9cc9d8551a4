import GuideLayer.Proofs.Outline

/-!
The share that two boxes in the same direction have in common. It is worked
out from the extents of the boxes along their axes alone, in whichever order
and from whichever corner the corners are given. Inverted boxes are no
exception: their corners go around the other way, or are begun with the
opposite one.
-/

namespace GuideLayer

open List

namespace Polygon

variable {ps qs : List (Point ℚ)}

/-- Where a list that goes around is begun does not matter for its area. -/
theorem signedArea_eq_of_isRotated (h : ps ~r qs) : signedArea ps = signedArea qs := by
  have hcomm : RightCommutative (fun (sum : ℚ) (e : Point ℚ × Point ℚ) => sum + e.1.cross e.2) :=
    ⟨fun _ _ _ => add_right_comm _ _ _⟩
  have hdoubled : doubledArea ps = doubledArea qs := (isRotated_cyclicPairs h).perm.foldl_eq 0
  rw [signedArea, signedArea, hdoubled, h.perm.length_eq]

theorem area_rat (ps : List (Point ℚ)) : area ps = |signedArea ps| := Scalar.abs_rat _

theorem areaEps_lt_mul {x y : ℚ} (hx : 1 / 10 ^ 6 < x) (hy : 1 / 10 ^ 6 < y) :
    areaEps < x * y := by
  have hsquare : (areaEps : ℚ) = 1 / 10 ^ 6 * (1 / 10 ^ 6) := by
    rw [areaEps_rat]
    norm_num
  rw [hsquare]
  exact mul_lt_mul'' hx hy (by norm_num) (by norm_num)

theorem counterClockwise_of_nonneg (h : 0 ≤ signedArea ps) : counterClockwise ps = ps :=
  if_neg (not_lt.mpr h)

theorem counterClockwise_of_neg (h : signedArea ps < 0) : counterClockwise ps = ps.reverse :=
  if_pos h

end Polygon

open GuideLayer.Polygon

namespace Axes

variable {A : Axes} {b w : Box ℚ} {ps : List (Point ℚ)}

theorem cross_place (A : Axes) (p q : Point ℚ) :
    (A.place p).cross (A.place q) = p.cross q := by
  have hunit := A.unit
  simp only [place, Point.cross_eq, Point.x_add, Point.y_add, Point.x_smul, Point.y_smul]
    at hunit ⊢
  linear_combination (p.x * q.y - p.y * q.x) * hunit

theorem signedArea_outline (A : Axes) (b : Box ℚ) :
    signedArea (A.outline b) = b.width * b.height := by
  have hdoubled : doubledArea (A.outline b) = 2 * (b.width * b.height) := by
    simp only [doubledArea, outline_eq, cyclicPairs, cons_append, nil_append, zip_cons_cons,
      zip_nil_left, foldl_cons, foldl_nil, cross_place]
    simp only [Point.cross_eq, Box.width_eq, Box.height_eq]
    ring
  have harea : signedArea (A.outline b) = doubledArea (A.outline b) * 0.5 := rfl
  rw [harea, hdoubled]
  norm_num
  ring

theorem Outlines.area (h : A.Outlines b ps) : Polygon.area ps = b.area := by
  rw [Polygon.area_rat, Box.area_rat]
  by_cases hspans : b.Spans
  · have hwidth : 0 ≤ b.width := hspans.width_nonneg
    have hheight : 0 ≤ b.height := hspans.height_nonneg
    rw [signedArea_eq_of_isRotated (h.around hspans), signedArea_outline, max_eq_right hwidth,
      max_eq_right hheight, abs_of_nonneg (mul_nonneg hwidth hheight)]
  · have hnone : signedArea ([] : List (Point ℚ)) = 0 := rfl
    rw [h.nothing hspans, hnone, abs_zero]
    rw [Box.Spans, not_and_or, not_le, not_le] at hspans
    obtain hx | hy := hspans
    · rw [max_eq_left (a := 0) (b := b.width) (sub_neg.mpr hx).le, zero_mul]
    · rw [max_eq_left (a := 0) (b := b.height) (sub_neg.mpr hy).le, mul_zero]

end Axes

namespace Box

/-- The box with its sides the right way round. -/
def upright (b : Box ℚ) : Box ℚ :=
  ⟨⟨min b.low.x b.high.x, min b.low.y b.high.y⟩, ⟨max b.low.x b.high.x, max b.low.y b.high.y⟩⟩

/-- What two boxes have in common, of all that they cover together. -/
def share (b w : Box ℚ) : ℚ := (b.meet w).area / (b.area + w.area - (b.meet w).area)

theorem meet_comm (b w : Box ℚ) : b.meet w = w.meet b := by
  simp only [meet, max_comm, min_comm]

theorem meet_self (b : Box ℚ) : b.meet b = b := by
  simp only [meet, max_self, min_self]

theorem meet_turn (b w : Box ℚ) : b.turn.meet w.turn = (b.meet w).turn := by
  simp only [meet, turn, max_neg_neg, min_neg_neg]

@[simp] theorem area_turn (b : Box ℚ) : b.turn.area = b.area := by
  rw [area_rat, area_rat, width_turn, height_turn, mul_comm]

theorem area_nonneg (b : Box ℚ) : 0 ≤ b.area := by
  rw [area_rat]
  exact mul_nonneg (le_max_left _ _) (le_max_left _ _)

theorem area_of_spans {b : Box ℚ} (h : b.Spans) : b.area = b.width * b.height := by
  rw [area_rat, max_eq_right h.width_nonneg, max_eq_right h.height_nonneg]

theorem area_of_degenerate {b : Box ℚ} (h : b.Degenerate) : b.area = 0 := by
  rw [area_rat]
  obtain hwidth | hheight := not_and_or.mp h
  · rw [max_eq_left (not_lt.mp hwidth), zero_mul]
  · rw [max_eq_left (not_lt.mp hheight), mul_zero]

theorem area_meet_le (b w : Box ℚ) : (b.meet w).area ≤ b.area := by
  rw [area_rat, area_rat]
  have hwidth : (b.meet w).width ≤ b.width :=
    sub_le_sub (min_le_left _ _) (le_max_left _ _)
  have hheight : (b.meet w).height ≤ b.height :=
    sub_le_sub (min_le_left _ _) (le_max_left _ _)
  exact mul_le_mul (max_le_max_left 0 hwidth) (max_le_max_left 0 hheight) (le_max_left _ _)
    (le_max_left _ _)

theorem share_comm (b w : Box ℚ) : b.share w = w.share b := by
  rw [share, share, meet_comm, add_comm b.area]

theorem share_self {b : Box ℚ} (h : 0 < b.area) : b.share b = 1 := by
  rw [share, meet_self, add_sub_cancel_right, div_self h.ne']

theorem share_of_degenerate {b w : Box ℚ} (h : (b.meet w).Degenerate) : b.share w = 0 := by
  rw [share, area_of_degenerate h, zero_div]

theorem share_mem {b w : Box ℚ} : 0 ≤ b.share w ∧ b.share w ≤ 1 := by
  have hb := area_meet_le b w
  have hw := area_meet_le w b
  rw [meet_comm] at hw
  have hnonneg := (b.meet w).area_nonneg
  exact ⟨div_nonneg hnonneg (by linarith), div_le_one_of_le₀ (by linarith) (by linarith)⟩

theorem Fits.of_long {b w : Box ℚ} (hb : 1 / 10 ^ 6 < b.width) (hb' : 1 / 10 ^ 6 < b.height)
    (hw : 1 / 10 ^ 6 < w.width) (hw' : 1 / 10 ^ 6 < w.height) : b.Fits w where
  width := by linarith
  height := by linarith
  area := areaEps_lt_mul hw hw'
  upright _ := (areaEps_lt_mul hw hb').le
  across _ := (areaEps_lt_mul hw' hb).le

theorem width_upright (b : Box ℚ) : b.upright.width = |b.width| := max_sub_min_eq_abs _ _

theorem height_upright (b : Box ℚ) : b.upright.height = |b.height| := max_sub_min_eq_abs _ _

theorem spans_upright (b : Box ℚ) : b.upright.Spans := ⟨min_le_max, min_le_max⟩

end Box

namespace Axes

variable {A : Axes} {b w : Box ℚ} {ps qs : List (Point ℚ)}

/-- Counter-clockwise, the corners of a box begin with the low one or with the high one. -/
theorem counterClockwise_outline (A : Axes) (hwidth : b.width ≠ 0) (hheight : b.height ≠ 0) :
    counterClockwise (A.outline b) = A.outline b.upright ∨
      counterClockwise (A.outline b) = A.turn.turn.outline b.upright.turn.turn := by
  have harea := A.signedArea_outline b
  obtain hx | hx := hwidth.lt_or_gt <;> obtain hy | hy := hheight.lt_or_gt
  · right
    rw [counterClockwise_of_nonneg (harea.ge.trans' (mul_pos_of_neg_of_neg hx hy).le)]
    have hx := sub_neg.mp hx
    have hy := sub_neg.mp hy
    simp [outline_eq, place_turn, Box.turn, Box.upright, hx.le, hy.le]
  · right
    rw [counterClockwise_of_neg (harea.trans_lt (mul_neg_of_neg_of_pos hx hy))]
    have hx := sub_neg.mp hx
    have hy := sub_pos.mp hy
    simp [outline_eq, place_turn, Box.turn, Box.upright, hx.le, hy.le]
  · left
    rw [counterClockwise_of_neg (harea.trans_lt (mul_neg_of_pos_of_neg hx hy))]
    have hx := sub_pos.mp hx
    have hy := sub_neg.mp hy
    simp [outline_eq, Box.upright, hx.le, hy.le]
  · left
    rw [counterClockwise_of_nonneg (harea.ge.trans' (mul_pos hx hy).le)]
    have hx := sub_pos.mp hx
    have hy := sub_pos.mp hy
    simp [outline_eq, Box.upright, hx.le, hy.le]

theorem outlines_counterClockwise (A : Axes) (hwidth : b.width ≠ 0) (hheight : b.height ≠ 0) :
    A.Outlines b.upright (counterClockwise (A.outline b)) := by
  refine ⟨fun _ => ?_, fun hnot => absurd b.spans_upright hnot⟩
  obtain h | h := counterClockwise_outline A hwidth hheight
  · rw [h]
  · rw [h, outline_turn, outline_turn]
    exact (IsRotated.forall _ 1).trans (IsRotated.forall _ 1)

/-- What clipping leaves of two boxes has the area of what they have in common. -/
theorem area_clip_outline (hb : b.width ≠ 0) (hb' : b.height ≠ 0) (hw : w.width ≠ 0)
    (hw' : w.height ≠ 0) (hfits : b.upright.Fits w.upright) :
    Polygon.area (clip (counterClockwise (A.outline b)) (counterClockwise (A.outline w))) =
      (b.upright.meet w.upright).area := by
  have hround := outlines_counterClockwise A hb hb'
  -- A window that is begun with its high corner is one along axes that are turned by a half.
  obtain h | h := counterClockwise_outline A hw hw'
  · rw [h, (hround.clip hfits).area]
  · rw [h, (hround.turn.turn.clip hfits.turn.turn).area, Box.meet_turn, Box.meet_turn,
      Box.area_turn, Box.area_turn]

/-- Boxes of some size that stand in the same direction overlap in what they have in common. -/
theorem overlap_outline (hb : b.width ≠ 0) (hb' : b.height ≠ 0) (hw : w.width ≠ 0)
    (hw' : w.height ≠ 0) (hfits : b.upright.Fits w.upright) (harea : areaEps < b.upright.area) :
    overlap (A.outline b) (A.outline w) = b.upright.share w.upright := by
  have hleft := (outlines_counterClockwise A hb hb').area
  have hright := (outlines_counterClockwise A hw hw').area
  have hcommon := area_clip_outline (A := A) hb hb' hw hw' hfits
  have harea' : areaEps < w.upright.area := by
    rw [Box.area_of_spans w.spans_upright]
    exact hfits.area
  have hjoint : areaEps <
      b.upright.area + w.upright.area - (b.upright.meet w.upright).area := by
    have hle := Box.area_meet_le b.upright w.upright
    linarith
  have hshare := Box.share_mem (b := b.upright) (w := w.upright)
  unfold overlap
  dsimp only
  rw [hleft, hright, hcommon, if_neg (not_or.mpr ⟨harea.not_ge, harea'.not_ge⟩),
    if_neg hjoint.not_ge]
  exact Scalar.clampUnit_of_mem hshare.1 hshare.2

/-- A turn of the axes by the angle with the given cosine and sine. -/
def turned (c s : ℚ) (h : c ^ 2 + s ^ 2 = 1) : Axes where
  u := ⟨c, s⟩
  v := ⟨-s, c⟩
  unit := by
    rw [← h, Point.cross_eq]
    ring

end Axes

/-- Angles given by the tangent of their half, by which the cosine and the sine are rational. -/
@[reducible]
def Trig.ofHalfTangent : Trig ℚ where
  cos t := (1 - t ^ 2) / (1 + t ^ 2)
  sin t := 2 * t / (1 + t ^ 2)

theorem Trig.ofHalfTangent_unit (t : ℚ) :
    Trig.ofHalfTangent.cos t ^ 2 + Trig.ofHalfTangent.sin t ^ 2 = 1 := by
  have hpos : 0 < 1 + t ^ 2 := by positivity
  change ((1 - t ^ 2) / (1 + t ^ 2)) ^ 2 + (2 * t / (1 + t ^ 2)) ^ 2 = 1
  field_simp
  ring

/-! ### Boxes laid on the map -/

namespace TurnedBox

section

variable [Trig ℚ]

/-- A box laid on the map as it is seen along its own axes, with the point of the map from which
these are measured at the origin of the map. -/
def along (b : TurnedBox ℚ) : Box ℚ :=
  let x := b.origin.x * Trig.cos b.angle + b.origin.y * Trig.sin b.angle
  let y := b.origin.y * Trig.cos b.angle - b.origin.x * Trig.sin b.angle
  ⟨⟨x + b.frame.low.x, y + b.frame.low.y⟩, ⟨x + b.frame.high.x, y + b.frame.high.y⟩⟩

/-- How far a box laid on the map extends along each of its axes. -/
def extents (b : TurnedBox ℚ) : Box ℚ := b.along.upright

@[simp] theorem width_along (b : TurnedBox ℚ) : b.along.width = b.frame.width :=
  add_sub_add_left_eq_sub _ _ _

@[simp] theorem height_along (b : TurnedBox ℚ) : b.along.height = b.frame.height :=
  add_sub_add_left_eq_sub _ _ _

theorem corners_eq_outline (b : TurnedBox ℚ)
    (h : Trig.cos b.angle ^ 2 + Trig.sin b.angle ^ 2 = 1) :
    b.corners = (Axes.turned _ _ h).outline b.along := by
  have hplace (x y : ℚ) : b.toMap ⟨x, y⟩ = (Axes.turned _ _ h).place
      ⟨b.origin.x * Trig.cos b.angle + b.origin.y * Trig.sin b.angle + x,
        b.origin.y * Trig.cos b.angle - b.origin.x * Trig.sin b.angle + y⟩ := by
    ext
    · simp only [toMap, Point.turned, Axes.place, Axes.turned, Point.x_add, Point.x_smul]
      linear_combination (-b.origin.x) * h
    · simp only [toMap, Point.turned, Axes.place, Axes.turned, Point.y_add, Point.y_smul]
      linear_combination (-b.origin.y) * h
  simp only [corners, Box.corners, map_cons, map_nil, hplace, Axes.outline_eq, along]

theorem width_extents (b : TurnedBox ℚ) : b.extents.width = |b.frame.width| := by
  rw [extents, Box.width_upright, width_along]

theorem height_extents (b : TurnedBox ℚ) : b.extents.height = |b.frame.height| := by
  rw [extents, Box.height_upright, height_along]

theorem area_extents (b : TurnedBox ℚ) :
    b.extents.area = |b.frame.width| * |b.frame.height| := by
  rw [← width_extents, ← height_extents]
  exact Box.area_of_spans b.along.spans_upright

theorem areaEps_lt_area_extents {b : TurnedBox ℚ} (hwidth : 1 / 10 ^ 6 < b.extents.width)
    (hheight : 1 / 10 ^ 6 < b.extents.height) : areaEps < b.extents.area := by
  rw [area_extents, ← width_extents, ← height_extents]
  exact areaEps_lt_mul hwidth hheight

/-- A box that counts has two sides. -/
theorem sides_ne_zero {b : TurnedBox ℚ} (harea : areaEps < b.extents.area) :
    b.frame.width ≠ 0 ∧ b.frame.height ≠ 0 := by
  have hpos : 0 < |b.frame.width| * |b.frame.height| := by
    rw [← area_extents]
    exact areaEps_pos.trans harea
  exact ⟨abs_ne_zero.mp (left_ne_zero_of_mul hpos.ne'), abs_ne_zero.mp (right_ne_zero_of_mul hpos.ne')⟩

/-- Boxes with the same axes. -/
theorem overlap_corners {b b' : TurnedBox ℚ} (hangle : b.angle = b'.angle)
    (hunit : Trig.cos b.angle ^ 2 + Trig.sin b.angle ^ 2 = 1)
    (hfits : b.extents.Fits b'.extents) (harea : areaEps < b.extents.area) :
    overlap b.corners b'.corners = b.extents.share b'.extents ∧
      Polygon.area (clip (counterClockwise b.corners) (counterClockwise b'.corners)) =
        (b.extents.meet b'.extents).area := by
  have harea' : areaEps < b'.extents.area := by
    rw [extents, Box.area_of_spans b'.along.spans_upright]
    exact hfits.area
  obtain ⟨hb, hb'⟩ := sides_ne_zero harea
  obtain ⟨hw, hw'⟩ := sides_ne_zero harea'
  rw [← width_along] at hb hw
  rw [← height_along] at hb' hw'
  -- The axes of the second box are those of the first one, as the angles are the same.
  have hunit' : Trig.cos b'.angle ^ 2 + Trig.sin b'.angle ^ 2 = 1 := by rwa [← hangle]
  have hcorners : b'.corners = (Axes.turned _ _ hunit).outline b'.along := by
    rw [corners_eq_outline b' hunit']
    simp only [hangle]
  rw [corners_eq_outline b hunit, hcorners]
  exact ⟨Axes.overlap_outline hb hb' hw hw' hfits harea,
    Axes.area_clip_outline hb hb' hw hw' hfits⟩

/-- Two boxes on the map that are turned by the same angle, and whose sides are not tiny, overlap
in what their extents along the common axes have in common, of all that they cover together. No
threshold is met on the way, and the share needs not be held between zero and one. -/
theorem overlap_of_same_angle {b b' : TurnedBox ℚ} (hangle : b.angle = b'.angle)
    (hunit : Trig.cos b.angle ^ 2 + Trig.sin b.angle ^ 2 = 1)
    (hsides : ∀ side ∈ [b.frame.width, b.frame.height, b'.frame.width, b'.frame.height],
      1 / 10 ^ 6 < |side|) :
    overlap b.corners b'.corners = b.extents.share b'.extents ∧
      Polygon.area (clip (counterClockwise b.corners) (counterClockwise b'.corners)) =
        (b.extents.meet b'.extents).area ∧
      Scalar.clampUnit (b.extents.share b'.extents) = b.extents.share b'.extents ∧
      overlap b'.corners b.corners = overlap b.corners b'.corners ∧
      (b.extents = b'.extents → overlap b.corners b'.corners = 1) ∧
      ((b.extents.meet b'.extents).Degenerate → overlap b.corners b'.corners = 0) := by
  obtain ⟨hw, hh, hw', hh'⟩ : 1 / 10 ^ 6 < b.extents.width ∧ 1 / 10 ^ 6 < b.extents.height ∧
      1 / 10 ^ 6 < b'.extents.width ∧ 1 / 10 ^ 6 < b'.extents.height := by
    simpa [width_extents, height_extents] using hsides
  have harea : areaEps < b.extents.area := areaEps_lt_area_extents hw hh
  have harea' : areaEps < b'.extents.area := areaEps_lt_area_extents hw' hh'
  obtain ⟨hshare, hclip⟩ := overlap_corners hangle hunit (Box.Fits.of_long hw hh hw' hh') harea
  obtain ⟨hshare', -⟩ := overlap_corners hangle.symm (by rwa [← hangle])
    (Box.Fits.of_long hw' hh' hw hh) harea'
  have hmem := Box.share_mem (b := b.extents) (w := b'.extents)
  refine ⟨hshare, hclip, Scalar.clampUnit_of_mem hmem.1 hmem.2, ?_, fun hsame => ?_, fun hflat => ?_⟩
  · rw [hshare, hshare', Box.share_comm]
  · rw [hshare, hsame, Box.share_self (areaEps_pos.trans harea')]
  · rw [hshare, Box.share_of_degenerate hflat]

end

section

attribute [local instance] Trig.ofHalfTangent

/-- A box twice as wide as high, with its frame upside down and its width along the diagonal of a
rectangle three wide and four high. A shift by one moves it by half its width. -/
def tilted (shift : ℚ) : TurnedBox ℚ := ⟨⟨3 * shift, 4 * shift⟩, 1 / 2, ⟨⟨-5, 2⟩, ⟨5, -3⟩⟩⟩

theorem overlap_of_same_angle_halfShift :
    (tilted 0).angle = (tilted 1).angle ∧
      (∀ side ∈ [(tilted 0).frame.width, (tilted 0).frame.height, (tilted 1).frame.width,
        (tilted 1).frame.height], 1 / 10 ^ 6 < |side|) ∧
      overlap (tilted 0).corners (tilted 1).corners = 1 / 3 := by
  have hsides : ∀ side ∈ [(tilted 0).frame.width, (tilted 0).frame.height,
      (tilted 1).frame.width, (tilted 1).frame.height], (1 : ℚ) / 10 ^ 6 < |side| := by
    decide +kernel
  have hangle : (tilted 0).angle = (tilted 1).angle := rfl
  obtain ⟨hshare, -⟩ := overlap_of_same_angle hangle (Trig.ofHalfTangent_unit _) hsides
  refine ⟨hangle, hsides, hshare.trans ?_⟩
  decide +kernel

end

end TurnedBox

end GuideLayer
