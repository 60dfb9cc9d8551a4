import Mathlib.Algebra.Field.Rat
import GuideLayer.Proofs.Overlap
import GuideLayer.Proofs.Transition

/-!
The whole map turned and shifted. On which side of a line a point is, and how
far off, is a cross product of differences: shifts drop out of it and turns
keep it, so that every test that clipping makes comes out as before. Areas are
cross products of the points themselves. A shift changes each of these, but
around a polygon the changes cancel out.
-/

namespace GuideLayer

open List GuideLayer.Polygon

namespace Polygon

section Edges

variable {β γ : Type}

theorem cyclicPairs_map (f : β → γ) (ps : List β) :
    cyclicPairs (ps.map f) = (cyclicPairs ps).map (Prod.map f f) := by
  cases ps with
  | nil => rfl
  | cons p ps =>
      have hnext : ps.map f ++ [f p] = (ps ++ [p]).map f := by simp
      rw [map_cons, cyclicPairs, hnext, ← map_cons, zip_map]
      rfl

theorem map_fst_cyclicPairs (ps : List β) : (cyclicPairs ps).map Prod.fst = ps := by
  cases ps with
  | nil => rfl
  | cons p ps => exact map_fst_zip (by simp)

end Edges

/-- Around a polygon every point is a start and an end once. -/
theorem sum_ends_cyclicPairs {β : Type} (g : β → ℚ) (ps : List β) :
    ((cyclicPairs ps).map (fun e => g e.2)).sum = ((cyclicPairs ps).map (fun e => g e.1)).sum := by
  have hstarts : (cyclicPairs ps).map (fun e => g e.1) = ps.map g := by
    conv_rhs => rw [← map_fst_cyclicPairs ps, map_map]
    rfl
  have hends : (cyclicPairs ps).map (fun e => g e.2) = (ps.rotate 1).map g := by
    rw [← map_snd_cyclicPairs, map_map]
    rfl
  rw [hstarts, hends]
  exact ((rotate_perm ps 1).map g).sum_eq

theorem doubledArea_eq_sum (ps : List (Point ℚ)) :
    doubledArea ps = ((cyclicPairs ps).map (fun e => e.1.cross e.2)).sum := by
  rw [sum_eq_foldl, foldl_map]
  rfl

end Polygon

/-- A turn about the origin of the map, and a shift after it. -/
structure Motion where
  shift : Point ℚ
  cos : ℚ
  sin : ℚ
  unit : cos ^ 2 + sin ^ 2 = 1

namespace Motion

/-- Where a direction points afterwards. -/
def turn (m : Motion) (d : Point ℚ) : Point ℚ :=
  ⟨m.cos * d.x - m.sin * d.y, m.sin * d.x + m.cos * d.y⟩

/-- Where a point is afterwards. -/
def move (m : Motion) (p : Point ℚ) : Point ℚ := m.shift + m.turn p

variable (m : Motion)

theorem move_sub_move (p q : Point ℚ) : m.move p - m.move q = m.turn (p - q) := by
  ext
  · simp only [move, turn, Point.x_sub, Point.x_add, Point.y_sub]
    ring
  · simp only [move, turn, Point.x_sub, Point.y_add, Point.y_sub]
    ring

theorem move_add (p d : Point ℚ) : m.move (p + d) = m.move p + m.turn d := by
  ext
  · simp only [move, turn, Point.x_add, Point.y_add]
    ring
  · simp only [move, turn, Point.x_add, Point.y_add]
    ring

theorem turn_mul (d : Point ℚ) (k : ℚ) : m.turn (d * k) = m.turn d * k := by
  ext
  · simp only [turn, Point.x_mul, Point.y_mul]
    ring
  · simp only [turn, Point.x_mul, Point.y_mul]
    ring

theorem cross_turn (d e : Point ℚ) : (m.turn d).cross (m.turn e) = d.cross e := by
  simp only [turn, Point.cross_eq]
  linear_combination (d.x * e.y - d.y * e.x) * m.unit

/-- What a shift adds to the cross product of two points depends on one of them at a time. -/
theorem cross_move (p q : Point ℚ) :
    (m.move p).cross (m.move q) + m.shift.cross (m.turn p) =
      p.cross q + m.shift.cross (m.turn q) := by
  rw [← m.cross_turn p q]
  simp only [move, Point.cross_eq, Point.x_add, Point.y_add]
  ring

/-! ### Clipping -/

theorem inside_move {a edge p : Point ℚ} :
    Inside (m.move a) (m.turn edge) (m.move p) ↔ Inside a edge p := by
  unfold Inside
  rw [move_sub_move, cross_turn]

theorem crossing_move (a edge p q : Point ℚ) :
    crossing (m.move a) (m.turn edge) (m.move p) (m.move q) = m.move (crossing a edge p q) := by
  unfold crossing
  simp only [move_sub_move, cross_turn]
  split
  · rfl
  · rw [move_add, turn_mul]

theorem keepEdge_move (a edge : Point ℚ) (e : Point ℚ × Point ℚ) :
    keepEdge (m.move a) (m.turn edge) (e.map m.move m.move) = (keepEdge a edge e).map m.move := by
  simp only [keepEdge, Prod.map_fst, Prod.map_snd, inside_move, crossing_move]
  split <;> split <;> rfl

theorem clipHalfPlane_move (ps : List (Point ℚ)) (line : Point ℚ × Point ℚ) :
    clipHalfPlane (ps.map m.move) (line.map m.move m.move) =
      (clipHalfPlane ps line).map m.move := by
  simp only [clipHalfPlane, cyclicPairs_map, flatMap_map, map_flatMap, Prod.map_fst, Prod.map_snd,
    move_sub_move, keepEdge_move]

theorem clip_move (subject window : List (Point ℚ)) :
    clip (subject.map m.move) (window.map m.move) = (clip subject window).map m.move := by
  unfold clip
  rw [cyclicPairs_map]
  induction cyclicPairs window generalizing subject with
  | nil => rfl
  | cons line lines ih =>
      rw [map_cons, foldl_cons, foldl_cons, clipHalfPlane_move, ih]

/-! ### Areas -/

theorem doubledArea_move (ps : List (Point ℚ)) :
    doubledArea (ps.map m.move) = doubledArea ps := by
  have hedges : ((cyclicPairs ps).map (fun e => (m.move e.1).cross (m.move e.2))).sum +
      ((cyclicPairs ps).map (fun e => m.shift.cross (m.turn e.1))).sum =
        ((cyclicPairs ps).map (fun e => e.1.cross e.2)).sum +
          ((cyclicPairs ps).map (fun e => m.shift.cross (m.turn e.2))).sum := by
    rw [← sum_map_add, ← sum_map_add]
    exact congrArg sum (map_congr_left fun e _ => m.cross_move e.1 e.2)
  rw [sum_ends_cyclicPairs (fun p => m.shift.cross (m.turn p))] at hedges
  rw [doubledArea_eq_sum, doubledArea_eq_sum, cyclicPairs_map, map_map]
  exact add_right_cancel hedges

theorem signedArea_move (ps : List (Point ℚ)) :
    signedArea (ps.map m.move) = signedArea ps := by
  rw [signedArea, signedArea, length_map, doubledArea_move]

theorem area_move (ps : List (Point ℚ)) : area (ps.map m.move) = area ps := by
  rw [area, area, signedArea_move]

theorem counterClockwise_move (ps : List (Point ℚ)) :
    counterClockwise (ps.map m.move) = (counterClockwise ps).map m.move := by
  unfold counterClockwise
  rw [signedArea_move]
  split
  · rw [map_reverse]
  · rfl

theorem overlap_move (ps qs : List (Point ℚ)) :
    overlap (ps.map m.move) (qs.map m.move) = overlap ps qs := by
  simp only [overlap, counterClockwise_move, clip_move, area_move]

/-! ### Viewports -/

section

variable [Trig ℚ]

/-- The second viewport is the first one after the motion. -/
structure Carries (m : Motion) (v w : Viewport ℚ) : Prop where
  center : w.center = m.move v.center
  cos_angle : Trig.cos w.angle = m.cos * Trig.cos v.angle - m.sin * Trig.sin v.angle
  sin_angle : Trig.sin w.angle = m.sin * Trig.cos v.angle + m.cos * Trig.sin v.angle
  scale : w.scale = v.scale
  pixelWidth : w.pixelWidth = v.pixelWidth
  pixelHeight : w.pixelHeight = v.pixelHeight

variable {m} {v w v' w' : Viewport ℚ}

theorem Carries.frame_eq (h : m.Carries v w) : w.visible.frame = v.visible.frame := by
  simp only [Viewport.visible, h.scale, h.pixelWidth, h.pixelHeight]

theorem Carries.degenerate_iff (h : m.Carries v w) : w.Degenerate ↔ v.Degenerate := by
  unfold Viewport.Degenerate
  rw [h.frame_eq]

theorem Carries.toMap_eq (h : m.Carries v w) (p : Point ℚ) :
    w.visible.toMap p = m.move (v.visible.toMap p) := by
  have horigin : w.visible.origin = m.move v.visible.origin := h.center
  have hangle : p.turned w.visible.angle = m.turn (p.turned v.visible.angle) := by
    simp only [Point.turned, turn, Viewport.visible, h.cos_angle, h.sin_angle]
    ext
    · ring
    · ring
  rw [TurnedBox.toMap, TurnedBox.toMap, horigin, hangle, move_add]

theorem Carries.corners_eq (h : m.Carries v w) :
    w.visible.corners = v.visible.corners.map m.move := by
  rw [TurnedBox.corners, TurnedBox.corners, h.frame_eq, map_map]
  exact map_congr_left fun p _ => h.toMap_eq p

theorem looksLike_move (hcurrent : m.Carries v v') (hnext : m.Carries w w') (s : Settings ℚ) :
    Layer.looksLike s v' w' = Layer.looksLike s v w := by
  unfold Layer.looksLike
  rw [hcurrent.scale, hnext.scale, hcurrent.corners_eq, hnext.corners_eq, overlap_move]

end

end Motion

namespace Layer

variable {σ : Type} [Trig ℚ]

/-- A viewport is suppressed if it shows something and looks like the recorded one, which does so
too, and the layer is at work. -/
theorem updateViewport_eq_suppress_iff {l : Layer σ ℚ} {c : Camera ℚ} :
    l.updateViewport c = l.suppress ↔
      l.phase.isPaused = false ∧ ¬c.viewport.Degenerate ∧
        ∃ current, l.usableCamera? = some current ∧
          looksLike l.settings current.viewport c.viewport = true := by
  -- Nothing but suppression raises the count of suppressed viewports.
  have hcount {l' : Layer σ ℚ} (hl' : l'.stats.suppressed = l.stats.suppressed) :
      l' ≠ l.suppress := by
    intro heq
    rw [heq] at hl'
    exact Nat.succ_ne_self _ hl'
  have hrequest : ((l.record c).request).stats.suppressed = l.stats.suppressed := by
    rw [stats_request]
    rfl
  unfold updateViewport
  by_cases hpaused : l.phase.isPaused
  · rw [if_pos hpaused]
    exact iff_of_false (hcount rfl) (fun h => by simp [hpaused] at h)
  rw [if_neg hpaused]
  by_cases hsees : c.viewport.Degenerate
  · rw [if_pos hsees]
    exact iff_of_false (hcount rfl) (fun h => h.2.1 hsees)
  rw [if_neg hsees]
  cases hcurrent : l.usableCamera? with
  | none => exact iff_of_false (hcount hrequest) (by simp)
  | some current =>
      dsimp only
      by_cases hlike : looksLike l.settings current.viewport c.viewport
      · rw [if_pos hlike]
        exact iff_of_true rfl ⟨by simpa using hpaused, hsees, current, rfl, hlike⟩
      · rw [if_neg hlike]
        refine iff_of_false (hcount hrequest) ?_
        rintro ⟨-, -, other, heq, hlike'⟩
        cases heq
        exact hlike hlike'

end Layer

namespace Motion

section

variable [Trig ℚ]

/-- A motion of the map carries clipping along, vertex by vertex, and keeps overlap. So of two
layers with the same settings, one with everything moved, either suppresses a viewport if the other
one does. -/
theorem clip_overlap_suppress_move (m : Motion) :
    (∀ ps qs : List (Point ℚ),
      clip (ps.map m.move) (qs.map m.move) = (clip ps qs).map m.move ∧
        overlap (ps.map m.move) (qs.map m.move) = overlap ps qs) ∧
    ∀ {σ : Type} (l l' : Layer σ ℚ) {current current' next next' : Camera ℚ},
      l'.settings = l.settings → l'.phase = l.phase →
      l.camera = some current → l'.camera = some current' →
      m.Carries current.viewport current'.viewport → m.Carries next.viewport next'.viewport →
        (l'.updateViewport next' = l'.suppress ↔ l.updateViewport next = l.suppress) := by
  refine ⟨fun ps qs => ⟨m.clip_move ps qs, m.overlap_move ps qs⟩, ?_⟩
  intro σ l l' current current' next next' hsettings hphase hcamera hcamera' hcurrent hnext
  rw [Layer.updateViewport_eq_suppress_iff, Layer.updateViewport_eq_suppress_iff]
  simp only [Layer.usableCamera?_eq_some_iff, hsettings, hphase, hcamera, hcamera',
    Option.some.injEq, hnext.degenerate_iff]
  refine and_congr_right' (and_congr_right' ?_)
  constructor
  · rintro ⟨_, ⟨rfl, hsees⟩, hlike⟩
    rw [hcurrent.degenerate_iff] at hsees
    exact ⟨current, ⟨rfl, hsees⟩, by rwa [← looksLike_move hcurrent hnext]⟩
  · rintro ⟨_, ⟨rfl, hsees⟩, hlike⟩
    rw [← hcurrent.degenerate_iff] at hsees
    exact ⟨current', ⟨rfl, hsees⟩, by rwa [looksLike_move hcurrent hnext]⟩

end

section

attribute [local instance] Trig.ofHalfTangent

/-- To the right and down, after a turn to the left by the angle with the tangent four thirds. -/
def askew : Motion := ⟨⟨10, -3⟩, 3 / 5, 4 / 5, by norm_num⟩

/-- A wide screen. -/
def wide (center : Point ℚ) (angle : ℚ) : Viewport ℚ := ⟨center, 2, angle, 100, 50⟩

/-- A layer that has the guides of a viewport. -/
def watching (v : Viewport ℚ) : Layer Unit ℚ :=
  { settings := .standard, store := (), phase := .hasData, camera := some ⟨v, 16⟩ }

/-- The layer, and what it is with everything moved. -/
def still : Layer Unit ℚ := watching (wide ⟨0, 0⟩ 0)

def moved : Layer Unit ℚ := watching (wide ⟨10, -3⟩ (1 / 2))

theorem suppress_move_askew :
    moved.settings = still.settings ∧ moved.phase = still.phase ∧
      askew.Carries (wide ⟨0, 0⟩ 0) (wide ⟨10, -3⟩ (1 / 2)) ∧
      askew.Carries (wide ⟨1, 2⟩ 0) (wide ⟨9, -1⟩ (1 / 2)) ∧
      moved.updateViewport ⟨wide ⟨9, -1⟩ (1 / 2), 16⟩ = moved.suppress := by
  have hcurrent : askew.Carries (wide ⟨0, 0⟩ 0) (wide ⟨10, -3⟩ (1 / 2)) := by
    constructor <;> decide +kernel
  have hnext : askew.Carries (wide ⟨1, 2⟩ 0) (wide ⟨9, -1⟩ (1 / 2)) := by
    constructor <;> decide +kernel
  have hkept : still.updateViewport ⟨wide ⟨1, 2⟩ 0, 16⟩ = still.suppress :=
    Layer.updateViewport_eq_suppress_iff.mpr
      ⟨rfl, by decide +kernel, ⟨wide ⟨0, 0⟩ 0, 16⟩, by decide +kernel, by decide +kernel⟩
  obtain ⟨-, hsame⟩ := clip_overlap_suppress_move askew
  exact ⟨rfl, rfl, hcurrent, hnext, (hsame still moved rfl rfl rfl rfl hcurrent hnext).mpr hkept⟩

end

end Motion

end GuideLayer
