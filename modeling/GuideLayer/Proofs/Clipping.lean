import GuideLayer.Proofs.Turning
import Mathlib.Analysis.Convex.Join

/-!
Clipping is exact. What is left of a convex figure on one side of a line is
the part of the figure on that side, not more, which is seen vertex by vertex,
and not less: the figure has no point on that side beyond the vertices there and
the points where the line enters and leaves. For the latter, any two vertices
on different sides are joined across the line between these two points.
-/

namespace GuideLayer

namespace Polygon

open List

variable {line : Point ℚ × Point ℚ} {ps : List (Point ℚ)}

/-- The points of the convex figure with the given vertices. -/
def hull (ps : List (Point ℚ)) : Set (Point ℚ) := convexHull ℚ {p | p ∈ ps}

theorem convex_hull (ps : List (Point ℚ)) : Convex ℚ (hull ps) := convex_convexHull ℚ _

theorem mem_hull {p : Point ℚ} (h : p ∈ ps) : p ∈ hull ps := subset_convexHull ℚ _ h

theorem hull_subset {K : Set (Point ℚ)} (h : ∀ p ∈ ps, p ∈ K) (hK : Convex ℚ K) :
    hull ps ⊆ K :=
  convexHull_min h hK

theorem hull_eq_empty_iff : hull ps = ∅ ↔ ps = [] := by
  rw [hull, convexHull_eq_empty, Set.eq_empty_iff_forall_notMem, eq_nil_iff_forall_not_mem]
  rfl

/-! ### Not more than there is -/

theorem neg_areaEps_lt {x : ℚ} (h : 0 ≤ x) : -areaEps < x :=
  (neg_lt_zero.mpr areaEps_pos).trans_le h

/-- An edge leaves its end, if that is inside, and before it the point where it crosses the line,
if it does. -/
theorem mem_keepEdge_iff {p q v : Point ℚ} :
    v ∈ keepEdge line.1 (line.2 - line.1) (p, q) ↔
      v = q ∧ 0 ≤ side line q ∨
        v = crossing line.1 (line.2 - line.1) p q ∧ ¬(0 ≤ side line p ↔ 0 ≤ side line q) := by
  unfold keepEdge
  simp only [inside_iff]
  by_cases hp : 0 ≤ side line p <;> by_cases hq : 0 ≤ side line q <;> simp [hp, hq, or_comm]

/-- Wherever an edge is said to cross a line, it is on the edge and nearly on the inner side. -/
theorem crossing_mem_segment {p q : Point ℚ} (h : ¬(0 ≤ side line p ↔ 0 ≤ side line q)) :
    crossing line.1 (line.2 - line.1) p q ∈ segment ℚ p q ∧
      -areaEps < side line (crossing line.1 (line.2 - line.1) p q) := by
  by_cases hflat : Scalar.abs ((line.2 - line.1).cross (q - p)) < areaEps
  · have hstart : crossing line.1 (line.2 - line.1) p q = p := if_pos hflat
    rw [hstart]
    refine ⟨left_mem_segment ℚ p q, ?_⟩
    rw [side_sub_side, Scalar.abs_rat] at hflat
    have hclose := (abs_lt.mp hflat).2
    by_cases hp : 0 ≤ side line p
    · exact neg_areaEps_lt hp
    · have hq : 0 ≤ side line q := by
        by_contra hq
        exact h (iff_of_false hp hq)
      linarith
  · rw [crossing_eq_hit hflat]
    exact ⟨hit_mem_segment_of_crosses h, neg_areaEps_lt (side_hit_of_crosses h).ge⟩

theorem mem_hull_of_mem_clipHalfPlane {v : Point ℚ} (h : v ∈ clipHalfPlane ps line) :
    v ∈ hull ps ∧ -areaEps < side line v := by
  obtain ⟨⟨p, q⟩, he, hv⟩ := mem_flatMap.mp h
  obtain ⟨hp, hq⟩ := mem_of_mem_cyclicPairs he
  obtain ⟨rfl, hinside⟩ | ⟨rfl, hcrosses⟩ := mem_keepEdge_iff.mp hv
  · exact ⟨mem_hull hq, neg_areaEps_lt hinside⟩
  · obtain ⟨hbetween, hside⟩ := crossing_mem_segment hcrosses
    exact ⟨(convex_hull ps).segment_subset (mem_hull hp) (mem_hull hq) hbetween, hside⟩

theorem mem_of_mem_clipHalfPlane (hsharp : Sharp ps line) {p : Point ℚ}
    (h : p ∈ clipHalfPlane ps line) : p ∈ hull ps ∧ 0 ≤ side line p := by
  refine ⟨(mem_hull_of_mem_clipHalfPlane h).1, ?_⟩
  rw [clipHalfPlane_eq_filter hsharp, mem_filter, decide_eq_true_iff] at h
  exact h.2

/-! ### Not less -/

theorem mem_clipHalfPlane (hsharp : Sharp ps line) {e : Point ℚ × Point ℚ}
    (he : e ∈ cyclicPairs ps) {p : Point ℚ} (hp : p ∈ cutEdge line e) (hside : 0 ≤ side line p) :
    p ∈ clipHalfPlane ps line := by
  rw [clipHalfPlane_eq_filter hsharp, mem_filter, decide_eq_true_iff, mem_flatMap]
  exact ⟨⟨e, he, hp⟩, hside⟩

theorem mem_clipHalfPlane_of_mem (hsharp : Sharp ps line) {p : Point ℚ} (hp : p ∈ ps)
    (hside : 0 ≤ side line p) : p ∈ clipHalfPlane ps line := by
  obtain ⟨⟨a, b⟩, he, rfl⟩ := exists_mem_cyclicPairs hp
  refine mem_clipHalfPlane hsharp he ?_ hside
  unfold cutEdge
  split <;> simp

theorem hit_mem_clipHalfPlane (hsharp : Sharp ps line) {p q : Point ℚ}
    (he : (p, q) ∈ cyclicPairs ps) (hcrosses : ¬(0 ≤ side line p ↔ 0 ≤ side line q)) :
    hit line p q ∈ clipHalfPlane ps line := by
  refine mem_clipHalfPlane hsharp he ?_ (side_hit_of_crosses hcrosses).ge
  rw [cutEdge_of_crosses hcrosses]
  exact mem_cons_self

/-- What is inside of a segment that crosses the line is before the crossing. -/
theorem mem_segment_hit {p q x : Point ℚ} (hp : 0 ≤ side line p) (hq : side line q < 0)
    (hx : x ∈ segment ℚ p q) (hside : 0 ≤ side line x) : x ∈ segment ℚ p (hit line p q) := by
  obtain ⟨s, t, hs, ht, hst, rfl⟩ := hx
  rw [side_combine _ _ _ hst] at hside
  obtain hp | hp := hp.eq_or_lt
  · -- The crossing is at the start.
    rw [← hp, mul_zero, zero_add] at hside
    obtain rfl : t = 0 := le_antisymm (nonpos_of_mul_nonneg_left hside hq) ht
    obtain rfl : s = 1 := by linarith
    simpa using left_mem_segment ℚ p (hit line p q)
  · have hpos : 0 < side line p - side line q := by linarith
    refine ⟨1 - t * (side line p - side line q) / side line p,
      t * (side line p - side line q) / side line p, ?_, ?_, by ring, ?_⟩
    · rw [sub_nonneg, div_le_one hp]
      obtain rfl : s = 1 - t := by linarith
      linarith
    · exact div_nonneg (mul_nonneg ht hpos.le) hp.le
    · obtain rfl : s = 1 - t := by linarith
      have hpos' := hpos.ne'
      have hp' := hp.ne'
      unfold hit
      ext
      · simp only [Point.x_add, Point.x_smul]
        field_simp
        ring
      · simp only [Point.y_add, Point.y_smul]
        field_simp
        ring

/-- Two lines that cross do so in one point. -/
theorem eq_of_on_two_lines {p q u v : Point ℚ} (hcross : side line p ≠ side line q)
    (hu : side line u = 0) (hv : side line v = 0) (hu' : side (p, q) u = 0)
    (hv' : side (p, q) v = 0) : u = v := by
  have hdet : side line q - side line p ≠ 0 := sub_ne_zero.mpr hcross.symm
  have hx : (side line q - side line p) * (u.x - v.x) = 0 := by
    simp only [side, Point.cross_eq, Point.x_sub, Point.y_sub] at *
    linear_combination (q.x - p.x) * (hu - hv) - (line.2.x - line.1.x) * (hu' - hv')
  have hy : (side line q - side line p) * (u.y - v.y) = 0 := by
    simp only [side, Point.cross_eq, Point.x_sub, Point.y_sub] at *
    linear_combination (q.y - p.y) * (hu - hv) - (line.2.y - line.1.y) * (hu' - hv')
  ext
  · exact sub_eq_zero.mp ((mul_eq_zero.mp hx).resolve_left hdet)
  · exact sub_eq_zero.mp ((mul_eq_zero.mp hy).resolve_left hdet)

/-- Where the join of two points crosses a line is between any two points of the line that are on
different sides of the join. -/
theorem hit_mem_segment_hits {p q u v : Point ℚ} (hp : 0 ≤ side line p) (hq : side line q < 0)
    (hu : side line u = 0) (hv : side line v = 0) (hu' : side (p, q) u ≤ 0)
    (hv' : 0 ≤ side (p, q) v) : hit line p q ∈ segment ℚ u v := by
  have hcross : side line p ≠ side line q := (hq.trans_le hp).ne'
  -- What lies on both lines is one point, so that the two ways to cross give the same one.
  have hw : side line (hit line p q) = 0 := side_hit (sub_ne_zero.mpr hcross)
  have hw' : side (p, q) (hit line p q) = 0 := by
    rw [hit, side_combine _ _ _ (hit_weights_add (sub_ne_zero.mpr hcross)), side_start, side_end]
    ring
  obtain hu' | hu' := hu'.lt_or_eq
  · have hbetween : hit (p, q) v u ∈ segment ℚ u v := by
      rw [segment_symm]
      exact hit_mem_segment hv' hu'
    have hon : side (p, q) (hit (p, q) v u) = 0 := side_hit (by linarith)
    have hline : side line (hit (p, q) v u) = 0 := by
      obtain ⟨s, t, -, -, hst, heq⟩ := hbetween
      rw [← heq, side_combine _ _ _ hst, hu, hv]
      ring
    rwa [eq_of_on_two_lines hcross hw hline hw' hon]
  · rw [eq_of_on_two_lines hcross hw hu hw' hu']
    exact left_mem_segment ℚ u v

/-- The vertices on the way from one vertex of a convex figure to another are not on the left of
their join. -/
theorem LeftTurning.side_of_mem_way_there {p q : Point ℚ} {there back : List (Point ℚ)}
    (h : LeftTurning (p :: (there ++ q :: back))) :
    ∀ r ∈ p :: there ++ [q], 0 ≤ side (q, p) r := by
  intro r hr
  obtain rfl | hr | rfl : r = p ∨ r ∈ there ∨ r = q := by simpa using hr
  · simp
  · rw [side_rotate]
    refine h p r q (Sublist.cons_cons p ?_)
    exact (singleton_sublist.mpr hr).append (singleton_sublist.mpr mem_cons_self)
  · simp

/-- Those on the way back are not on the right of it. -/
theorem LeftTurning.side_of_mem_way_back {p q : Point ℚ} {there back : List (Point ℚ)}
    (h : LeftTurning (p :: (there ++ q :: back))) :
    ∀ r ∈ q :: back ++ [p], 0 ≤ side (p, q) r := by
  intro r hr
  obtain rfl | hr | rfl : r = q ∨ r ∈ back ∨ r = p := by simpa using hr
  · simp
  · refine h p q r (Sublist.cons_cons p ?_)
    exact (nil_sublist there).append ((singleton_sublist.mpr hr).cons_cons q)
  · simp

/-- Any two vertices on different sides are joined across the line within what is left. -/
theorem LeftTurning.hit_mem_hull (h : LeftTurning ps) (hsharp : Sharp ps line) {p q : Point ℚ}
    (hp : p ∈ ps) (hq : q ∈ ps) (hinside : 0 ≤ side line p) (houtside : side line q < 0) :
    hit line p q ∈ hull (clipHalfPlane ps line) := by
  -- The way around leads from `p` to `q` on the right of their join, and back on the left of it.
  obtain ⟨rest, hrot⟩ := exists_isRotated_cons hp
  have hq' : q ∈ rest := by
    have hq' := hrot.mem_iff.mp hq
    refine (mem_cons.mp hq').resolve_left (fun heq => ?_)
    rw [heq] at houtside
    exact houtside.not_ge hinside
  obtain ⟨there, back, rfl⟩ := append_of_mem hq'
  have hturn : LeftTurning (p :: (there ++ q :: back)) := h.of_isRotated hrot
  have hedges (e : Point ℚ × Point ℚ)
      (he : e ∈ trail (p :: there ++ [q]) ∨ e ∈ trail (q :: back ++ [p])) :
      e ∈ cyclicPairs ps := by
    rw [(isRotated_cyclicPairs hrot).mem_iff, cyclicPairs_two_ways, mem_append]
    exact he
  have hright := hturn.side_of_mem_way_there
  have hleft := hturn.side_of_mem_way_back
  obtain ⟨⟨a, b⟩, hab, ha, hb⟩ := exists_mem_trail (P := fun r => 0 ≤ side line r) there hinside
    houtside.not_ge
  obtain ⟨⟨c, d⟩, hcd, hc, hd⟩ := exists_mem_trail (P := fun r => ¬0 ≤ side line r) back
    houtside.not_ge (not_not_intro hinside)
  have hleaves : ¬(0 ≤ side line a ↔ 0 ≤ side line b) := fun hsame => hb (hsame.mp ha)
  have henters : ¬(0 ≤ side line c ↔ 0 ≤ side line d) :=
    fun hsame => hc (hsame.mpr (not_not.mp hd))
  have hu : side (p, q) (hit line a b) ≤ 0 := by
    rw [side_swap, neg_nonpos]
    exact (convex_setOf_side_nonneg (q, p)).segment_subset
      (hright a (mem_of_mem_trail hab).1) (hright b (mem_of_mem_trail hab).2)
      (hit_mem_segment_of_crosses hleaves)
  have hv : 0 ≤ side (p, q) (hit line c d) :=
    (convex_setOf_side_nonneg (p, q)).segment_subset
      (hleft c (mem_of_mem_trail hcd).1) (hleft d (mem_of_mem_trail hcd).2)
      (hit_mem_segment_of_crosses henters)
  exact (convex_hull _).segment_subset
    (mem_hull (hit_mem_clipHalfPlane hsharp (hedges (a, b) (.inl hab)) hleaves))
    (mem_hull (hit_mem_clipHalfPlane hsharp (hedges (c, d) (.inr hcd)) henters))
    (hit_mem_segment_hits hinside houtside (side_hit_of_crosses hleaves)
      (side_hit_of_crosses henters) hu hv)

/-- The points on one side of `b` that are joined with it across the line within a convex set are
a convex set. The sign of `σ` tells which side. -/
theorem convex_setOf_hit_mem {K : Set (Point ℚ)} (hK : Convex ℚ K) (b : Point ℚ) (σ : ℚ) :
    Convex ℚ {p | 0 < σ * (side line p - side line b) ∧ hit line p b ∈ K} := by
  rintro p ⟨hp, hpK⟩ q ⟨hq, hqK⟩ s t hs ht hst
  have hside : side line (s • p + t • q) - side line b =
      s * (side line p - side line b) + t * (side line q - side line b) := by
    rw [side_combine _ _ _ hst]
    linear_combination side line b * hst
  have hpos : 0 < σ * (side line (s • p + t • q) - side line b) := by
    rw [hside]
    obtain rfl | hs := hs.eq_or_lt
    · obtain rfl : t = 1 := by linarith
      linarith
    · have hpart : 0 < s * (σ * (side line p - side line b)) := mul_pos hs hp
      have hrest : 0 ≤ t * (σ * (side line q - side line b)) := mul_nonneg ht hq.le
      linarith
  have hne : side line (s • p + t • q) - side line b ≠ 0 := right_ne_zero_of_mul hpos.ne'
  have hweight {w d : ℚ} (hw : 0 ≤ w) (hd : 0 < σ * d) :
      0 ≤ w * d / (side line (s • p + t • q) - side line b) := by
    have hσ : σ ≠ 0 := left_ne_zero_of_mul hpos.ne'
    rw [← mul_div_mul_left _ _ hσ, mul_left_comm]
    exact div_nonneg (mul_nonneg hw hd.le) hpos.le
  refine ⟨hpos, ?_⟩
  have hhit : hit line (s • p + t • q) b =
      (s * (side line p - side line b) / (side line (s • p + t • q) - side line b)) • hit line p b +
      (t * (side line q - side line b) / (side line (s • p + t • q) - side line b)) •
        hit line q b := by
    have hp' : side line p - side line b ≠ 0 := right_ne_zero_of_mul hp.ne'
    have hq' : side line q - side line b ≠ 0 := right_ne_zero_of_mul hq.ne'
    rw [side_combine _ _ _ hst] at hne
    unfold hit
    rw [side_combine _ _ _ hst]
    ext
    · simp only [Point.x_add, Point.x_smul]
      field_simp
      ring
    · simp only [Point.y_add, Point.y_smul]
      field_simp
      ring
  rw [hhit]
  refine hK hpK hqK (hweight hs hp) (hweight ht hq) ?_
  rw [← add_div, ← hside, div_self hne]

/-- A convex set that has the points of a figure on one side of a line as far as vertices go, and
the points where vertices are joined across the line, has all of them. -/
theorem mem_of_mem_hull {K : Set (Point ℚ)} (hK : Convex ℚ K)
    (hinside : ∀ p ∈ ps, 0 ≤ side line p → p ∈ K)
    (hcross : ∀ p ∈ ps, ∀ q ∈ ps, 0 ≤ side line p → side line q < 0 → hit line p q ∈ K)
    {x : Point ℚ} (hx : x ∈ hull ps) (hside : 0 ≤ side line x) : x ∈ K := by
  let inner : Set (Point ℚ) := {p | p ∈ ps ∧ 0 ≤ side line p}
  let outer : Set (Point ℚ) := {p | p ∈ ps ∧ side line p < 0}
  have hsplit : {p | p ∈ ps} = inner ∪ outer := by
    refine Set.ext (fun p => ⟨fun hp => ?_, fun hp => hp.elim And.left And.left⟩)
    exact (le_or_gt 0 (side line p)).imp (fun hside => ⟨hp, hside⟩) (fun hside => ⟨hp, hside⟩)
  have hinner : convexHull ℚ inner ⊆ K := convexHull_min (fun p hp => hinside p hp.1 hp.2) hK
  have hinner' : convexHull ℚ inner ⊆ {p | 0 ≤ side line p} :=
    convexHull_min (fun p hp => hp.2) (convex_setOf_side_nonneg line)
  have houter : convexHull ℚ outer ⊆ {p | side line p < 0} :=
    convexHull_min (fun p hp => hp.2) (convex_setOf_side_neg line)
  rw [hull, hsplit] at hx
  obtain hnone | hsome := inner.eq_empty_or_nonempty
  · rw [hnone, Set.empty_union] at hx
    exact absurd hside (houter hx).not_ge
  obtain hnone | hsome' := outer.eq_empty_or_nonempty
  · rw [hnone, Set.union_empty] at hx
    exact hinner hx
  rw [convexHull_union hsome hsome'] at hx
  obtain ⟨y, hy, z, hz, hx⟩ := mem_convexJoin.mp hx
  have hyside : 0 ≤ side line y := hinner' hy
  have hzside : side line z < 0 := houter hz
  -- First one end of the join is moved away from the vertices, then the other.
  have hfrom (p : Point ℚ) (hp : p ∈ inner) : hit line p z ∈ K := by
    have houter' : convexHull ℚ outer ⊆
        {q | 0 < (-1) * (side line q - side line p) ∧ hit line q p ∈ K} := by
      refine convexHull_min (fun q hq => ⟨?_, ?_⟩) (convex_setOf_hit_mem hK p (-1))
      · have hp' := hp.2
        have hq' := hq.2
        linarith
      · rw [hit_comm]
        exact hcross p hp.1 q hq.1 hp.2 hq.2
    rw [hit_comm]
    exact (houter' hz).2
  have hto : convexHull ℚ inner ⊆ {p | 0 < 1 * (side line p - side line z) ∧ hit line p z ∈ K} := by
    refine convexHull_min (fun p hp => ⟨?_, hfrom p hp⟩) (convex_setOf_hit_mem hK z 1)
    have hp' := hp.2
    linarith
  exact hK.segment_subset (hinner hy) (hto hy).2 (mem_segment_hit hyside hzside hx hside)

/-! ### One line and all lines -/

/-- What is left on one side of a line is the part of the figure that is there. -/
theorem hull_clipHalfPlane (h : LeftTurning ps) (hsharp : Sharp ps line) :
    hull (clipHalfPlane ps line) = {p | p ∈ hull ps ∧ 0 ≤ side line p} := by
  apply Set.Subset.antisymm
  · exact hull_subset (fun p hp => mem_of_mem_clipHalfPlane hsharp hp)
      ((convex_hull ps).inter (convex_setOf_side_nonneg line))
  · rintro x ⟨hx, hside⟩
    refine mem_of_mem_hull (convex_hull _) (fun p hp hin => ?_) (fun p hp q hq hin hout => ?_) hx hside
    · exact mem_hull (mem_clipHalfPlane_of_mem hsharp hp hin)
    · exact h.hit_mem_hull hsharp hp hq hin hout

/-- Clipping along the given lines in turn, no edge that crosses a line is too flat against it. -/
def SharpAlong : List (Point ℚ × Point ℚ) → List (Point ℚ) → Prop
  | [], _ => True
  | line :: lines, ps => Sharp ps line ∧ SharpAlong lines (clipHalfPlane ps line)

instance instDecidableSharpAlong :
    (lines : List (Point ℚ × Point ℚ)) → (ps : List (Point ℚ)) → Decidable (SharpAlong lines ps)
  | [], _ => .isTrue trivial
  | line :: lines, ps =>
    have := instDecidableSharpAlong lines (clipHalfPlane ps line)
    inferInstanceAs (Decidable (Sharp ps line ∧ _))

theorem hull_foldl_clipHalfPlane {lines : List (Point ℚ × Point ℚ)} (h : LeftTurning ps)
    (hsharp : SharpAlong lines ps) :
    hull (lines.foldl clipHalfPlane ps) = {p | p ∈ hull ps ∧ ∀ line ∈ lines, 0 ≤ side line p} := by
  induction lines generalizing ps with
  | nil => simp
  | cons line lines ih =>
      obtain ⟨hfirst, hrest⟩ := hsharp
      rw [foldl_cons, ih (leftTurning_clipHalfPlane h hfirst) hrest, hull_clipHalfPlane h hfirst]
      ext p
      simp [and_assoc]

/-- Clipping a convex figure leaves exactly its points that are on the inner side of all edges of
the window, and no vertex if there is no such point. The vertices of the figure go around it
counter-clockwise; of the window nothing needs to be known. -/
theorem mem_hull_clip_iff {subject window : List (Point ℚ)} (hsubject : LeftTurning subject)
    (hsharp : SharpAlong (cyclicPairs window) subject) :
    (∀ p, p ∈ hull (clip subject window) ↔
      p ∈ hull subject ∧ ∀ e ∈ cyclicPairs window, 0 ≤ (e.2 - e.1).cross (p - e.1)) ∧
    (clip subject window = [] ↔
      ¬∃ p ∈ hull subject, ∀ e ∈ cyclicPairs window, 0 ≤ (e.2 - e.1).cross (p - e.1)) := by
  have hhull := hull_foldl_clipHalfPlane hsubject hsharp
  refine ⟨fun p => ?_, ?_⟩
  · change p ∈ hull ((cyclicPairs window).foldl clipHalfPlane subject) ↔ _
    rw [hhull]
    rfl
  · rw [← hull_eq_empty_iff]
    change hull ((cyclicPairs window).foldl clipHalfPlane subject) = ∅ ↔ _
    rw [hhull, Set.eq_empty_iff_forall_notMem]
    simp only [not_exists]
    rfl

/-- The vertices of a square. -/
def square : List (Point ℚ) := [⟨0, 0⟩, ⟨4, 0⟩, ⟨4, 4⟩, ⟨0, 4⟩]

/-- A wedge that opens to the right. Of the square it cuts off two corners, or keeps none of it. -/
def wedge (x : ℚ) : List (Point ℚ) := [⟨x, 2⟩, ⟨x + 5, -1⟩, ⟨x + 5, 5⟩]

theorem mem_hull_clip_square :
    LeftTurning square ∧ SharpAlong (cyclicPairs (wedge 1)) square ∧
      SharpAlong (cyclicPairs (wedge 9)) square ∧
      ⟨2, 2⟩ ∈ hull (clip square (wedge 1)) ∧ ⟨1, 1⟩ ∉ hull (clip square (wedge 1)) ∧
      ¬∃ p ∈ hull square, ∀ e ∈ cyclicPairs (wedge 9), 0 ≤ (e.2 - e.1).cross (p - e.1) := by
  have hsquare : LeftTurning square := by decide +kernel
  have hnear : SharpAlong (cyclicPairs (wedge 1)) square := by decide +kernel
  have hfar : SharpAlong (cyclicPairs (wedge 9)) square := by decide +kernel
  have hmiddle : (⟨2, 2⟩ : Point ℚ) ∈ hull square := by
    have hdiagonal : (⟨2, 2⟩ : Point ℚ) ∈ segment ℚ (⟨0, 0⟩ : Point ℚ) ⟨4, 4⟩ := by
      refine ⟨1 / 2, 1 / 2, by norm_num, by norm_num, by norm_num, ?_⟩
      ext <;> simp <;> norm_num
    refine (convex_hull square).segment_subset (mem_hull ?_) (mem_hull ?_) hdiagonal <;>
      simp [square]
  obtain ⟨hpoints, -⟩ := mem_hull_clip_iff hsquare hnear
  obtain ⟨-, hempty⟩ := mem_hull_clip_iff hsquare hfar
  refine ⟨hsquare, hnear, hfar, (hpoints _).mpr ⟨hmiddle, by decide +kernel⟩, fun h => ?_,
    hempty.mp (by decide +kernel)⟩
  exact absurd ((hpoints _).mp h).2 (by decide +kernel)

end Polygon

end GuideLayer
