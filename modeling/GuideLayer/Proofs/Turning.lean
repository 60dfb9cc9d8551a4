import GuideLayer.Proofs.Plane
import Mathlib.Data.List.Rotate

/-!
Going around a polygon, and cutting it along a line. Cutting is done in two
steps here: first every edge that crosses the line gets a vertex where it does,
then the vertices outside are left out. Both steps keep the order of what is
there, so that a polygon that turned to the left at every corner does so
afterwards. It may then have vertices twice or in one line, and it may be flat;
this is why turning is asked of any three vertices and not of neighbours.
-/

namespace GuideLayer

namespace Polygon

open List

/-! ### Edges -/

section Edges

variable {β γ : Type}

/-- Each element with the next one. -/
def trail (ps : List β) : List (β × β) := ps.zip ps.tail

@[simp] theorem trail_cons_cons (p q : β) (ps : List β) :
    trail (p :: q :: ps) = (p, q) :: trail (q :: ps) := rfl

theorem trail_append (p : β) (ps qs : List β) :
    trail (ps ++ p :: qs) = trail (ps ++ [p]) ++ trail (p :: qs) := by
  induction ps with
  | nil => rfl
  | cons r ps ih =>
      cases ps with
      | nil => rfl
      | cons s ps =>
          simp only [cons_append, trail_cons_cons] at ih ⊢
          rw [ih]

theorem cyclicPairs_cons (p : β) (ps : List β) :
    cyclicPairs (p :: ps) = trail (p :: ps ++ [p]) := by
  change (p :: ps).zip (ps ++ [p]) = ((p :: ps) ++ [p]).zip (ps ++ [p])
  have hlength : (p :: ps).length = (ps ++ [p]).length := by simp
  have hzip : ((p :: ps) ++ [p]).zip ((ps ++ [p]) ++ []) = _ := zip_append hlength
  rw [append_nil] at hzip
  rw [hzip]
  simp

/-- Two elements part the way around into the way from the first to the second and the way back. -/
theorem cyclicPairs_two_ways (p q : β) (there back : List β) :
    cyclicPairs (p :: (there ++ q :: back)) =
      trail (p :: there ++ [q]) ++ trail (q :: back ++ [p]) := by
  rw [cyclicPairs_cons]
  have hsplit : p :: (there ++ q :: back) ++ [p] = (p :: there) ++ q :: (back ++ [p]) := by simp
  rw [hsplit, trail_append]
  rfl

/-- Whatever a path comes to have at its end and had not at its beginning, it comes to have along
one of its edges. -/
theorem exists_mem_trail {P : β → Prop} {p q : β} (ps : List β) (hp : P p) (hq : ¬P q) :
    ∃ e ∈ trail (p :: ps ++ [q]), P e.1 ∧ ¬P e.2 := by
  induction ps generalizing p with
  | nil => exact ⟨(p, q), by simp [trail], hp, hq⟩
  | cons r ps ih =>
      by_cases hr : P r
      · obtain ⟨e, he, hcrosses⟩ := ih hr
        exact ⟨e, mem_cons_of_mem _ he, hcrosses⟩
      · exact ⟨(p, r), mem_cons_self, hp, hr⟩

theorem mem_of_mem_trail {ps : List β} {e : β × β} (h : e ∈ trail ps) : e.1 ∈ ps ∧ e.2 ∈ ps :=
  ⟨(of_mem_zip h).1, mem_of_mem_tail (of_mem_zip h).2⟩

theorem mem_of_mem_cyclicPairs {ps : List β} {e : β × β} (h : e ∈ cyclicPairs ps) :
    e.1 ∈ ps ∧ e.2 ∈ ps := by
  cases ps with
  | nil => cases h
  | cons p ps =>
      exact ⟨(of_mem_zip h).1, by simpa [or_comm] using (of_mem_zip h).2⟩

theorem map_snd_cyclicPairs (ps : List β) : (cyclicPairs ps).map Prod.snd = ps.rotate 1 := by
  cases ps with
  | nil => rfl
  | cons p ps =>
      rw [rotate_cons_succ, rotate_zero]
      exact map_snd_zip (by simp)

theorem exists_mem_cyclicPairs {ps : List β} {p : β} (h : p ∈ ps) :
    ∃ e ∈ cyclicPairs ps, e.2 = p := by
  rw [← mem_rotate (n := 1), ← map_snd_cyclicPairs] at h
  exact mem_map.mp h

theorem cyclicPairs_rotate_one (ps : List β) :
    cyclicPairs (ps.rotate 1) = (cyclicPairs ps).rotate 1 := by
  rcases ps with _ | ⟨p, _ | ⟨q, ps⟩⟩
  · rfl
  · simp [cyclicPairs]
  · have hpair : (p :: q :: ps).rotate 1 = q :: (ps ++ [p]) := by simp
    rw [hpair, cyclicPairs_cons, cyclicPairs_cons]
    simp only [cons_append, append_assoc, trail_cons_cons, rotate_cons_succ, rotate_zero]
    rw [← cons_append, trail_append]
    rfl

/-- A property of lists that a rotation by one keeps is kept by every rotation. -/
theorem isRotated_induction {P : List β → Prop} (hstep : ∀ ps, P ps → P (ps.rotate 1))
    {ps qs : List β} (h : ps ~r qs) (hps : P ps) : P qs := by
  obtain ⟨n, rfl⟩ := h
  induction n with
  | zero => rwa [rotate_zero]
  | succ n ih =>
      rw [← rotate_rotate]
      exact hstep _ ih

theorem isRotated_cyclicPairs {ps qs : List β} (h : ps ~r qs) :
    cyclicPairs ps ~r cyclicPairs qs := by
  refine isRotated_induction (P := fun rs => cyclicPairs ps ~r cyclicPairs rs) ?_ h (.refl _)
  intro rs hrs
  rw [cyclicPairs_rotate_one]
  exact hrs.trans (IsRotated.forall _ 1).symm

theorem isRotated_flatMap {ps qs : List β} (h : ps ~r qs) (f : β → List γ) :
    ps.flatMap f ~r qs.flatMap f := by
  refine isRotated_induction (P := fun rs => ps.flatMap f ~r rs.flatMap f) ?_ h (.refl _)
  intro rs hrs
  cases rs with
  | nil => exact hrs
  | cons r rs =>
      rw [flatMap_cons] at hrs
      simp only [rotate_cons_succ, rotate_zero, flatMap_append, flatMap_singleton]
      exact hrs.trans isRotated_append

/-- Where a list that goes around is begun does not matter for what is left of it. -/
theorem isRotated_clipHalfPlane [Scalar β] {ps qs : List (Point β)} (h : ps ~r qs)
    (line : Point β × Point β) : clipHalfPlane ps line ~r clipHalfPlane qs line :=
  isRotated_flatMap (isRotated_cyclicPairs h) _

/-- A list that goes around can be begun with any of its elements. -/
theorem exists_isRotated_cons {ps : List β} {p : β} (h : p ∈ ps) : ∃ qs, ps ~r p :: qs := by
  obtain ⟨before, after, rfl⟩ := append_of_mem h
  exact ⟨after ++ before, isRotated_append⟩

end Edges

/-! ### Crossings -/

variable {line : Point ℚ × Point ℚ}

/-- Where two points on different sides of a line are joined across it. -/
def hit (line : Point ℚ × Point ℚ) (p q : Point ℚ) : Point ℚ :=
  (-side line q / (side line p - side line q)) • p +
    (side line p / (side line p - side line q)) • q

theorem hit_comm (line : Point ℚ × Point ℚ) (p q : Point ℚ) : hit line p q = hit line q p := by
  have hp : -side line q / (side line p - side line q) =
      side line q / (side line q - side line p) := by
    rw [← neg_sub (side line q), div_neg, neg_div, neg_neg]
  have hq : side line p / (side line p - side line q) =
      -side line p / (side line q - side line p) := by
    rw [← neg_sub (side line q), div_neg, neg_div]
  rw [hit, hit, hp, hq, add_comm]

theorem hit_weights_add {p q : Point ℚ} (h : side line p - side line q ≠ 0) :
    -side line q / (side line p - side line q) + side line p / (side line p - side line q) = 1 := by
  rw [← add_div, neg_add_eq_sub, div_self h]

theorem side_hit {p q : Point ℚ} (h : side line p - side line q ≠ 0) :
    side line (hit line p q) = 0 := by
  rw [hit, side_combine _ _ _ (hit_weights_add h)]
  field_simp
  ring

/-- A crossing lies between the points that it joins. -/
theorem hit_mem_segment {p q : Point ℚ} (hp : 0 ≤ side line p) (hq : side line q < 0) :
    hit line p q ∈ segment ℚ p q := by
  have hpos : 0 < side line p - side line q := by linarith
  exact ⟨_, _, div_nonneg (by linarith) hpos.le, div_nonneg hp hpos.le,
    hit_weights_add hpos.ne', rfl⟩

/-- The line is crossed where it should be if the edge is not too flat against it. -/
theorem crossing_eq_hit {p q : Point ℚ}
    (h : ¬Scalar.abs ((line.2 - line.1).cross (q - p)) < areaEps) :
    crossing line.1 (line.2 - line.1) p q = hit line p q := by
  have hne : side line p - side line q ≠ 0 := by
    intro heq
    apply h
    rw [side_sub_side, ← neg_sub, heq, neg_zero, Scalar.abs_rat, abs_zero]
    exact areaEps_pos
  have hstart : (line.2 - line.1).cross (line.1 - p) = -side line p := by
    simp only [side, Point.cross_eq, Point.x_sub, Point.y_sub]
    ring
  have hshare : -side line p / (side line q - side line p) =
      side line p / (side line p - side line q) := by
    rw [← neg_sub (side line p), neg_div_neg_eq]
  have hrest : -side line q / (side line p - side line q) =
      1 - side line p / (side line p - side line q) := by
    rw [← hit_weights_add hne]
    ring
  have hcrossing : crossing line.1 (line.2 - line.1) p q =
      p + (q - p) * ((line.2 - line.1).cross (line.1 - p) / (line.2 - line.1).cross (q - p)) :=
    if_neg h
  rw [hcrossing, hstart, side_sub_side, hshare, hit, hrest]
  ext
  · simp only [Point.x_add, Point.x_mul, Point.x_sub, Point.x_smul]
    ring
  · simp only [Point.y_add, Point.y_mul, Point.y_sub, Point.y_smul]
    ring

/-- No edge that crosses the line is so flat against it that it is not told where. -/
def Sharp (ps : List (Point ℚ)) (line : Point ℚ × Point ℚ) : Prop :=
  ∀ e ∈ cyclicPairs ps,
    ¬(Inside line.1 (line.2 - line.1) e.1 ↔ Inside line.1 (line.2 - line.1) e.2) →
      ¬Scalar.abs ((line.2 - line.1).cross (e.2 - e.1)) < areaEps

instance (ps : List (Point ℚ)) (line : Point ℚ × Point ℚ) : Decidable (Sharp ps line) :=
  inferInstanceAs (Decidable (∀ e ∈ cyclicPairs ps, _ → _))

/-- The end of an edge, and before it the point where the edge crosses the line. -/
def cutEdge (line : Point ℚ × Point ℚ) (e : Point ℚ × Point ℚ) : List (Point ℚ) :=
  if 0 ≤ side line e.1 ↔ 0 ≤ side line e.2 then [e.2] else [hit line e.1 e.2, e.2]

theorem cutEdge_of_same {p q : Point ℚ} (h : 0 ≤ side line p ↔ 0 ≤ side line q) :
    cutEdge line (p, q) = [q] := if_pos h

theorem cutEdge_of_crosses {p q : Point ℚ} (h : ¬(0 ≤ side line p ↔ 0 ≤ side line q)) :
    cutEdge line (p, q) = [hit line p q, q] := if_neg h

theorem side_hit_of_crosses {p q : Point ℚ} (h : ¬(0 ≤ side line p ↔ 0 ≤ side line q)) :
    side line (hit line p q) = 0 := by
  refine side_hit (fun heq => h ?_)
  rw [sub_eq_zero.mp heq]

theorem hit_mem_segment_of_crosses {p q : Point ℚ}
    (h : ¬(0 ≤ side line p ↔ 0 ≤ side line q)) : hit line p q ∈ segment ℚ p q := by
  by_cases hp : 0 ≤ side line p
  · exact hit_mem_segment hp (not_le.mp (fun hq => h (iff_of_true hp hq)))
  · have hq : 0 ≤ side line q := by
      by_contra hq
      exact h (iff_of_false hp hq)
    rw [hit_comm, segment_symm]
    exact hit_mem_segment hq (not_le.mp hp)

theorem clipHalfPlane_eq_filter {ps : List (Point ℚ)} (h : Sharp ps line) :
    clipHalfPlane ps line =
      ((cyclicPairs ps).flatMap (cutEdge line)).filter (fun p => decide (0 ≤ side line p)) := by
  unfold clipHalfPlane
  rw [filter_flatMap]
  refine flatMap_congr (fun e he => ?_)
  obtain ⟨p, q⟩ := e
  have hsharp := h (p, q) he
  simp only [inside_iff] at hsharp
  unfold keepEdge
  simp only [inside_iff]
  by_cases hsame : 0 ≤ side line p ↔ 0 ≤ side line q
  · rw [cutEdge_of_same hsame]
    by_cases hp : 0 ≤ side line p <;> simp [hp, ← hsame]
  · rw [cutEdge_of_crosses hsame, crossing_eq_hit (hsharp hsame)]
    by_cases hp : 0 ≤ side line p
    · have hq : ¬0 ≤ side line q := fun hq => hsame (iff_of_true hp hq)
      simp [hp, hq, side_hit_of_crosses hsame]
    · have hq : 0 ≤ side line q := by
        by_contra hq
        exact hsame (iff_of_false hp hq)
      simp [hp, hq, side_hit_of_crosses hsame]

/-! ### Turning to the left -/

theorem side_rotate (a b c : Point ℚ) : side (a, b) c = side (b, c) a := by
  simp only [side, Point.cross_eq, Point.x_sub, Point.y_sub]
  ring

theorem side_swap (a b c : Point ℚ) : side (a, b) c = -side (b, a) c := by
  simp only [side, Point.cross_eq, Point.x_sub, Point.y_sub]
  ring

@[simp] theorem side_start (a b : Point ℚ) : side (a, b) a = 0 := by
  simp only [side, Point.cross_eq, Point.x_sub, Point.y_sub]
  ring

@[simp] theorem side_of_no_line (a b : Point ℚ) : side (a, a) b = 0 := by
  rw [side_rotate, side_start]

@[simp] theorem side_end (a b : Point ℚ) : side (a, b) b = 0 := by
  rw [← side_rotate]
  exact side_start b a

/-- The vertices of a convex figure, counter-clockwise: of any three of them in their order, the
third is not to the right of the line from the first to the second. Vertices may be repeated or in
one line. -/
def LeftTurning (ps : List (Point ℚ)) : Prop :=
  ∀ a b c, [a, b, c] <+ ps → 0 ≤ side (a, b) c

@[simp] theorem leftTurning_nil : LeftTurning [] := by
  intro a b c habc
  cases habc

theorem leftTurning_cons {p : Point ℚ} {ps : List (Point ℚ)} :
    LeftTurning (p :: ps) ↔ ps.Pairwise (fun b c => 0 ≤ side (p, b) c) ∧ LeftTurning ps := by
  rw [pairwise_iff_forall_sublist]
  constructor
  · intro h
    exact ⟨fun {b c} hbc => h p b c (hbc.cons_cons p), fun a b c habc => h a b c (habc.cons p)⟩
  · rintro ⟨hfirst, hrest⟩ a b c habc
    obtain habc | ⟨l, heq, hl⟩ := sublist_cons_iff.mp habc
    · exact hrest a b c habc
    · cases heq
      exact hfirst hl

instance instDecidableLeftTurning : (ps : List (Point ℚ)) → Decidable (LeftTurning ps)
  | [] => .isTrue (fun _ _ _ h => nomatch h)
  | _ :: ps =>
    have := instDecidableLeftTurning ps
    decidable_of_iff _ leftTurning_cons.symm

theorem LeftTurning.sublist {ps qs : List (Point ℚ)} (h : LeftTurning ps) (hsub : qs <+ ps) :
    LeftTurning qs :=
  fun a b c habc => h a b c (habc.trans hsub)

/-- Three elements of a list with an element put in: it is none of them, or one of them. -/
theorem three_sublist_insert {β : Type} {before after : List β} {x a b c : β}
    (h : [a, b, c] <+ before ++ x :: after) :
    [a, b, c] <+ before ++ after ∨ (x = a ∧ [b, c] <+ after) ∨
      (x = b ∧ [a] <+ before ∧ [c] <+ after) ∨ (x = c ∧ [a, b] <+ before) := by
  obtain ⟨l, l', heq, hl, hl'⟩ := sublist_append_iff.mp h
  obtain hl' | ⟨r, rfl, hr⟩ := sublist_cons_iff.mp hl'
  · exact .inl (heq ▸ hl.append hl')
  · right
    rcases l with _ | ⟨a', _ | ⟨b', _ | ⟨c', l⟩⟩⟩
    · cases heq
      exact .inl ⟨rfl, hr⟩
    · cases heq
      exact .inr (.inl ⟨rfl, hl, hr⟩)
    · cases heq
      exact .inr (.inr ⟨rfl, hl⟩)
    · simp at heq

/-- Between two points that may each stand at a place, any other may. -/
theorem LeftTurning.between {before after : List (Point ℚ)} {p q x : Point ℚ}
    (hp : LeftTurning (before ++ p :: after)) (hq : LeftTurning (before ++ q :: after))
    (hx : x ∈ segment ℚ p q) : LeftTurning (before ++ x :: after) := by
  -- `x` is to the left of any line that both `p` and `q` are to the left of.
  have hmix (a b : Point ℚ) (hside : 0 ≤ side (a, b) p) (hside' : 0 ≤ side (a, b) q) :
      0 ≤ side (a, b) x :=
    (convex_setOf_side_nonneg (a, b)).segment_subset hside hside' hx
  have hput (l l' : List (Point ℚ)) (hl : l <+ before) (hl' : l' <+ after) (y : Point ℚ) :
      l ++ y :: l' <+ before ++ y :: after := hl.append (hl'.cons_cons y)
  intro a b c habc
  obtain habc | ⟨rfl, hbc⟩ | ⟨rfl, ha, hc⟩ | ⟨rfl, hab⟩ := three_sublist_insert habc
  · exact hp a b c (habc.trans ((sublist_cons_self p after).append_left before))
  · rw [side_rotate]
    refine hmix b c ?_ ?_ <;> rw [← side_rotate]
    · exact hp p b c (hput [] _ (nil_sublist _) hbc p)
    · exact hq q b c (hput [] _ (nil_sublist _) hbc q)
  · rw [← side_rotate]
    refine hmix c a ?_ ?_ <;> rw [side_rotate]
    · exact hp a p c (hput _ _ ha hc p)
    · exact hq a q c (hput _ _ ha hc q)
  · refine hmix a b ?_ ?_
    · exact hp a b p (hput _ [] hab (nil_sublist _) p)
    · exact hq a b q (hput _ [] hab (nil_sublist _) q)

/-- A vertex may be repeated on the spot. -/
theorem LeftTurning.repeat {before after : List (Point ℚ)} {p : Point ℚ}
    (h : LeftTurning (before ++ p :: after)) : LeftTurning (before ++ p :: p :: after) := by
  intro a b c habc
  obtain habc | ⟨rfl, hbc⟩ | ⟨rfl, ha, hc⟩ | ⟨rfl, hab⟩ := three_sublist_insert habc
  · exact h a b c habc
  · obtain hbc | ⟨l, heq, hl⟩ := sublist_cons_iff.mp hbc
    · exact h p b c ((nil_sublist before).append (hbc.cons_cons p))
    · cases heq
      simp
  · obtain hc | ⟨l, heq, hl⟩ := sublist_cons_iff.mp hc
    · exact h a p c (ha.append (hc.cons_cons p))
    · cases heq
      simp
  · exact h a b p (hab.append ((nil_sublist after).cons_cons p))

theorem LeftTurning.rotate_one {ps : List (Point ℚ)} (h : LeftTurning ps) :
    LeftTurning (ps.rotate 1) := by
  cases ps with
  | nil => exact h
  | cons p ps =>
      rw [rotate_cons_succ, rotate_zero]
      intro a b c habc
      obtain habc | ⟨-, hbc⟩ | ⟨-, -, hc⟩ | ⟨rfl, hab⟩ := three_sublist_insert habc
      · rw [append_nil] at habc
        exact h a b c (habc.cons p)
      · cases hbc
      · cases hc
      · rw [← side_rotate]
        exact h p a b (hab.cons_cons p)

theorem LeftTurning.of_isRotated {ps qs : List (Point ℚ)} (hrot : ps ~r qs)
    (h : LeftTurning ps) : LeftTurning qs :=
  isRotated_induction (fun _ hrs => hrs.rotate_one) hrot h

/-- The cuts of a path with other vertices before it. -/
theorem LeftTurning.cutTrail {before : List (Point ℚ)} {p : Point ℚ} {ps : List (Point ℚ)}
    (h : LeftTurning (before ++ p :: ps)) :
    LeftTurning (before ++ p :: (trail (p :: ps)).flatMap (cutEdge line)) := by
  induction ps generalizing before p with
  | nil => exact h
  | cons q ps ih =>
      rw [trail_cons_cons, flatMap_cons]
      have hnext : LeftTurning ((before ++ [p]) ++ q :: ps) := by simpa using h
      by_cases hsame : 0 ≤ side line p ↔ 0 ≤ side line q
      · rw [cutEdge_of_same hsame]
        simpa using ih hnext
      · -- The crossing may stand where `p` may and where `q` may, and so it may stand between them.
        rw [cutEdge_of_crosses hsame]
        have hstart : LeftTurning ((before ++ [p]) ++ p :: q :: ps) := by simpa using h.repeat
        have hcut : LeftTurning ((before ++ [p]) ++ hit line p q :: q :: ps) :=
          hstart.between hnext.repeat (hit_mem_segment_of_crosses hsame)
        have hrest : LeftTurning ((before ++ [p, hit line p q]) ++ q :: ps) := by simpa using hcut
        simpa using ih hrest

/-- What is left of a convex figure on one side of a line is convex. -/
theorem leftTurning_clipHalfPlane {ps : List (Point ℚ)} (h : LeftTurning ps)
    (hsharp : Sharp ps line) : LeftTurning (clipHalfPlane ps line) := by
  rw [clipHalfPlane_eq_filter hsharp]
  refine LeftTurning.sublist ?_ filter_sublist
  cases ps with
  | nil => exact h
  | cons p ps =>
      rw [cyclicPairs_cons]
      -- The way around ends where it began, and the first of the two is left out after the cuts.
      have hclosed : LeftTurning ([] ++ p :: (ps ++ [p])) := by
        have hfirst : LeftTurning ([] ++ p :: ps) := h
        have htwice : LeftTurning (p :: p :: ps) := hfirst.repeat
        simpa using htwice.rotate_one
      exact (LeftTurning.cutTrail hclosed).sublist (sublist_cons_self p _)

end Polygon

end GuideLayer
