import GuideLayer.Proofs.Clipping

/-!
How far off clipping can be. An edge that crosses a line almost along it is met
at its start, even if that is outside. But then its end is not, and so the start
is outside by less than what counts as nothing. All that is done afterwards is
to join vertices that are there, which brings none of them farther out. So
nothing needs to be known of either polygon, not even that it is convex.
-/

namespace GuideLayer

namespace Polygon

open List

variable {line : Point ℚ × Point ℚ} {ps : List (Point ℚ)}

/-- Clipping does not lead out of a convex set. -/
theorem mem_of_mem_foldl_clipHalfPlane {K : Set (Point ℚ)} (hK : Convex ℚ K)
    (hps : ∀ p ∈ ps, p ∈ K) (lines : List (Point ℚ × Point ℚ)) :
    ∀ v ∈ lines.foldl clipHalfPlane ps, v ∈ K := by
  induction lines generalizing ps with
  | nil => exact hps
  | cons line lines ih =>
      exact ih (fun v hv => hull_subset hps hK (mem_hull_of_mem_clipHalfPlane hv).1)

/-- The margin of a line is kept by all lines after it. -/
theorem side_of_mem_foldl_clipHalfPlane (lines : List (Point ℚ × Point ℚ)) :
    ∀ v ∈ lines.foldl clipHalfPlane ps, ∀ line ∈ lines,
      -areaEps < side line v ∧ (SharpAlong lines ps → 0 ≤ side line v) := by
  induction lines generalizing ps with
  | nil => simp
  | cons first lines ih =>
      intro v hv line hline
      obtain rfl | hline := mem_cons.mp hline
      · refine ⟨?_, fun hsharp => ?_⟩
        · exact mem_of_mem_foldl_clipHalfPlane (convex_setOf_lt_side line _)
            (fun p hp => (mem_hull_of_mem_clipHalfPlane hp).2) lines v hv
        · exact mem_of_mem_foldl_clipHalfPlane (convex_setOf_side_nonneg line)
            (fun p hp => (mem_of_mem_clipHalfPlane hsharp.1 hp).2) lines v hv
      · obtain ⟨hnear, hexact⟩ := ih v hv line hline
        exact ⟨hnear, fun hsharp => hexact hsharp.2⟩

/-- Every vertex that clipping leaves is a convex combination of the vertices there were, and it is
not outside of any edge of the window by as much as counts at all. If no edge that crosses a line
was too flat against it, no vertex is outside. Neither polygon has to be convex. -/
theorem mem_clip_within_margin (subject window : List (Point ℚ)) :
    (∀ v ∈ clip subject window, v ∈ convexHull ℚ {p | p ∈ subject} ∧
      ∀ e ∈ cyclicPairs window, -areaEps < (e.2 - e.1).cross (v - e.1)) ∧
    (SharpAlong (cyclicPairs window) subject →
      ∀ v ∈ clip subject window, ∀ e ∈ cyclicPairs window, 0 ≤ (e.2 - e.1).cross (v - e.1)) := by
  refine ⟨fun v hv => ⟨?_, fun e he => ?_⟩, fun hsharp v hv e he => ?_⟩
  · exact mem_of_mem_foldl_clipHalfPlane (convex_hull subject) (fun p hp => mem_hull hp) _ v hv
  · exact (side_of_mem_foldl_clipHalfPlane _ v hv e he).1
  · exact (side_of_mem_foldl_clipHalfPlane _ v hv e he).2 hsharp

/-- A dart, which is not convex. Its tip is so far below the axis. -/
def dart (depth : ℚ) : List (Point ℚ) := [⟨1, -depth⟩, ⟨3, 0⟩, ⟨3, 3⟩, ⟨2, 1⟩, ⟨1, 3⟩]

/-- A window that stands on the axis. -/
def pane : List (Point ℚ) := [⟨0, 0⟩, ⟨4, 0⟩, ⟨4, 4⟩, ⟨0, 4⟩]

/-- The lower edge of the window. -/
def sill : Point ℚ × Point ℚ := (⟨0, 0⟩, ⟨4, 0⟩)

/-- A tip just below the window is kept, as the edge that leads up from it is so flat. A tip far
below it is cut off. -/
theorem mem_clip_within_margin_dart :
    (∃ v ∈ clip (dart (1 / 10 ^ 13)) pane, v ∈ convexHull ℚ {p | p ∈ dart (1 / 10 ^ 13)} ∧
      -areaEps < side sill v ∧ side sill v < 0) ∧
    SharpAlong (cyclicPairs pane) (dart 1) ∧ ∀ v ∈ clip (dart 1) pane, 0 ≤ side sill v := by
  have hsill : sill ∈ cyclicPairs pane := mem_cons_self
  have hclip : clip (dart (1 / 10 ^ 13)) pane =
      [⟨2, 1⟩, ⟨1, 3⟩, ⟨1, 0⟩, ⟨1, -(1 / 10 ^ 13)⟩, ⟨3, 0⟩, ⟨3, 3⟩] := by decide +kernel
  have htip : ⟨1, -(1 / 10 ^ 13)⟩ ∈ clip (dart (1 / 10 ^ 13)) pane := by
    rw [hclip]
    simp
  have hsharp : SharpAlong (cyclicPairs pane) (dart 1) := by decide +kernel
  obtain ⟨hwithin, -⟩ := mem_clip_within_margin (dart (1 / 10 ^ 13)) pane
  obtain ⟨-, hexact⟩ := mem_clip_within_margin (dart 1) pane
  obtain ⟨hhull, hnear⟩ := hwithin _ htip
  exact ⟨⟨_, htip, hhull, hnear sill hsill, by decide +kernel⟩, hsharp,
    fun v hv => hexact hsharp v hv sill hsill⟩

end Polygon

end GuideLayer
