import GuideLayer.Proofs.Cards
import GuideLayer.Proofs.Highlight

/-!
The active guide when guides come again. All marks are made anew first, and
then the guide is looked for among them, in the order of the store. That order
is the order of the spots, so that it is the first spot of the guide that
counts. A cluster that tells of the guide has no mark of its own and does not
count.
-/

namespace GuideLayer

variable {α : Type}

namespace Spot

/-- The guide has the spot for itself. -/
def Shows (guideId : String) (s : Spot α) : Prop :=
  s.sights + s.outdoor ≤ 1 ∧ s.guide.id = guideId

instance (guideId : String) (s : Spot α) : Decidable (s.Shows guideId) :=
  inferInstanceAs (Decidable (_ ∧ _))

end Spot

namespace Layer

/-! ### The marks before the highlight is put back -/

/-- The layer with all marks made anew, and the highlight where it was. -/
def drawn (l : Layer (MarkBoard α) α) : Layer (MarkBoard α) α :=
  let drawing := l.spots.foldl Drawing.addSpot l.sheet.blank
  { l with
    store := drawing.session.finish
    lastIndex := drawing.index
    shown := drawing.shown }

theorem redraw_eq_highlightActive (l : Layer (MarkBoard α) α) :
    l.redraw = l.drawn.highlightActive := rfl

theorem ordered_drawn {l : Layer (MarkBoard α) α} (hs : l.store.Ordered) :
    l.drawn.store.Ordered := by
  have hs' : LawfulMarkStore.Sound l.store := hs
  exact EditSession.sound_finish (Drawing.sound_foldl_addSpot l.spots (sound_blank hs'))

theorem mirrored_drawn {l : Layer (MarkBoard α) α} (hs : l.store.Ordered) :
    l.drawn.Mirrored := by
  have hs' : LawfulMarkStore.Sound l.store := hs
  have hdrawn : LawfulMarkStore.Sound l.drawn.store := ordered_drawn hs
  have hfaces := faces_redraw hs'
  rw [redraw_eq_highlightActive, spotMarks_highlightActive hdrawn, mirror,
    MarkBoard.keeps_eq l.spots (sound_blank hs')] at hfaces
  exact ⟨l.lastIndex, fun g => MarkStore.hasDownloaded g l.store, hfaces⟩

/-- The mark that is looked for stands where the first spot of the active guide is. -/
theorem map_pivot_activeMark? {l : Layer (MarkBoard α) α} (hs : l.store.Ordered)
    (h : l.Mirrored) :
    l.activeMark?.map Mark.pivot =
      l.active.bind (fun g => (l.spots.find? (fun s => decide (s.Shows g))).map Spot.point) := by
  -- Of marks and of spots only ids and places are compared; a mark also has an index.
  have hpins : (l.store.marksOf .guide).map (fun m => (m.guideId, m.pivot)) =
      l.loners.map (fun s => (s.guide.id, s.point)) := by
    refine h.map_guides (fun _ => rfl) (fun s index downloaded hlone => ?_)
    rw [Spot.face, if_neg (Nat.not_lt.mpr hlone)]
  unfold activeMark?
  cases l.active with
  | none => rfl
  | some g =>
      change (guideMark? g _).map Mark.pivot = _
      calc
        (guideMark? g (EditSession.clear .selection ⟨l.store, false⟩)).map Mark.pivot =
            (((l.store.marksOf .guide).map (fun m => (m.guideId, m.pivot))).find?
              (fun p => p.1 == g)).map Prod.snd := by
          rw [guideMark?_eq_find? hs, List.find?_map, Option.map_map]
          rfl
        _ = (l.loners.find? (fun s => s.guide.id == g)).map Spot.point := by
          rw [hpins, List.find?_map, Option.map_map]
          rfl
        _ = (l.spots.find? (fun s => decide (s.Shows g))).map Spot.point := by
          unfold loners
          rw [List.find?_filter]
          congr 2
          funext s
          by_cases hlone : s.sights + s.outdoor ≤ 1 <;> simp [Spot.Shows, hlone]

/-! ### What becomes of the active guide -/

/-- What becomes of the guide that was active before the spots came. -/
structure Retains (spots : List (Spot α)) (before : Option String)
    (l : Layer (MarkBoard α) α) : Prop where
  kept : ∀ g, before = some g → (l.active = some g ↔ ∃ s ∈ spots, s.Shows g)
  lit : ∀ g s, before = some g → spots.find? (fun s => decide (s.Shows g)) = some s →
    ∃ h, l.store.marksOf .selection = [h] ∧ h.pivot = s.point
  lost : ∀ g, before = some g → (¬∃ s ∈ spots, s.Shows g) →
    l.active = none ∧ l.store.marksOf .selection = []
  dark : before = none → l.active = none ∧ l.store.marksOf .selection = []

theorem isSome_find?_shows_iff (g : String) (spots : List (Spot α)) :
    (spots.find? (fun s => decide (s.Shows g))).isSome ↔ ∃ s ∈ spots, s.Shows g := by
  simp [List.find?_isSome]

theorem retains_deselect {spots : List (Spot α)} {l : Layer (MarkBoard α) α}
    (h : ∀ g, l.active = some g → ¬∃ s ∈ spots, s.Shows g) : Retains spots l.active l.deselect where
  kept g hg := iff_of_false nofun (h g hg)
  lit g s hg hs := absurd ((isSome_find?_shows_iff g spots).mp (by rw [hs]; rfl)) (h g hg)
  lost _ _ _ := ⟨rfl, (highlighted_deselect l).dark rfl⟩
  dark _ := ⟨rfl, (highlighted_deselect l).dark rfl⟩

theorem retains_select {spots : List (Spot α)} {l : Layer (MarkBoard α) α} (hs : l.store.Ordered)
    {m : Mark α} {s : Spot α} (hactive : l.active = some m.guideId)
    (hfound : spots.find? (fun s => decide (s.Shows m.guideId)) = some s)
    (hpivot : m.pivot = s.point) : Retains spots l.active (l.select m) := by
  have hshown : ∃ s ∈ spots, s.Shows m.guideId := by
    rw [← isSome_find?_shows_iff, hfound]
    rfl
  have hlight : (l.select m).store.marksOf .selection =
      [{ id := l.store.nextId, kind := .selection, pivot := m.pivot }] := by
    rw [marksOf_select hs, MarkBoard.marksOf_clearGroup_self]
    rfl
  -- There is one active guide, so that every row is about the guide of this mark.
  constructor
  · intro g hg
    cases hactive.symm.trans hg
    exact iff_of_true rfl hshown
  · intro g s' hg hs'
    cases hactive.symm.trans hg
    cases hfound.symm.trans hs'
    exact ⟨_, hlight, hpivot⟩
  · intro g hg hnot
    cases hactive.symm.trans hg
    exact absurd hshown hnot
  · intro hnone
    cases hactive.symm.trans hnone

theorem retains_highlightActive {l : Layer (MarkBoard α) α} (hs : l.store.Ordered)
    (h : l.Mirrored) : Retains l.spots l.active l.highlightActive := by
  have hplace := map_pivot_activeMark? hs h
  rw [highlightActive_eq]
  cases hmark : l.activeMark? with
  | none =>
      -- No mark was found for the active guide, so no spot shows it.
      refine retains_deselect (fun g hg => ?_)
      rw [hmark, hg] at hplace
      rw [← isSome_find?_shows_iff, Option.not_isSome_iff_eq_none]
      exact Option.map_eq_none_iff.mp hplace.symm
  | some m =>
      obtain ⟨g, hg, hlooked⟩ := Option.bind_eq_some_iff.mp hmark
      have hid : m.guideId = g := by simpa using List.find?_some hlooked
      rw [hmark, hg, ← hid] at hplace
      obtain ⟨s, hfound, hpoint⟩ := Option.map_eq_some_iff.mp hplace.symm
      exact retains_select hs (by rw [hg, hid]) hfound hpoint.symm

theorem Retains.of_scene {spots : List (Spot α)} {before : Option String}
    {l l' : Layer (MarkBoard α) α} (hscene : l'.scene = l.scene) (h : Retains spots before l) :
    Retains spots before l' := by
  have hstore := store_of_scene hscene
  have hactive := active_of_scene hscene
  constructor
  · rw [hactive]
    exact h.kept
  · rw [hstore]
    exact h.lit
  · rw [hactive, hstore]
    exact h.lost
  · rw [hactive, hstore]
    exact h.dark

theorem retains_redraw {l : Layer (MarkBoard α) α} (hs : l.store.Ordered) :
    Retains l.spots l.active l.redraw :=
  retains_highlightActive (ordered_drawn hs) (mirrored_drawn hs)

variable [Scalar α] [Trig α]

/-- Whenever guides come to a layer that has the board for itself, the active guide stays active
just when it is shown among them, and the highlight moves to the first place where it is. Otherwise
no guide is active any more, and none becomes active. -/
theorem retains_run {l : Layer (MarkBoard α) α} (hnone : l.store.marks = [])
    (steps : List (LayerStep α)) {s : LayerStep α} {spots : List (Spot α)}
    (h : (l.run steps).Succeeds s spots) :
    Retains spots (l.run steps).active ((l.run steps).step s) := by
  have hs : LawfulMarkStore.Sound l.store := MarkBoard.Ordered.of_empty hnone
  have hs' : (store { l.run steps with spots := spots }).Ordered := sound_run hs steps
  obtain ⟨generation, hacc, hstep⟩ := step_of_succeeds h
  have hredraw := retains_redraw hs'
  rw [hstep]
  exact hredraw.of_scene (scene_receive hacc spots)

/-- Guides that come while the one with the id `a` is active. First a place with two guides that
tells of the same one, then that guide twice. -/
def namesakes : List (Spot Float) :=
  [{ point := ⟨5, 5⟩, sights := 2, guide := { id := "a", distance := 0, duration := 0 } },
    { point := ⟨6, 6⟩, outdoor := 1, guide := { id := "a", distance := 0, duration := 0 } },
    { point := ⟨7, 7⟩, sights := 1, guide := { id := "a", distance := 0, duration := 0 } }]

/-- A guide is tapped, and then the map shows more. -/
def tappedAndZoomed : List (LayerStep Float) := tappedNamesake ++ [.updateViewport wideTile]

theorem retains_namesakes :
    started.store.marks = [] ∧
      (started.run tappedAndZoomed).Succeeds (.answer ⟨2, .ok namesakes⟩) namesakes ∧
      (started.run tappedAndZoomed).active = some "a" ∧
      ((started.run tappedAndZoomed).step (.answer ⟨2, .ok namesakes⟩)).active = some "a" ∧
      ∃ h, ((started.run tappedAndZoomed).step (.answer ⟨2, .ok namesakes⟩)).store.marksOf
        .selection = [h] ∧ h.pivot = ⟨6, 6⟩ := by
  have hactive : (started.run tappedAndZoomed).active = some "a" := by decide +kernel
  have hcome : (started.run tappedAndZoomed).Succeeds (.answer ⟨2, .ok namesakes⟩) namesakes :=
    ⟨_, rfl, rfl, by decide +kernel⟩
  have hretains := retains_run rfl tappedAndZoomed hcome
  refine ⟨rfl, hcome, hactive, (hretains.kept "a" hactive).mpr ?_, ?_⟩
  · exact ⟨namesakes[1], by simp [namesakes], by decide⟩
  · exact hretains.lit "a" namesakes[1] hactive rfl

end Layer

end GuideLayer
