import GuideLayer.Proofs.Mirror

/-!
The highlight and the active guide. A tap moves both by hand; everything else
goes through `highlightActive`, which looks for the guide on the map. Either
way there is one highlight, under a mark of the active guide, or none when no
guide is active. What takes marks away always looks for the guide again, so
that no highlight is left behind.
-/

namespace GuideLayer

namespace MarkBoard

variable {α : Type}

@[simp] theorem marksOf_clearGroup_self (kind : MarkKind) (b : MarkBoard α) :
    (b.clearGroup kind).marksOf kind = [] := by
  simp [marksOf, marks_clearGroup]

theorem marksOf_guide_clearGroup (b : MarkBoard α) :
    (b.clearGroup .selection).marksOf .guide = b.marksOf .guide := by
  unfold marksOf
  rw [marks_clearGroup, List.filter_filter]
  refine List.filter_congr (fun m _ => ?_)
  cases m.kind <;> rfl

end MarkBoard

namespace Layer

variable {α : Type}

/-- There is one highlight, under a mark of the active guide. Without an active guide there is
none. -/
structure Highlighted (l : Layer (MarkBoard α) α) : Prop where
  dark : l.active = none → l.store.marksOf .selection = []
  lit : ∀ guideId, l.active = some guideId →
    ∃ h m, l.store.marksOf .selection = [h] ∧ m ∈ l.store.marksOf .guide ∧
      m.guideId = guideId ∧ h.pivot = m.pivot

theorem Highlighted.congr {l l' : Layer (MarkBoard α) α} (hstore : l'.store = l.store)
    (hactive : l'.active = l.active) (h : l.Highlighted) : l'.Highlighted := by
  constructor
  · rw [hstore, hactive]
    exact h.dark
  · rw [hstore, hactive]
    exact h.lit

/-! ### Moving the highlight -/

theorem highlighted_deselect (l : Layer (MarkBoard α) α) : l.deselect.Highlighted where
  dark _ := MarkBoard.marksOf_clearGroup_self .selection l.store
  lit _ h := nomatch h

/-- The highlight stands behind all other marks. -/
theorem marksOf_select {l : Layer (MarkBoard α) α} (hs : l.store.Ordered) (m : Mark α)
    (kind : MarkKind) :
    (l.select m).store.marksOf kind =
      (l.store.clearGroup .selection).marksOf kind ++
        if kind = .selection then [{ id := l.store.nextId, kind := .selection, pivot := m.pivot }]
        else [] := by
  let e : EditSession (MarkBoard α) := EditSession.clear .selection ⟨l.store, false⟩
  have hclear : e.store.Ordered := hs.clearGroup .selection
  have hmarks : (l.select m).store.marks = (l.store.clearGroup .selection).marks ++
      [{ id := l.store.nextId, kind := .selection, pivot := m.pivot }] := by
    have hcreate := hclear.marks_create .selection m.pivot {}
    rw [Mark.tagged_none] at hcreate
    exact (EditSession.marks_finish (e.create .selection m.pivot {}).2).trans hcreate
  unfold MarkBoard.marksOf
  rw [hmarks, List.filter_append]
  cases kind <;> rfl

theorem marksOf_guide_select {l : Layer (MarkBoard α) α} (hs : l.store.Ordered) (m : Mark α) :
    (l.select m).store.marksOf .guide = l.store.marksOf .guide := by
  rw [marksOf_select hs, MarkBoard.marksOf_guide_clearGroup]
  exact List.append_nil _

theorem highlighted_select {l : Layer (MarkBoard α) α} (hs : l.store.Ordered) {m : Mark α}
    (hm : m ∈ l.store.marksOf .guide) : (l.select m).Highlighted := by
  refine ⟨nofun, ?_⟩
  rintro guideId ⟨rfl⟩
  refine ⟨{ id := l.store.nextId, kind := .selection, pivot := m.pivot }, m, ?_, ?_, rfl, rfl⟩
  · rw [marksOf_select hs, MarkBoard.marksOf_clearGroup_self]
    rfl
  · rwa [marksOf_guide_select hs]

/-- The mark of a guide is looked up among the marks of guides. -/
theorem guideMark?_eq_find? {b : MarkBoard α} (hs : b.Ordered) (guideId : String) :
    guideMark? guideId (EditSession.clear .selection ⟨b, false⟩) =
      (b.marksOf .guide).find? (fun m => m.guideId == guideId) := by
  have hclear : (b.clearGroup .selection).Ordered := hs.clearGroup .selection
  have hlookup := hclear.filterMap_markIds .guide
  rw [MarkBoard.marksOf_guide_clearGroup] at hlookup
  rw [← hlookup]
  rfl

/-- The mark that the active guide is looked up to have is on the map. -/
theorem mem_of_activeMark?_eq_some {l : Layer (MarkBoard α) α} (hs : l.store.Ordered)
    {m : Mark α} (h : l.activeMark? = some m) : m ∈ l.store.marksOf .guide := by
  obtain ⟨guideId, -, hmark⟩ := Option.bind_eq_some_iff.mp h
  rw [guideMark?_eq_find? hs] at hmark
  exact List.mem_of_find?_eq_some hmark

theorem highlighted_highlightActive {l : Layer (MarkBoard α) α} (hs : l.store.Ordered) :
    l.highlightActive.Highlighted := by
  rw [highlightActive_eq]
  cases hmark : l.activeMark? with
  | none => exact highlighted_deselect l
  | some m => exact highlighted_select hs (mem_of_activeMark?_eq_some hs hmark)

theorem highlighted_redraw {l : Layer (MarkBoard α) α} (hs : l.store.Ordered) :
    l.redraw.Highlighted := by
  have hs' : LawfulMarkStore.Sound l.store := hs
  have hdrawn := Drawing.sound_foldl_addSpot l.spots (sound_blank hs')
  unfold redraw
  exact highlighted_highlightActive (EditSession.sound_finish hdrawn)

/-! ### Runs -/

theorem Repaint.highlighted {l l' : Layer (MarkBoard α) α} {s : LayerStep α} (h : Repaint l s l')
    (hs : l.store.Ordered) (hl : l.Highlighted) : l'.Highlighted := by
  cases h with
  | keep _ _ hscene => exact hl.congr (store_of_scene hscene) (active_of_scene hscene)
  | @draw _ _ spots _ _ hscene =>
      have hdrawn : (redraw { l with spots := spots }).Highlighted := highlighted_redraw hs
      exact hdrawn.congr (store_of_scene hscene) (active_of_scene hscene)
  | wipe _ _ hstore hactive =>
      have hwiped : l.clear.Highlighted := highlighted_redraw hs
      exact hwiped.congr hstore (hactive.trans (active_clear l).symm)
  | @choose guideId _ _ hscene =>
      have hmoved : (highlightActive
          { l with active := if guideId = "" then none else some guideId }).Highlighted :=
        highlighted_highlightActive hs
      exact hmoved.congr (store_of_scene hscene) (active_of_scene hscene)
  | tap hmark hkind _ hscene =>
      have hm : _ ∈ l.store.marksOf .guide :=
        List.mem_filter.mpr ⟨MarkBoard.mem_of_mark?_eq_some hmark, decide_eq_true hkind⟩
      have htapped := highlighted_select hs hm
      exact htapped.congr (store_of_scene hscene) (active_of_scene hscene)

variable [Scalar α] [Trig α]

/-- Whatever happens to a layer that has the board for itself, the highlight is under a mark of the
active guide, and there is none without one. -/
theorem highlighted_run {l : Layer (MarkBoard α) α} (hl : l.Fresh) (hnone : l.store.marks = [])
    (steps : List (LayerStep α)) : (l.run steps).Highlighted := by
  have hs : LawfulMarkStore.Sound l.store := MarkBoard.Ordered.of_empty hnone
  induction steps using List.reverseRecOn with
  | nil =>
      have hactive : l.active = none := by rw [hl]
      change l.Highlighted
      constructor
      · simp [MarkBoard.marksOf, hnone]
      · simp [hactive]
  | append_singleton steps s ih =>
      rw [run_concat]
      exact (repaint_step (l.run steps) s).highlighted (sound_run hs steps) ih

/-- Two guides of one name, of which the one further off is tapped. -/
def tappedNamesake : List (LayerStep Float) :=
  [.setEnabled true, .updateViewport tile,
    .answer ⟨1, .ok
      [{ point := ⟨1, 1⟩, sights := 1, guide := { id := "a", distance := 0, duration := 0 } },
        { point := ⟨2, 2⟩, outdoor := 1, guide := { id := "a", distance := 0, duration := 0 } }]⟩,
    .tapGuide 1]

theorem highlighted_tappedNamesake :
    started.Fresh ∧ started.store.marks = [] ∧
      (started.run tappedNamesake).active = some "a" ∧ (started.run tappedNamesake).Highlighted := by
  have hactive : (started.run tappedNamesake).active = some "a" := by decide +kernel
  exact ⟨fresh_started, rfl, hactive, highlighted_run fresh_started rfl tappedNamesake⟩

end Layer

end GuideLayer
