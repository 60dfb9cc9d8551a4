import GuideLayer.Proofs.Mirror
import GuideLayer.Proofs.Notices

/-!
Ids of marks that are kept from earlier. Guides that come have all marks made
anew, and a tap may be for a mark that is gone by then. It never reaches
another one: tags are put on a mark as it is made and never later, and an id
that was given out is below all that are going to be.
-/

namespace GuideLayer

variable {α : Type}

namespace MarkBoard

/-- The marks of the second board are marks of the first, or their ids are new. -/
structure Precedes (b b' : MarkBoard α) : Prop where
  nextId_le : b.nextId ≤ b'.nextId
  old_or_new : ∀ m ∈ b'.marks, m ∈ b.marks ∨ b.nextId ≤ m.id

namespace Precedes

theorem refl (b : MarkBoard α) : b.Precedes b := ⟨Nat.le_refl _, fun _ hm => .inl hm⟩

theorem trans {b b' b'' : MarkBoard α} (h : b.Precedes b') (h' : b'.Precedes b'') :
    b.Precedes b'' where
  nextId_le := Nat.le_trans h.nextId_le h'.nextId_le
  old_or_new m hm := by
    rcases h'.old_or_new m hm with hold | hnew
    · exact h.old_or_new m hold
    · exact .inr (Nat.le_trans h.nextId_le hnew)

/-- What an id named once is all that it ever names. -/
theorem mark?_eq_or {b b' : MarkBoard α} (h : b.Precedes b') (hb : b.Ordered) (hb' : b'.Ordered)
    {id : MarkId} {m : Mark α} (hm : b.mark? id = some m) :
    b'.mark? id = some m ∨ b'.mark? id = none := by
  have hmem := mem_of_mark?_eq_some hm
  have hid := hb.id_of_mark?_eq_some hm
  cases hlater : b'.mark? id with
  | none => exact .inr rfl
  | some m' =>
      have hid' := hb'.id_of_mark?_eq_some hlater
      rcases h.old_or_new m' (mem_of_mark?_eq_some hlater) with hold | hnew
      · rw [hb.eq_of_id_eq hold hmem (hid'.trans hid.symm)]
        exact .inl rfl
      · rw [hid', ← hid] at hnew
        exact absurd (hb.below m hmem) (Nat.not_lt.mpr hnew)

/-! ### Edits -/

theorem clear (kind : MarkKind) (e : EditSession (MarkBoard α)) :
    e.store.Precedes (e.clear kind).store := by
  refine ⟨Nat.le_refl _, ?_⟩
  intro m hm
  have hkept : m ∈ e.store.marks.filter (fun m => decide (m.kind ≠ kind)) := by
    rwa [← marks_clearGroup]
  exact .inl (List.mem_of_mem_filter hkept)

theorem create {e : EditSession (MarkBoard α)} (h : e.store.Ordered) (kind : MarkKind)
    (pivot : Point α) (tags : MarkTags) :
    e.store.Precedes (e.create kind pivot tags).2.store := by
  have hmade := h.marks_create kind pivot tags
  rw [create_eq] at hmade ⊢
  refine ⟨Nat.le_succ _, ?_⟩
  intro m hm
  rw [hmade] at hm
  rcases List.mem_append.mp hm with hold | hnew
  · exact .inl hold
  · rw [List.mem_singleton.mp hnew]
    exact .inr (Nat.le_refl _)

theorem finish (e : EditSession (MarkBoard α)) : e.store.Precedes e.finish := by
  unfold EditSession.finish
  split
  · exact ⟨Nat.le_refl _, fun _ hm => .inl hm⟩
  · exact refl e.store

theorem foldl_addSpot (spots : List (Spot α)) {d : Drawing (MarkBoard α)}
    (h : d.session.store.Ordered) :
    d.session.store.Precedes (spots.foldl Drawing.addSpot d).session.store := by
  induction spots generalizing d with
  | nil => exact refl _
  | cons s spots ih =>
      have hs : LawfulMarkStore.Sound d.session.store := h
      have hmade : d.session.store.Precedes (d.make s).2.store := by
        unfold Drawing.make
        split <;> exact create h _ _ _
      have hnext : (d.addSpot s).session.store.Ordered := by
        rw [Drawing.session_addSpot]
        exact Drawing.sound_make hs s
      refine trans ?_ (ih hnext)
      rw [Drawing.session_addSpot]
      exact hmade

end Precedes

end MarkBoard

namespace Layer

open MarkBoard

/-! ### Steps -/

theorem precedes_select {l : Layer (MarkBoard α) α} (hs : l.store.Ordered) (m : Mark α) :
    l.store.Precedes (l.select m).store := by
  have hcleared : (EditSession.clear .selection ⟨l.store, false⟩).store.Ordered :=
    hs.clearGroup .selection
  exact (Precedes.clear .selection ⟨l.store, false⟩).trans
    ((Precedes.create hcleared _ _ _).trans (Precedes.finish _))

theorem precedes_deselect (l : Layer (MarkBoard α) α) : l.store.Precedes l.deselect.store :=
  (Precedes.clear .selection ⟨l.store, false⟩).trans (Precedes.finish _)

theorem precedes_highlightActive {l : Layer (MarkBoard α) α} (hs : l.store.Ordered) :
    l.store.Precedes l.highlightActive.store := by
  rw [highlightActive_eq]
  cases l.activeMark? with
  | none => exact precedes_deselect l
  | some m => exact precedes_select hs m

theorem precedes_redraw {l : Layer (MarkBoard α) α} (hs : l.store.Ordered) :
    l.store.Precedes l.redraw.store := by
  have hs' : LawfulMarkStore.Sound l.store := hs
  have hblank : l.store.Precedes l.sheet.blank.session.store :=
    (Precedes.clear .cluster ⟨l.store, false⟩).trans (Precedes.clear .guide _)
  have hdrawn : l.store.Precedes (l.spots.foldl Drawing.addSpot l.sheet.blank).session.finish :=
    hblank.trans ((Precedes.foldl_addSpot l.spots (sound_blank hs')).trans (Precedes.finish _))
  have hsound := EditSession.sound_finish (Drawing.sound_foldl_addSpot l.spots (sound_blank hs'))
  unfold redraw
  refine Precedes.trans ?_ (precedes_highlightActive ?_)
  · exact hdrawn
  · exact hsound

theorem Repaint.precedes {l l' : Layer (MarkBoard α) α} {s : LayerStep α} (h : Repaint l s l')
    (hs : l.store.Ordered) : l.store.Precedes l'.store := by
  cases h with
  | keep _ _ hscene =>
      rw [store_of_scene hscene]
      exact Precedes.refl _
  | @draw _ _ spots _ _ hscene =>
      rw [store_of_scene hscene]
      exact precedes_redraw (l := { l with spots := spots }) hs
  | wipe _ _ hstore =>
      rw [hstore]
      exact precedes_redraw (l := { l with active := none, spots := [], failures := 0 }) hs
  | @choose guideId _ _ hscene =>
      rw [store_of_scene hscene]
      exact precedes_highlightActive
        (l := { l with active := if guideId = "" then none else some guideId }) hs
  | tap _ _ _ hscene =>
      rw [store_of_scene hscene]
      exact precedes_select hs _

/-- A tap is for the mark that its id names, if that is of the kind. -/
theorem tapped?_of_mark? {l : Layer (MarkBoard α) α} {id : MarkId} {m : Mark α}
    (h : l.store.mark? id = some m) (kind : MarkKind) :
    l.tapped? kind id = if m.kind = kind then some m else none := by
  have hmark : MarkStore.mark? id l.store = some m := h
  rw [tapped?, hmark]
  by_cases hkind : m.kind = kind <;> simp [hkind]

theorem tapped?_of_gone {l : Layer (MarkBoard α) α} {id : MarkId} (h : l.store.mark? id = none)
    (kind : MarkKind) : l.tapped? kind id = none := by
  have hmark : MarkStore.mark? id l.store = none := h
  rw [tapped?, hmark]
  rfl

variable [Scalar α] [Trig α]

/-! ### Runs -/

theorem ordered_run {l : Layer (MarkBoard α) α} (hs : l.store.Ordered)
    (steps : List (LayerStep α)) : (l.run steps).store.Ordered := by
  have hs' : LawfulMarkStore.Sound l.store := hs
  exact sound_run hs' steps

theorem precedes_run {l : Layer (MarkBoard α) α} (hs : l.store.Ordered)
    (steps : List (LayerStep α)) : l.store.Precedes (l.run steps).store := by
  induction steps using List.reverseRecOn with
  | nil => exact Precedes.refl _
  | append_singleton steps s ih =>
      rw [run_concat]
      exact ih.trans ((repaint_step (l.run steps) s).precedes (ordered_run hs steps))

/-- An id that named a mark names this mark later on, with nothing changed about it, or none. So
whoever taps an id of old taps the mark that it was got from, or nothing happens. -/
theorem tap_of_old_id {l : Layer (MarkBoard α) α} (hs : l.store.Ordered)
    (earlier later : List (LayerStep α)) {id : MarkId} {m : Mark α}
    (hm : (l.run earlier).store.mark? id = some m) {now : Layer (MarkBoard α) α}
    (hnow : now = l.run (earlier ++ later)) :
    (now.store.mark? id = some m ∨ now.store.mark? id = none) ∧
      now.step (.tapGuide id) =
        (if (now.store.mark? id).isSome ∧ m.kind = .guide then tellGallery false (now.select m)
        else now) ∧
      ∀ v, now.step (.tapCluster id v) =
        if (now.store.mark? id).isSome ∧ m.kind = .cluster ∧ now.observers.renderer then
          now.zoomTo v m
        else now := by
  have hprecedes : (l.run earlier).store.Precedes now.store := by
    rw [hnow, run_append]
    exact precedes_run (ordered_run hs earlier) later
  have hordered : now.store.Ordered := hnow ▸ ordered_run hs (earlier ++ later)
  have hnames := hprecedes.mark?_eq_or (ordered_run hs earlier) hordered hm
  refine ⟨hnames, ?_, ?_⟩
  · change now.tapGuide id = _
    rw [tapGuide_eq]
    rcases hnames with hthere | hgone
    · rw [tapped?_of_mark? hthere, hthere]
      by_cases hkind : m.kind = .guide <;> simp [hkind]
    · rw [tapped?_of_gone hgone, hgone]
      simp
  · intro v
    change now.tapCluster id v = _
    rw [tapCluster_eq]
    rcases hnames with hthere | hgone
    · rw [tapped?_of_mark? hthere, hthere]
      by_cases hkind : m.kind = .cluster <;> simp [hkind]
    · rw [tapped?_of_gone hgone, hgone]
      simp

/-- Three spots come twice. -/
def drawnOnce : List (LayerStep Float) :=
  [.setEnabled true, .updateViewport tile, .answer ⟨1, .ok threeSpots⟩]

def drawnAgain : List (LayerStep Float) := [.updateViewport wideTile, .answer ⟨2, .ok threeSpots⟩]

/-- The same guide is on the map again, and yet the id of its old mark does nothing. -/
theorem tap_of_old_id_drawnAgain :
    started.store.Ordered ∧ ∃ m, (started.run drawnOnce).store.mark? 0 = some m ∧ m.guideId = "a" ∧
      (started.run drawnOnce).step (.tapGuide 0) =
        tellGallery false ((started.run drawnOnce).select m) ∧
      (started.run (drawnOnce ++ drawnAgain)).step (.tapGuide 0) =
        started.run (drawnOnce ++ drawnAgain) ∧
      ((started.run (drawnOnce ++ drawnAgain)).store.marksOf .guide).map
        (fun m => (m.id, m.guideId)) = [(3, "a"), (5, "b")] := by
  have hs : started.store.Ordered := MarkBoard.ordered_empty
  have hseen : ((started.run drawnOnce).store.mark? 0).map (fun m => (m.kind, m.guideId)) =
      some (.guide, "a") := by
    decide +kernel
  have hgone : (started.run (drawnOnce ++ drawnAgain)).store.mark? 0 = none := by
    rw [← Option.isNone_iff_eq_none]
    decide +kernel
  obtain ⟨m, hm, hmark⟩ := Option.map_eq_some_iff.mp hseen
  obtain ⟨hkind, hid⟩ := Prod.mk.inj hmark
  have hbefore := (tap_of_old_id hs drawnOnce [] hm rfl).2.1
  have hafter := (tap_of_old_id hs drawnOnce drawnAgain hm rfl).2.1
  rw [List.append_nil, hm, if_pos ⟨rfl, hkind⟩] at hbefore
  rw [hgone, if_neg (fun h => nomatch h.1)] at hafter
  exact ⟨hs, m, hm, hid, hbefore, hafter, by decide +kernel⟩

end Layer

end GuideLayer
