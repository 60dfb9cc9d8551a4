import GuideLayer.Proofs.Canvas

/-!
What a layer did before it was switched off leaves traces: requests and numbers
that were given out, and what observers were told. A layer on a board of its
own does the same with such a past as without one. All it gives out goes on
from where the past ended, and whoever listens now hears of it.
-/

namespace GuideLayer

open LawfulMarkStore

variable {α : Type}

/-! ### With a past -/

namespace Stats

def plus (a b : Stats) : Stats :=
  { issued := a.issued + b.issued
    suppressed := a.suppressed + b.suppressed
    retries := a.retries + b.retries
    successes := a.successes + b.successes
    failures := a.failures + b.failures
    stale := a.stale + b.stale }

end Stats

namespace Observers

/-- The notice as the observers get it, if one of them follows such notices. -/
def hear (o : Observers) : Notice α → Option (Notice α)
  | .phase p _ => o.phase.map (.phase p)
  | .gallery reload _ => o.gallery.map (.gallery reload)
  | .zoom factor pixel animated => if o.renderer then some (.zoom factor pixel animated) else none

/-- The observers of what others follow. -/
def among (o others : Observers) : Observers :=
  { phase := others.phase.bind (fun _ => o.phase)
    gallery := others.gallery.bind (fun _ => o.gallery)
    renderer := others.renderer && o.renderer }

/-- The observers at a step, with the one that comes with it. -/
def joined (o : Observers) : LayerStep α → Observers
  | .observePhase label => { o with phase := some label }
  | .observeGallery label => { o with gallery := some label }
  | .attachRenderer => { o with renderer := true }
  | _ => o

end Observers

namespace Request

/-- The request when `n` generations were given out before. -/
def later (n : Nat) (r : Request α) : Request α := { r with generation := n + r.generation }

end Request

namespace Mark

/-- The mark when `n` ids and `i` indices were given out before. The highlight has no index. -/
def later (n i : Nat) (m : Mark α) : Mark α :=
  { m with
    id := n + m.id
    index := if m.kind = .selection then m.index else i + m.index }

end Mark

namespace MarkTags

/-- The tags for a mark of a kind when `i` indices were given out before. -/
def later (kind : MarkKind) (i : Nat) (tags : MarkTags) : MarkTags :=
  { tags with index := if kind = .selection then tags.index else tags.index.map (i + ·) }

end MarkTags

namespace Layer

/-- The board of a layer that comes after `d`. -/
def boardAfter (d : Layer (MarkBoard α) α) (b : MarkBoard α) : MarkBoard α :=
  { nextId := d.store.nextId + b.nextId
    byId := b.byId.shift d.store.nextId (Mark.later d.store.nextId d.lastIndex)
    downloaded := d.store.downloaded
    notifyCount := d.store.notifyCount + b.notifyCount }

/-- The layer with all that `d` has given out and told as its past. -/
def after (l d : Layer (MarkBoard α) α) : Layer (MarkBoard α) α :=
  { l with
    store := d.boardAfter l.store
    queue :=
      { pending := d.queue.pending ++ l.queue.pending.map (Request.later d.generation)
        issued := d.queue.issued + l.queue.issued }
    generation := d.generation + l.generation
    lastIndex := d.lastIndex + l.lastIndex
    stats := d.stats.plus l.stats
    observers := d.observers.among l.observers
    notices := d.notices ++ l.notices.filterMap d.observers.hear }

/-- What a board needs for the past not to matter: the same guides are on the device as in the
past. -/
def Suits (d : Layer (MarkBoard α) α) (b : MarkBoard α) : Prop :=
  ∀ guideId, b.hasDownloaded guideId = d.store.hasDownloaded guideId

variable (d : Layer (MarkBoard α) α)

@[simp] theorem marks_boardAfter (b : MarkBoard α) :
    (d.boardAfter b).marks = b.marks.map (Mark.later d.store.nextId d.lastIndex) :=
  KeyedMap.values_shift _ _ b.byId

/-! ### Sessions of edits -/

/-- The session on the board that comes after `d`. -/
def sessionAfter (e : EditSession (MarkBoard α)) : EditSession (MarkBoard α) :=
  ⟨d.boardAfter e.store, e.changed⟩

theorem clear_sessionAfter (kind : MarkKind) (e : EditSession (MarkBoard α)) :
    (d.sessionAfter e).clear kind = d.sessionAfter (e.clear kind) := by
  have hboard : (d.boardAfter e.store).clearGroup kind = d.boardAfter (e.store.clearGroup kind) := by
    unfold boardAfter MarkBoard.clearGroup
    rw [KeyedMap.retain_shift]
    rfl
  exact congrArg (fun b => EditSession.mk b true) hboard

theorem finish_sessionAfter (e : EditSession (MarkBoard α)) :
    (d.sessionAfter e).finish = d.boardAfter e.finish := by
  obtain ⟨b, changed⟩ := e
  cases changed <;> rfl

theorem mark?_boardAfter (id : MarkId) (b : MarkBoard α) :
    (d.boardAfter b).mark? (d.store.nextId + id) =
      (b.mark? id).map (Mark.later d.store.nextId d.lastIndex) :=
  KeyedMap.get?_shift _ _ id b.byId

theorem guideMark?_sessionAfter (guideId : String) (e : EditSession (MarkBoard α)) :
    guideMark? guideId (d.sessionAfter e) =
      (guideMark? guideId e).map (Mark.later d.store.nextId d.lastIndex) := by
  have hids : (d.sessionAfter e).markIds .guide =
      (e.markIds .guide).map (d.store.nextId + ·) := by
    change (((d.boardAfter e.store).marksOf .guide).map Mark.id) =
      ((e.store.marksOf .guide).map Mark.id).map (d.store.nextId + ·)
    unfold MarkBoard.marksOf
    rw [marks_boardAfter, List.filter_map, List.map_map, List.map_map]
    rfl
  have hmark : (d.sessionAfter e).mark? ∘ (d.store.nextId + ·) =
      fun id => (e.mark? id).map (Mark.later d.store.nextId d.lastIndex) :=
    funext fun id => d.mark?_boardAfter id e.store
  unfold guideMark?
  rw [hids, List.filterMap_map, hmark, ← List.map_filterMap, List.find?_map]
  rfl

/-- A tag for the index goes on the new mark only, so that it is shifted with the mark. -/
theorem create_sessionAfter (e : EditSession (MarkBoard α)) (kind : MarkKind) (pivot : Point α)
    (tags : MarkTags)
    (htags : kind ≠ .selection → tags.index.isSome) :
    (d.sessionAfter e).create kind pivot (tags.later kind d.lastIndex) =
      ((e.create kind pivot tags).1.map (d.store.nextId + ·),
        d.sessionAfter (e.create kind pivot tags).2) := by
  -- Without a tag for its index a mark of a guide would have the same index with any past.
  have hmade : Mark.tagged (tags.later kind d.lastIndex)
      { id := d.store.nextId + e.store.nextId, kind := kind, pivot := pivot } =
        (Mark.tagged tags { id := e.store.nextId, kind := kind, pivot := pivot }).later
          d.store.nextId d.lastIndex := by
    by_cases hkind : kind = .selection
    · simp [Mark.tagged, Mark.later, MarkTags.later, hkind]
    · obtain ⟨index, hindex⟩ := Option.isSome_iff_exists.mp (htags hkind)
      simp [Mark.tagged, Mark.later, MarkTags.later, hkind, hindex]
  rw [MarkBoard.create_eq, MarkBoard.create_eq]
  refine Prod.ext rfl ?_
  change EditSession.mk (MarkBoard.mk _ (KeyedMap.insert _ (Mark.tagged _ _) _) _ _) true =
    EditSession.mk (MarkBoard.mk _ (KeyedMap.shift _ _ _) _ _) true
  rw [← KeyedMap.insert_shift, ← hmade]
  rfl

/-! ### Marks -/

/-- The sheet of a layer that comes after `d`. -/
def drawingAfter (D : Drawing (MarkBoard α)) : Drawing (MarkBoard α) :=
  ⟨d.sessionAfter D.session, d.lastIndex + D.index, D.shown⟩

theorem addSpot_drawingAfter {D : Drawing (MarkBoard α)} (h : d.Suits D.session.store)
    (s : Spot α) : (d.drawingAfter D).addSpot s = d.drawingAfter (D.addSpot s) := by
  have hcatalog : (d.drawingAfter D).session.hasDownloaded s.guide.id =
      D.session.hasDownloaded s.guide.id := (h s.guide.id).symm
  unfold Drawing.addSpot
  rw [hcatalog]
  by_cases hcluster : s.isCluster = true
  · have hcreate := d.create_sessionAfter D.session .cluster s.point
      (Drawing.clusterTags (D.index + 1) s) (fun _ => rfl)
    rw [if_pos hcluster, if_pos hcluster]
    exact congrArg (fun made => Drawing.mk made.2 (d.lastIndex + D.index + 1) D.shown) hcreate
  · have hcreate := d.create_sessionAfter D.session .guide s.point
      (Drawing.guideTags (D.index + 1) (D.session.hasDownloaded s.guide.id) s) (fun _ => rfl)
    rw [if_neg hcluster, if_neg hcluster]
    have hmade := congrArg (fun made => Drawing.mk made.2 (d.lastIndex + D.index + 1)
      (if made.1.isSome then D.shown.insert s.guide.id else D.shown)) hcreate
    dsimp only at hmade
    rw [Option.isSome_map] at hmade
    exact hmade

/-- Making a mark leaves a board that suits. -/
theorem Suits.addSpot {d : Layer (MarkBoard α) α} {D : Drawing (MarkBoard α)}
    (h : d.Suits D.session.store) (s : Spot α) : d.Suits (D.addSpot s).session.store := by
  rw [Drawing.session_addSpot]
  exact fun g => (Drawing.hasDownloaded_make g D s).trans (h g)

theorem foldl_addSpot_drawingAfter (spots : List (Spot α)) {D : Drawing (MarkBoard α)}
    (h : d.Suits D.session.store) :
    spots.foldl Drawing.addSpot (d.drawingAfter D) =
      d.drawingAfter (spots.foldl Drawing.addSpot D) := by
  induction spots generalizing D with
  | nil => rfl
  | cons s spots ih =>
      rw [List.foldl_cons, List.foldl_cons, addSpot_drawingAfter d h, ih (h.addSpot s)]

theorem Suits.foldl_addSpot {d : Layer (MarkBoard α) α} (spots : List (Spot α))
    {D : Drawing (MarkBoard α)} (h : d.Suits D.session.store) :
    d.Suits (spots.foldl Drawing.addSpot D).session.store := by
  induction spots generalizing D with
  | nil => exact h
  | cons s spots ih => exact ih (h.addSpot s)

theorem Suits.clear {d : Layer (MarkBoard α) α} {e : EditSession (MarkBoard α)}
    (h : d.Suits e.store) (kind : MarkKind) : d.Suits (e.clear kind).store := h

theorem Suits.finish {d : Layer (MarkBoard α) α} {e : EditSession (MarkBoard α)}
    (h : d.Suits e.store) : d.Suits e.finish := by
  obtain ⟨b, changed⟩ := e
  cases changed <;> exact h

theorem activeMark?_after (l : Layer (MarkBoard α) α) :
    (l.after d).activeMark? =
      l.activeMark?.map (Mark.later d.store.nextId d.lastIndex) := by
  have hclear := d.clear_sessionAfter .selection ⟨l.store, false⟩
  change l.active.bind (fun g => guideMark? g ((d.sessionAfter ⟨l.store, false⟩).clear .selection)) =
    _
  simp only [hclear, guideMark?_sessionAfter, activeMark?, Option.map_bind]
  rfl

theorem deselect_after (l : Layer (MarkBoard α) α) :
    (l.after d).deselect = l.deselect.after d := by
  have hclear : (EditSession.clear .selection (d.sessionAfter ⟨l.store, false⟩)).finish =
      d.boardAfter (EditSession.clear .selection ⟨l.store, false⟩).finish := by
    rw [clear_sessionAfter, finish_sessionAfter]
  exact congrArg (fun b => { l.after d with store := b, active := none }) hclear

theorem select_after (l : Layer (MarkBoard α) α) (m : Mark α) :
    (l.after d).select (m.later d.store.nextId d.lastIndex) = (l.select m).after d := by
  let e : EditSession (MarkBoard α) := EditSession.clear .selection ⟨l.store, false⟩
  have hcreate := d.create_sessionAfter e .selection m.pivot {} nofun
  have hstore : ((EditSession.clear .selection (d.sessionAfter ⟨l.store, false⟩)).create .selection
      m.pivot {}).2.finish = d.boardAfter (e.create .selection m.pivot {}).2.finish := by
    rw [clear_sessionAfter, ← finish_sessionAfter]
    exact congrArg (fun made => made.2.finish) hcreate
  exact congrArg (fun b => { l.after d with store := b, active := some m.guideId }) hstore

theorem highlightActive_after (l : Layer (MarkBoard α) α) :
    (l.after d).highlightActive = l.highlightActive.after d := by
  rw [highlightActive_eq, highlightActive_eq, activeMark?_after]
  cases l.activeMark? with
  | none => exact d.deselect_after l
  | some m => exact d.select_after l m

theorem Suits.blank {d l : Layer (MarkBoard α) α} (h : d.Suits l.store) :
    d.Suits l.sheet.blank.session.store := by
  have hsheet : d.Suits l.sheet.session.store := h
  exact (hsheet.clear .cluster).clear .guide

theorem blank_after (l : Layer (MarkBoard α) α) :
    (l.after d).sheet.blank = d.drawingAfter l.sheet.blank := by
  have hclear : ((d.sessionAfter ⟨l.store, false⟩).clear .cluster).clear .guide =
      d.sessionAfter ((EditSession.clear .cluster ⟨l.store, false⟩).clear .guide) := by
    rw [clear_sessionAfter, clear_sessionAfter]
  exact congrArg (fun e => Drawing.mk e (d.lastIndex + l.lastIndex) l.shown) hclear

theorem redraw_after {l : Layer (MarkBoard α) α} (h : d.Suits l.store) :
    (l.after d).redraw = l.redraw.after d := by
  have hdrawn := d.foldl_addSpot_drawingAfter l.spots h.blank
  rw [← blank_after] at hdrawn
  let D := l.spots.foldl Drawing.addSpot l.sheet.blank
  have hmade : ({ l.after d with
      store := (l.spots.foldl Drawing.addSpot (l.after d).sheet.blank).session.finish
      lastIndex := (l.spots.foldl Drawing.addSpot (l.after d).sheet.blank).index
      shown := (l.spots.foldl Drawing.addSpot (l.after d).sheet.blank).shown } :
        Layer (MarkBoard α) α) =
      after { l with store := D.session.finish, lastIndex := D.index, shown := D.shown } d := by
    rw [hdrawn]
    unfold drawingAfter
    rw [finish_sessionAfter]
    rfl
  exact (congrArg highlightActive hmade).trans (d.highlightActive_after _)

theorem clear_after {l : Layer (MarkBoard α) α} (h : d.Suits l.store) :
    (l.after d).clear = l.clear.after d := by
  have h' : d.Suits (store { l with active := none, spots := [], failures := 0 }) := h
  exact d.redraw_after h'

/-! ### Boards that suit -/

theorem Suits.select {d l : Layer (MarkBoard α) α} (h : d.Suits l.store) (m : Mark α) :
    d.Suits (l.select m).store := by
  let e : EditSession (MarkBoard α) := EditSession.clear .selection ⟨l.store, false⟩
  have hmade : d.Suits (e.create .selection m.pivot {}).2.store :=
    fun g => (EditSession.hasDownloaded_create g .selection m.pivot {} e).trans (h g)
  exact hmade.finish

theorem Suits.highlightActive {d l : Layer (MarkBoard α) α} (h : d.Suits l.store) :
    d.Suits l.highlightActive.store := by
  rw [highlightActive_eq]
  cases l.activeMark? with
  | none => exact (h.clear (e := ⟨l.store, false⟩) .selection).finish
  | some m => exact h.select m

theorem Suits.redraw {d l : Layer (MarkBoard α) α} (h : d.Suits l.store) :
    d.Suits l.redraw.store :=
  Suits.highlightActive (h.blank.foldl_addSpot l.spots).finish

theorem Repaint.suits {d l l' : Layer (MarkBoard α) α} {s : LayerStep α} (h : Repaint l s l')
    (hl : d.Suits l.store) : d.Suits l'.store := by
  cases h with
  | keep _ _ hscene => rwa [store_of_scene hscene]
  | @draw _ _ spots _ _ hscene =>
      have hdrawn : d.Suits (redraw { l with spots := spots }).store := Suits.redraw hl
      rwa [store_of_scene hscene]
  | wipe _ _ hstore =>
      have hwiped : d.Suits l.clear.store := Suits.redraw hl
      rwa [hstore]
  | @choose guideId _ _ hscene =>
      have hmoved : d.Suits (store (highlightActive
          { l with active := if guideId = "" then none else some guideId })) :=
        Suits.highlightActive hl
      rwa [store_of_scene hscene]
  | @tap _ m _ _ _ _ hscene =>
      rw [store_of_scene hscene]
      exact hl.select m

/-! ### Steps -/

theorem tellPhase_after (p : Phase) (l : Layer (MarkBoard α) α) :
    tellPhase p (l.after d) = (tellPhase p l).after d := by
  cases hl : l.observers.phase <;> cases hd : d.observers.phase <;>
    simp [tellPhase, after, Observers.among, Observers.hear, hl, hd]

theorem tellGallery_after (reload : Bool) (l : Layer (MarkBoard α) α) :
    tellGallery reload (l.after d) = (tellGallery reload l).after d := by
  cases hl : l.observers.gallery <;> cases hd : d.observers.gallery <;>
    simp [tellGallery, after, Observers.among, Observers.hear, hl, hd]

theorem enter_after (p : Phase) (l : Layer (MarkBoard α) α) :
    (l.after d).enter p = (l.enter p).after d := by
  by_cases h : l.phase = p
  · rw [enter, enter, if_pos h]
    exact if_pos h
  · rw [enter, enter, if_neg h, ← tellPhase_after]
    exact if_neg h

theorem drop_after (l : Layer (MarkBoard α) α) : (l.after d).drop = l.drop.after d := by
  have hphase : (l.after d).phase = l.phase := rfl
  unfold drop
  rw [hphase]
  split <;> rfl

theorem setActive_after (guideId : String) (l : Layer (MarkBoard α) α) :
    (l.after d).setActive guideId = (l.setActive guideId).after d := by
  have hactive : (l.after d).active = l.active := rfl
  unfold setActive
  rw [hactive]
  split
  · rfl
  · exact d.highlightActive_after { l with active := if guideId = "" then none else some guideId }

theorem receive_after {l : Layer (MarkBoard α) α} (h : d.Suits l.store) (generation : Nat)
    (spots : List (Spot α)) :
    (l.after d).receive (d.generation + generation) spots =
      (l.receive generation spots).after d := by
  by_cases hacc : l.Accepts generation
  · have hacc' : (l.after d).Accepts (d.generation + generation) :=
      ⟨hacc.1, congrArg (d.generation + ·) hacc.2⟩
    let l₁ : Layer (MarkBoard α) α := { l with
      stats := { l.stats with successes := l.stats.successes + 1 }
      spots := spots
      failures := 0 }
    have henter := d.enter_after (if spots.isEmpty then .noData else .hasData) l₁
    have hsuits : d.Suits (l₁.enter (if spots.isEmpty then .noData else .hasData)).store := by
      rwa [store_of_scene (scene_enter _ l₁)]
    rw [receive, receive, if_pos hacc, if_pos hacc', ← tellGallery_after, ← redraw_after d hsuits,
      ← henter]
    rfl
  · have hacc' : ¬(l.after d).Accepts (d.generation + generation) :=
      fun h => hacc ⟨h.1, Nat.add_left_cancel h.2⟩
    rw [receive, receive, if_neg hacc, if_neg hacc', drop_after]

theorem tapped_after (kind : MarkKind) (id : MarkId) (l : Layer (MarkBoard α) α) :
    (MarkStore.mark? (d.store.nextId + id) (l.after d).store).filter
        (fun m => decide (m.kind = kind)) =
      ((MarkStore.mark? id l.store).filter (fun m => decide (m.kind = kind))).map
        (Mark.later d.store.nextId d.lastIndex) := by
  have hmark : MarkStore.mark? (d.store.nextId + id) (l.after d).store =
      (MarkStore.mark? id l.store).map (Mark.later d.store.nextId d.lastIndex) :=
    d.mark?_boardAfter id l.store
  rw [hmark, Option.filter_map]
  rfl

theorem tapGuide_after (id : MarkId) (l : Layer (MarkBoard α) α) :
    (l.after d).tapGuide (d.store.nextId + id) = (l.tapGuide id).after d := by
  unfold tapGuide
  rw [tapped_after]
  cases (MarkStore.mark? id l.store).filter (fun m => decide (m.kind = .guide)) with
  | none => rfl
  | some m =>
      rw [Option.map_some]
      change tellGallery false ((l.after d).select (m.later d.store.nextId d.lastIndex)) =
        (tellGallery false (l.select m)).after d
      rw [select_after, tellGallery_after]

section Requests

variable [Scalar α]

theorem request_after (l : Layer (MarkBoard α) α) : (l.after d).request = l.request.after d := by
  have hcamera : (l.after d).usableCamera? = l.usableCamera? := rfl
  unfold request
  rw [hcamera]
  cases l.usableCamera? with
  | none => rfl
  | some c =>
      have hqueue : (l.after d).queue.send
          ⟨d.generation + l.generation + 1, c.viewport.visible, c.zoom⟩ =
            (after { l with
              queue := l.queue.send ⟨l.generation + 1, c.viewport.visible, c.zoom⟩ } d).queue := by
        simp [RequestQueue.send, after, Request.later, Nat.add_assoc]
      exact congrArg (fun q => { l.after d with
        generation := d.generation + l.generation + 1
        stats := { d.stats.plus l.stats with issued := d.stats.issued + l.stats.issued + 1 }
        queue := q }) hqueue

theorem reconnect_after (l : Layer (MarkBoard α) α) :
    (l.after d).reconnect = l.reconnect.after d := by
  have hphase : (l.after d).phase = l.phase := rfl
  unfold reconnect
  rw [hphase]
  split
  · rw [enter_after, request_after]
  · rfl

theorem updateViewport_after [Trig α] (c : Camera α) (l : Layer (MarkBoard α) α) :
    (l.after d).updateViewport c = (l.updateViewport c).after d := by
  have hphase : (l.after d).phase = l.phase := rfl
  have hcamera : (l.after d).usableCamera? = l.usableCamera? := rfl
  have hsettings : (l.after d).settings = l.settings := rfl
  unfold updateViewport
  rw [hphase, hcamera, hsettings]
  split
  · rfl
  split
  · rfl
  split
  · exact d.request_after (l.record c)
  split
  · rfl
  · exact d.request_after (l.record c)

theorem setEnabled_after {l : Layer (MarkBoard α) α} (h : d.Suits l.store) (on : Bool) :
    (l.after d).setEnabled on = (l.setEnabled on).after d := by
  have hphase : (l.after d).phase = l.phase := rfl
  unfold setEnabled
  rw [hphase]
  split
  · rfl
  split
  · rw [enter_after, request_after]
  · rw [clear_after d h, enter_after]
    rfl

theorem fail_after {l : Layer (MarkBoard α) α} (h : d.Suits l.store) (generation : Nat) :
    (l.after d).fail (d.generation + generation) = (l.fail generation).after d := by
  by_cases hacc : l.Accepts generation
  · have hacc' : (l.after d).Accepts (d.generation + generation) :=
      ⟨hacc.1, congrArg (d.generation + ·) hacc.2⟩
    let l₁ : Layer (MarkBoard α) α := { l with
      stats := { l.stats with failures := l.stats.failures + 1 }
      failures := l.failures + 1 }
    have hsuits : d.Suits l₁.store := h
    rw [fail, fail, if_pos hacc, if_pos hacc']
    by_cases hspent : l.settings.attempts ≤ l.failures + 1
    · have hspent' : (l.after d).settings.attempts ≤ (l.after d).failures + 1 := hspent
      simp only [if_pos hspent, if_pos hspent', ← tellGallery_after, ← enter_after]
      exact congrArg (fun m : Layer (MarkBoard α) α => (m.enter .fatalNetworkError).tellGallery true)
        (d.clear_after hsuits)
    · have hspent' : ¬(l.after d).settings.attempts ≤ (l.after d).failures + 1 := hspent
      -- The retry is counted after the phase is entered.
      have henter := d.enter_after .networkError l₁
      simp only [if_neg hspent, if_neg hspent', ← request_after]
      exact congrArg
        (fun m : Layer (MarkBoard α) α =>
          request { m with stats := { m.stats with retries := m.stats.retries + 1 } }) henter
  · have hacc' : ¬(l.after d).Accepts (d.generation + generation) :=
      fun h => hacc ⟨h.1, Nat.add_left_cancel h.2⟩
    rw [fail, fail, if_neg hacc, if_neg hacc', drop_after]

theorem tapCluster_after [Trig α] (id : MarkId) (v : Viewport α) (l : Layer (MarkBoard α) α) :
    (l.after d).tapCluster (d.store.nextId + id) v = (l.tapCluster id v).after d := by
  unfold tapCluster
  rw [tapped_after]
  cases (MarkStore.mark? id l.store).filter (fun m => decide (m.kind = .cluster)) with
  | none => rfl
  | some m =>
      cases hl : l.observers.renderer <;> cases hd : d.observers.renderer <;>
        simp [after, Observers.among, Observers.hear, hl, hd, Mark.later]

end Requests

/-- A step of what comes after `d`. It speaks of requests and marks by their places among those
that come after `d`. -/
def laterStep : LayerStep α → LayerStep α
  | .answer a => .answer ⟨d.generation + a.generation, a.result⟩
  | .tapGuide id => .tapGuide (d.store.nextId + id)
  | .tapCluster id v => .tapCluster (d.store.nextId + id) v
  | s => s

/-- The layer after `d` takes a step as it would without a past, and who listens at this step hears
of it. -/
theorem step_after [Scalar α] [Trig α] {l : Layer (MarkBoard α) α} (h : d.Suits l.store)
    (hquiet : l.notices = []) (s : LayerStep α) :
    (l.after d).step (d.laterStep s) =
      (l.step s).after { d with observers := d.observers.joined s } := by
  cases s with
  | setEnabled on => exact d.setEnabled_after h on
  | reconnect => exact d.reconnect_after l
  | updateViewport c => exact d.updateViewport_after c l
  | setActive guideId => exact d.setActive_after guideId l
  | tapGuide id => exact d.tapGuide_after id l
  | tapCluster id v => exact d.tapCluster_after id v l
  | setLocale locale => rfl
  | answer a =>
      obtain ⟨generation, result⟩ := a
      cases result with
      | ok spots => exact d.receive_after h generation spots
      | error e => exact d.fail_after h generation
  | observePhase label =>
      simp [step, laterStep, observePhase, tellPhase, after, boardAfter, hquiet, Observers.among,
        Observers.joined, Observers.hear]
  | observeGallery label =>
      simp [step, laterStep, observeGallery, after, boardAfter, hquiet, Observers.among,
        Observers.joined]
  | attachRenderer =>
      simp [step, laterStep, attachRenderer, after, boardAfter, hquiet, Observers.among,
        Observers.joined]

end Layer

end GuideLayer
