import GuideLayer.Proofs.Highlight
import GuideLayer.Proofs.Prehistory
import GuideLayer.Proofs.Service
import GuideLayer.Proofs.Shown
import GuideLayer.Url.AsciiNames

/-!
Switching off ends a session. What is left of it in a layer that is off are
numbers that only count on, requests that were asked, and what observers were
told; none of it decides anything later. So two layers that are off, with the
same settings, the same recorded viewport and the same guides on the device, go
on alike, whatever happened to them before.
-/

namespace GuideLayer

open LawfulMarkStore

namespace Layer

variable {α : Type}

/-! ### Layers that are off -/

/-- Nothing is left of a session. -/
structure Erased (l : Layer (MarkBoard α) α) : Prop where
  spots : l.spots = []
  active : l.active = none
  shown : l.shown = []
  failures : l.failures = 0
  marks : l.store.marks = []

theorem marks_clear {l : Layer (MarkBoard α) α} (hs : l.store.Ordered) :
    l.clear.store.marks = [] := by
  have hs' : Sound l.store := hs
  have hwiped : l.clear.Highlighted := highlighted_redraw hs
  have hdark := hwiped.dark (active_clear l)
  have hspots := spotMarks_clear hs'
  rw [List.eq_nil_iff_forall_not_mem]
  intro m hm
  by_cases hkind : m.kind = .selection
  · have hmem : m ∈ l.clear.store.marksOf .selection :=
      List.mem_filter.mpr ⟨hm, decide_eq_true hkind⟩
    rw [hdark] at hmem
    exact List.not_mem_nil hmem
  · have hmem : m ∈ spotMarks l.clear.store := List.mem_filter.mpr ⟨hm, decide_eq_true hkind⟩
    rw [hspots] at hmem
    exact List.not_mem_nil hmem

/-- Without marks nothing can be made active. -/
theorem highlightActive_of_no_marks {l : Layer (MarkBoard α) α} (h : l.store.marks = []) :
    l.highlightActive.active = none ∧ l.highlightActive.store.marks = [] := by
  have hnone : l.activeMark? = none := by
    rw [Option.eq_none_iff_forall_ne_some]
    intro m hm
    have hmem := mem_of_activeMark?_eq_some (.of_empty h) hm
    simp [MarkBoard.marksOf, h] at hmem
  rw [highlightActive_eq, hnone]
  refine ⟨rfl, (MarkBoard.marks_clearGroup .selection l.store).trans ?_⟩
  rw [h]
  rfl

/-- A layer that is off has no marks and no active guide. -/
theorem Repaint.erases {l l' : Layer (MarkBoard α) α} {s : LayerStep α} (h : Repaint l s l')
    (hs : l.store.Ordered)
    (hl : l.phase = .disabled → l.active = none ∧ l.store.marks = [])
    (hoff : l'.phase = .disabled) : l'.active = none ∧ l'.store.marks = [] := by
  cases h with
  | keep _ hopen hscene =>
      rw [active_of_scene hscene, store_of_scene hscene]
      exact hl (off_of_not_closes hopen hoff)
  | draw hsucceeds hopen =>
      exact absurd (off_of_not_closes hopen hoff) (ne_disabled_of_succeeds hsucceeds)
  | wipe _ _ hstore hactive =>
      rw [hstore]
      exact ⟨hactive, marks_clear hs⟩
  | choose hphase hscene =>
      rw [active_of_scene hscene, store_of_scene hscene]
      exact highlightActive_of_no_marks (hl (hphase.symm.trans hoff)).2
  | tap hmark _ hphase =>
      have hmem := MarkBoard.mem_of_mark?_eq_some hmark
      rw [(hl (hphase.symm.trans hoff)).2] at hmem
      exact absurd hmem List.not_mem_nil

variable [Scalar α] [Trig α]

/-- A layer that is off has no spots and counts no failures. -/
theorem Transition.erases {m m' : Layer Unit α} {s : LayerStep α} (h : Transition m s m')
    (hm : m.phase = .disabled → m.spots = [] ∧ m.failures = 0) (hoff : m'.phase = .disabled) :
    m'.spots = [] ∧ m'.failures = 0 := by
  by_cases hon : m.phase = .disabled
  · have hpaused : m.phase.isPaused = true := by rw [hon]; rfl
    cases h with
    | switchOff | exhaust => exact ⟨rfl, rfl⟩
    | switchOn | reconnect | retry =>
        rw [phase_request] at hoff
        cases hoff
    | look hactive => exact absurd (hpaused.symm.trans hactive) Bool.noConfusion
    | success hacc => exact absurd (hpaused.symm.trans hacc.1) Bool.noConfusion
    | _ => exact hm hon
  · rw [h.of_switches_off hon hoff]
    exact ⟨rfl, rfl⟩

theorem erased_step {l : Layer (MarkBoard α) α} (hs : l.store.Ordered) (htidy : l.Tidy)
    (hl : l.phase = .disabled → l.Erased) (s : LayerStep α) (hoff : (l.step s).phase = .disabled) :
    (l.step s).Erased := by
  have hs' : Sound l.store := hs
  obtain ⟨hspots, hfailures⟩ :=
    (transition_step l s).erases (fun h => ⟨(hl h).spots, (hl h).failures⟩) hoff
  obtain ⟨hactive, hmarks⟩ :=
    (repaint_step l s).erases hs (fun h => ⟨(hl h).active, (hl h).marks⟩) hoff
  exact ⟨hspots, hactive, (tidy_step hs' htidy s).off hoff, hfailures, hmarks⟩

/-- Nothing is left of any session in a layer that is off. -/
theorem erased_run {l : Layer (MarkBoard α) α} (hl : l.Fresh) (hnone : l.store.marks = [])
    (steps : List (LayerStep α)) (hoff : (l.run steps).phase = .disabled) :
    (l.run steps).Erased := by
  have hs : Sound l.store := MarkBoard.Ordered.of_empty hnone
  have hstart : l.Erased := by
    rw [hl]
    exact ⟨rfl, rfl, rfl, rfl, hnone⟩
  have htidy : l.Tidy := ⟨hstart.shown ▸ List.nodup_nil, fun _ => hstart.shown⟩
  induction steps using List.reverseRecOn with
  | nil => exact hstart
  | append_singleton steps s ih =>
      rw [run_concat] at hoff ⊢
      exact erased_step (sound_run hs steps) (tidy_run hs htidy steps) ih s hoff

/-! ### Two sessions -/

/-- `d` with what `r`, which came after it, has told, and with those who listen to `r` now. -/
def upTo (d r : Layer (MarkBoard α) α) : Layer (MarkBoard α) α :=
  { d with
    observers := r.observers
    notices := r.notices }

/-- The layer with nothing told yet and with observers of everything. -/
def watched (l : Layer (MarkBoard α) α) : Layer (MarkBoard α) α :=
  { l with
    observers := ⟨some 0, some 0, true⟩
    notices := [] }

/-- The layer `r` is `l` with `d` as its past. In `l` requests are numbered from one. -/
structure Resumes (d l r : Layer (MarkBoard α) α) : Prop where
  suits : d.Suits l.store
  orderly : l.bare.Orderly
  eq : r = l.watched.after (d.upTo r)

omit [Trig α] in
theorem resumes_of_eq_after {d l r : Layer (MarkBoard α) α} {o : Observers}
    {told : List (Notice α)} (hsuits : d.Suits l.store) (horderly : l.bare.Orderly)
    (h : r = l.after { d with observers := o, notices := told }) : Resumes d l r := by
  refine ⟨hsuits, horderly, ?_⟩
  rw [h]
  simp [watched, after, upTo, boardAfter, Observers.among]

omit [Trig α] in
/-- Nothing but its past is left of a layer that is off. -/
theorem Erased.resumes {d : Layer (MarkBoard α) α} (h : d.Erased) (hoff : d.phase = .disabled)
    {downloaded : List String}
    (hcatalog : ∀ g, downloaded.contains g = d.store.hasDownloaded g) :
    Resumes d
      { settings := d.settings
        store := { downloaded := downloaded }
        camera := d.camera } d := by
  refine ⟨hcatalog, ⟨rfl, nofun, nofun⟩, ?_⟩
  obtain ⟨settings, ⟨nextId, byId, saved, notifyCount⟩, queue, phase, camera, spots, active, shown,
    generation, failures, lastIndex, stats, observers, notices⟩ := d
  obtain ⟨rfl, rfl, rfl, rfl, hmarks⟩ := h
  have hempty : byId = .empty := MarkBoard.byId_of_no_marks hmarks
  subst hempty
  cases hoff
  simp [watched, after, upTo, boardAfter, Observers.among, Stats.plus]

/-- What came after `d` goes on as without it. What it tells of a step is heard by those who listen
then. -/
theorem Resumes.step {d l r : Layer (MarkBoard α) α} (h : Resumes d l r) (s : LayerStep α) :
    Resumes d (l.watched.step s) (r.step (d.laterStep s)) ∧
      (r.step (d.laterStep s)).notices =
        r.notices ++ (l.watched.step s).notices.filterMap (r.observers.joined s).hear := by
  have hsuits : d.Suits l.watched.store := h.suits
  -- What was told meanwhile does not matter for where numbers go on.
  have hlater : (d.upTo r).laterStep s = d.laterStep s := by cases s <;> rfl
  have hstep := (d.upTo r).step_after (l := l.watched) hsuits rfl s
  rw [← h.eq, hlater] at hstep
  refine ⟨resumes_of_eq_after ?_ ?_ hstep, congrArg Layer.notices hstep⟩
  · exact (repaint_step l.watched s).suits hsuits
  · have horderly : l.watched.bare.Orderly := h.orderly
    exact horderly.transition (transition_step l.watched s)

/-- What comes of a layer that is off when a session follows. Requests and marks are meant by their
places in the session. -/
def follow (d : Layer (MarkBoard α) α) (steps : List (LayerStep α)) : Layer (MarkBoard α) α :=
  d.run (steps.map d.laterStep)

theorem follow_concat (d : Layer (MarkBoard α) α) (steps : List (LayerStep α)) (s : LayerStep α) :
    d.follow (steps ++ [s]) = (d.follow steps).step (d.laterStep s) := by
  unfold follow
  rw [List.map_append, List.map_singleton, run_concat]

theorem Resumes.follow {d d' l : Layer (MarkBoard α) α} (h : Resumes d l d)
    (h' : Resumes d' l d') (steps : List (LayerStep α)) :
    ∃ m, Resumes d m (d.follow steps) ∧ Resumes d' m (d'.follow steps) := by
  induction steps using List.reverseRecOn with
  | nil => exact ⟨l, h, h'⟩
  | append_singleton steps s ih =>
      obtain ⟨m, hm, hm'⟩ := ih
      rw [follow_concat, follow_concat]
      exact ⟨m.watched.step s, (hm.step s).1, (hm'.step s).1⟩

section

variable [HostNames]

/-- The layers `r` and `r'` are at the same place in sessions that came after `d` and `d'`. They
show the same, and what they asked for, made and counted differs only by what `d` and `d'` had
before. Of any step that follows they have the same news for those who listen to them then. -/
structure Alike (d d' r r' : Layer (MarkBoard α) α) : Prop where
  phase : r.phase = r'.phase
  settings : r.settings = r'.settings
  camera : r.camera = r'.camera
  active : r.active = r'.active
  shown : r.shown = r'.shown
  spots : r.spots = r'.spots
  failures : r.failures = r'.failures
  gallery : r.gallery = r'.gallery
  requests : ∃ asked : List (Request α),
    asked.map Request.generation = List.range' 1 asked.length ∧
      r.queue.pending = d.queue.pending ++ asked.map (Request.later d.generation) ∧
      r'.queue.pending = d'.queue.pending ++ asked.map (Request.later d'.generation)
  marks : ∃ marks : List (Mark α),
    r.store.marks = marks.map (Mark.later d.store.nextId d.lastIndex) ∧
      r'.store.marks = marks.map (Mark.later d'.store.nextId d'.lastIndex)
  generation : ∃ n, r.generation = d.generation + n ∧ r'.generation = d'.generation + n
  issued : ∃ n, r.queue.issued = d.queue.issued + n ∧ r'.queue.issued = d'.queue.issued + n
  nextId : ∃ n, r.store.nextId = d.store.nextId + n ∧ r'.store.nextId = d'.store.nextId + n
  lastIndex : ∃ n, r.lastIndex = d.lastIndex + n ∧ r'.lastIndex = d'.lastIndex + n
  notifyCount : ∃ n, r.store.notifyCount = d.store.notifyCount + n ∧
    r'.store.notifyCount = d'.store.notifyCount + n
  stats : ∃ more, r.stats = d.stats.plus more ∧ r'.stats = d'.stats.plus more
  told : ∀ s, ∃ news : List (Notice α),
    (r.step (d.laterStep s)).notices = r.notices ++ news.filterMap (r.observers.joined s).hear ∧
      (r'.step (d'.laterStep s)).notices =
        r'.notices ++ news.filterMap (r'.observers.joined s).hear

theorem Resumes.alike {d d' l r r' : Layer (MarkBoard α) α} (h : Resumes d l r)
    (h' : Resumes d' l r') : Alike d d' r r' := by
  have hgallery {d r : Layer (MarkBoard α) α} (h : Resumes d l r) : r.gallery = l.gallery := by
    have hcatalog : (fun g => d.store.hasDownloaded g) = fun g => l.store.hasDownloaded g :=
      funext fun g => (h.suits g).symm
    have heq := congrArg gallery h.eq
    exact heq.trans
      (congrArg (fun c => Gallery.build l.settings.gallery l.shown.length c l.spots) hcatalog)
  have hnumbered : l.queue.pending.map Request.generation =
      List.range' 1 l.queue.pending.length := by
    have hcount : l.queue.pending.length = l.generation := h.orderly.numbered.length_pending
    rw [hcount]
    exact h.orderly.numbered
  have hmarks {d r : Layer (MarkBoard α) α} (h : Resumes d l r) :
      r.store.marks = l.store.marks.map (Mark.later d.store.nextId d.lastIndex) := by
    have heq := congrArg (fun m => m.store.marks) h.eq
    exact heq.trans (marks_boardAfter _ l.store)
  exact {
    phase := (congrArg Layer.phase h.eq).trans (congrArg Layer.phase h'.eq).symm
    settings := (congrArg Layer.settings h.eq).trans (congrArg Layer.settings h'.eq).symm
    camera := (congrArg Layer.camera h.eq).trans (congrArg Layer.camera h'.eq).symm
    active := (congrArg Layer.active h.eq).trans (congrArg Layer.active h'.eq).symm
    shown := (congrArg Layer.shown h.eq).trans (congrArg Layer.shown h'.eq).symm
    spots := (congrArg Layer.spots h.eq).trans (congrArg Layer.spots h'.eq).symm
    failures := (congrArg Layer.failures h.eq).trans (congrArg Layer.failures h'.eq).symm
    gallery := (hgallery h).trans (hgallery h').symm
    requests := ⟨l.queue.pending, hnumbered, congrArg (fun m => m.queue.pending) h.eq,
      congrArg (fun m => m.queue.pending) h'.eq⟩
    marks := ⟨l.store.marks, hmarks h, hmarks h'⟩
    generation := ⟨l.generation, congrArg Layer.generation h.eq, congrArg Layer.generation h'.eq⟩
    issued := ⟨l.queue.issued, congrArg (fun m => m.queue.issued) h.eq,
      congrArg (fun m => m.queue.issued) h'.eq⟩
    nextId := ⟨l.store.nextId, congrArg (fun m => m.store.nextId) h.eq,
      congrArg (fun m => m.store.nextId) h'.eq⟩
    lastIndex := ⟨l.lastIndex, congrArg Layer.lastIndex h.eq, congrArg Layer.lastIndex h'.eq⟩
    notifyCount := ⟨l.store.notifyCount, congrArg (fun m => m.store.notifyCount) h.eq,
      congrArg (fun m => m.store.notifyCount) h'.eq⟩
    stats := ⟨l.stats, congrArg Layer.stats h.eq, congrArg Layer.stats h'.eq⟩
    told := fun s => ⟨_, (h.step s).2, (h'.step s).2⟩ }

/-- Two layers that are off, of which nothing is left but settings, the recorded viewport and the
guides on the device, go on alike. -/
theorem alike_follow {l l' : Layer (MarkBoard α) α} (hl : l.Fresh) (hl' : l'.Fresh)
    (hnone : l.store.marks = []) (hnone' : l'.store.marks = [])
    {before before' : List (LayerStep α)} (hoff : (l.run before).phase = .disabled)
    (hoff' : (l'.run before').phase = .disabled)
    (hsettings : (l.run before).settings = (l'.run before').settings)
    (hcamera : (l.run before).camera = (l'.run before').camera)
    (hcatalog : ∀ g, (l.run before).store.hasDownloaded g = (l'.run before').store.hasDownloaded g)
    (steps : List (LayerStep α)) :
    Alike (l.run before) (l'.run before') ((l.run before).follow steps)
      ((l'.run before').follow steps) := by
  have herased := erased_run hl hnone before hoff
  have herased' := erased_run hl' hnone' before' hoff'
  have hresumes := herased.resumes hoff (fun _ => rfl)
  have hresumes' := herased'.resumes hoff' hcatalog
  -- Both go on from one layer without a past.
  rw [← hsettings, ← hcamera] at hresumes'
  obtain ⟨m, hm, hm'⟩ := hresumes.follow hresumes' steps
  exact hm.alike hm'

end

/-- A session with three spots, one of which is tapped, and its end. -/
def pastSession : List (LayerStep Float) :=
  [.setEnabled true, .updateViewport tile, .answer ⟨1, .ok threeSpots⟩, .tapGuide 0,
    .setEnabled false]

/-- A new layer with other observers. -/
def overheard : Layer (MarkBoard Float) Float :=
  { started with observers := { gallery := some 7, renderer := true } }

theorem fresh_overheard : overheard.Fresh := rfl

/-- The layer is switched on, gets its answer, and the last mark that is made is tapped. -/
def nextSession : List (LayerStep Float) :=
  [.setEnabled true, .answer ⟨1, .ok threeSpots⟩, .tapGuide 2]

section

attribute [local instance] HostNames.ascii

theorem alike_follow_nextSession :
    (started.run pastSession).generation = 1 ∧
      (overheard.run [.updateViewport tile]).generation = 0 ∧
      ((started.run pastSession).follow nextSession).active = some "b" ∧
      Alike (started.run pastSession) (overheard.run [.updateViewport tile])
        ((started.run pastSession).follow nextSession)
        ((overheard.run [.updateViewport tile]).follow nextSession) := by
  have hdownloaded : (started.run pastSession).store.downloaded =
      (overheard.run [.updateViewport tile]).store.downloaded := by
    decide +kernel
  refine ⟨by decide +kernel, by decide +kernel, by decide +kernel, ?_⟩
  exact alike_follow fresh_started fresh_overheard rfl rfl (by decide +kernel) (by decide +kernel)
    (by decide +kernel) (by decide +kernel)
    (fun g => congrArg (fun ids => ids.contains g) hdownloaded) nextSession

end

end Layer

end GuideLayer
