import GuideLayer.Proofs.Drawing
import GuideLayer.Proofs.Transition

/-!
What a step can do to the map: to the marks, to the highlight with the active
guide, and to the list of guides that were shown. As with requests there is a
table, and whatever is to hold of the map along all runs is checked row by
row. Guides that come are drawn, a layer that closes is wiped clean, the
highlight goes where it is told to, and everything else leaves the map alone.
-/

namespace GuideLayer

namespace Layer

variable {σ α : Type}

theorem phase_enter (p : Phase) (l : Layer σ α) : (l.enter p).phase = p :=
  congrArg Layer.phase (bare_enter p l)

theorem phase_tellPhase (p : Phase) (l : Layer σ α) :
    (tellPhase p l).phase = l.phase := by
  unfold tellPhase
  split <;> rfl

theorem phase_tellGallery (reload : Bool) (l : Layer σ α) :
    (tellGallery reload l).phase = l.phase := by
  unfold tellGallery
  split <;> rfl

theorem phase_drop (l : Layer σ α) : l.drop.phase = l.phase := by
  unfold drop
  split <;> rfl

theorem phase_highlightActive [MarkStore σ α] (l : Layer σ α) :
    l.highlightActive.phase = l.phase := by
  have hbare := congrArg Layer.phase (bare_highlightActive l)
  exact hbare

theorem spots_enter (p : Phase) (l : Layer σ α) : (l.enter p).spots = l.spots := by
  have hbare := congrArg Layer.spots (bare_enter p l)
  exact hbare

/-- A layer is switched off, or gives up. -/
def Closes (l l' : Layer σ α) : Prop := l'.phase ≠ l.phase ∧ l'.phase.isPaused = true

instance (l l' : Layer σ α) : Decidable (l.Closes l') :=
  inferInstanceAs (Decidable (l'.phase ≠ l.phase ∧ l'.phase.isPaused = true))

theorem not_closes_of_phase_eq {l l' : Layer σ α} (h : l'.phase = l.phase) : ¬l.Closes l' :=
  fun hcloses => hcloses.1 h

theorem not_closes_of_active {l l' : Layer σ α} (h : l'.phase.isPaused = false) :
    ¬l.Closes l' := by
  rintro ⟨-, hpaused⟩
  rw [h] at hpaused
  cases hpaused

/-- A layer that is off and did not close just now was off before. -/
theorem off_of_not_closes {l l' : Layer σ α} (hopen : ¬l.Closes l') (hoff : l'.phase = .disabled) :
    l.phase = .disabled := by
  by_contra hon
  exact hopen ⟨by rw [hoff]; exact Ne.symm hon, by rw [hoff]; rfl⟩

/-- Guides come in answer to the latest request, and the layer takes them. -/
def Succeeds (l : Layer σ α) (s : LayerStep α) (spots : List (Spot α)) : Prop :=
  ∃ a, s = .answer a ∧ a.result = .ok spots ∧ l.Accepts a.generation

theorem ne_disabled_of_succeeds {l : Layer σ α} {s : LayerStep α} {spots : List (Spot α)}
    (h : l.Succeeds s spots) : l.phase ≠ .disabled := by
  obtain ⟨a, -, -, hacc⟩ := h
  exact ((Phase.isPaused_eq_false_iff l.phase).mp hacc.1).1

variable [MarkStore σ α]

theorem step_of_succeeds [Scalar α] [Trig α] {l : Layer σ α} {s : LayerStep α}
    {spots : List (Spot α)} (h : l.Succeeds s spots) :
    ∃ generation, l.Accepts generation ∧ l.step s = l.receive generation spots := by
  obtain ⟨a, rfl, hresult, hacc⟩ := h
  refine ⟨a.generation, hacc, ?_⟩
  change l.handle a = _
  rw [handle, hresult]

/-! ### Scenes -/

/-- Where the highlight goes depends on the marks and on the active guide only. -/
theorem scene_highlightActive_congr {l l' : Layer σ α} (h : l'.scene = l.scene) :
    l'.highlightActive.scene = l.highlightActive.scene := by
  have hstore := store_of_scene h
  have hactive := active_of_scene h
  have hindex := lastIndex_of_scene h
  have hshown := shown_of_scene h
  unfold highlightActive
  rw [hstore, hactive]
  dsimp only
  split
  · simp only [scene, sheet, hindex, hshown]
  · split <;> simp only [scene, sheet, hindex, hshown]

theorem scene_redraw_congr {l l' : Layer σ α} (h : l'.scene = l.scene)
    (hspots : l'.spots = l.spots) : l'.redraw.scene = l.redraw.scene := by
  have hactive := active_of_scene h
  have hblank : l'.sheet.blank = l.sheet.blank := congrArg Drawing.blank (sheet_of_scene h)
  have hdrawn : l'.spots.foldl Drawing.addSpot l'.sheet.blank =
      l.spots.foldl Drawing.addSpot l.sheet.blank := by
    rw [hspots, hblank]
  unfold redraw
  apply scene_highlightActive_congr
  exact congrArg₂ (fun d a => ((⟨⟨d.session.finish, false⟩, d.index, d.shown⟩ : Drawing σ), a))
    hdrawn hactive

theorem shown_highlightActive (l : Layer σ α) : l.highlightActive.shown = l.shown := by
  unfold highlightActive
  dsimp only
  split
  · rfl
  · split <;> rfl

theorem shown_redraw (l : Layer σ α) :
    l.redraw.shown = (l.spots.foldl Drawing.addSpot l.sheet.blank).shown := by
  unfold redraw
  rw [shown_highlightActive]
  rfl

theorem shown_clear (l : Layer σ α) : l.clear.shown = l.shown := shown_redraw _

theorem lastIndex_clear (l : Layer σ α) : l.clear.lastIndex = l.lastIndex := lastIndex_redraw _

theorem active_clear (l : Layer σ α) : l.clear.active = none := rfl

/-- The highlight put under a mark, and its guide made active. -/
def select (m : Mark α) (l : Layer σ α) : Layer σ α :=
  { l with
    store := ((EditSession.clear .selection ⟨l.store, false⟩).create .selection m.pivot {}).2.finish
    active := some m.guideId }

/-- The highlight taken away, and no guide left active. -/
def deselect (l : Layer σ α) : Layer σ α :=
  { l with
    store := (EditSession.clear .selection ⟨l.store, false⟩).finish
    active := none }

/-- The first mark of the active guide. -/
def activeMark? (l : Layer σ α) : Option (Mark α) :=
  l.active.bind (fun g => guideMark? g (EditSession.clear .selection ⟨l.store, false⟩))

theorem highlightActive_eq (l : Layer σ α) :
    l.highlightActive = l.activeMark?.elim l.deselect (fun m => l.select m) := by
  rcases l with ⟨settings, store, queue, phase, camera, spots, active⟩
  cases active with
  | none => rfl
  | some guideId =>
      cases hmark : guideMark? guideId (EditSession.clear .selection ⟨store, false⟩) with
      | none => simp [highlightActive, activeMark?, deselect, hmark]
      | some m =>
          have hid : m.guideId = guideId := by simpa using List.find?_some hmark
          simp [highlightActive, activeMark?, select, hmark, hid]

/-! ### The table -/

/-- What a step may do to the map. -/
inductive Repaint (l : Layer σ α) : LayerStep α → Layer σ α → Prop
  | keep {s : LayerStep α} {l' : Layer σ α} : (∀ spots, ¬l.Succeeds s spots) → ¬l.Closes l' →
      l'.scene = l.scene → Repaint l s l'
  | draw {s : LayerStep α} {l' : Layer σ α} {spots : List (Spot α)} : l.Succeeds s spots →
      ¬l.Closes l' → l'.scene = (redraw { l with spots := spots }).scene → Repaint l s l'
  | wipe {s : LayerStep α} {l' : Layer σ α} : (∀ spots, ¬l.Succeeds s spots) → l.Closes l' →
      l'.store = l.clear.store → l'.active = none → l'.lastIndex = l.lastIndex →
      l'.shown = (if l'.phase = .disabled then [] else l.shown) → Repaint l s l'
  | choose {guideId : String} {l' : Layer σ α} : l'.phase = l.phase →
      l'.scene =
        (highlightActive
          { l with active := if guideId = "" then none else some guideId }).scene →
      Repaint l (.setActive guideId) l'
  | tap {id : MarkId} {m : Mark α} {l' : Layer σ α} : MarkStore.mark? id l.store = some m →
      m.kind = .guide → l'.phase = l.phase → l'.scene = (l.select m).scene →
      Repaint l (.tapGuide id) l'

omit [MarkStore σ α] in
/-- Steps that are no answers bring no guides. -/
theorem not_succeeds {l : Layer σ α} {s : LayerStep α} (h : ∀ a, s ≠ .answer a)
    (spots : List (Spot α)) : ¬l.Succeeds s spots := by
  rintro ⟨a, rfl, -⟩
  exact h a rfl

theorem Repaint.of_same {l l' : Layer σ α} {s : LayerStep α} (hno : ∀ spots, ¬l.Succeeds s spots)
    (hphase : l'.phase = l.phase) (hscene : l'.scene = l.scene) : Repaint l s l' :=
  .keep hno (not_closes_of_phase_eq hphase) hscene

theorem repaint_setActive (guideId : String) (l : Layer σ α) :
    Repaint l (.setActive guideId) (l.setActive guideId) := by
  by_cases hsame : l.active.getD "" = guideId
  · have hstays : l.setActive guideId = l := if_pos hsame
    rw [hstays]
    exact .of_same (not_succeeds nofun) rfl rfl
  · have hmoved : l.setActive guideId =
        highlightActive { l with active := if guideId = "" then none else some guideId } :=
      if_neg hsame
    rw [hmoved]
    exact .choose (phase_highlightActive _) rfl

theorem repaint_tapGuide (id : MarkId) (l : Layer σ α) :
    Repaint l (.tapGuide id) (l.tapGuide id) := by
  unfold tapGuide
  split
  · exact .of_same (not_succeeds nofun) rfl rfl
  · rename_i m hfound
    obtain ⟨hmark, hkind⟩ := Option.filter_eq_some_iff.mp hfound
    exact .tap hmark (of_decide_eq_true hkind) (phase_tellGallery _ _) (scene_tellGallery _ _)

/-- Guides that come are drawn on the map as it was. The phase, which is entered first, does not
matter for that. -/
theorem scene_receive {l : Layer σ α} {generation : Nat} (hacc : l.Accepts generation)
    (spots : List (Spot α)) :
    (l.receive generation spots).scene = (redraw { l with spots := spots }).scene := by
  let l₁ : Layer σ α := { l with
    stats := { l.stats with successes := l.stats.successes + 1 }
    spots := spots
    failures := 0 }
  have hreceive : l.receive generation spots =
      tellGallery true (l₁.enter (if spots.isEmpty then .noData else .hasData)).redraw :=
    if_pos hacc
  rw [hreceive, scene_tellGallery]
  exact scene_redraw_congr (scene_enter _ l₁) (spots_enter _ l₁)

theorem isPaused_receive {l : Layer σ α} {generation : Nat} (hacc : l.Accepts generation)
    (spots : List (Spot α)) : (l.receive generation spots).phase.isPaused = false := by
  have hphase : (l.receive generation spots).phase =
      if spots.isEmpty then .noData else .hasData := by
    change (l.receive generation spots).bare.phase = _
    simp only [receive, if_pos hacc, bare_tellGallery, bare_redraw, bare_enter]
  rw [hphase]
  split <;> rfl

theorem repaint_drop {l : Layer σ α} {a : Answer α} (hacc : ¬l.Accepts a.generation) :
    Repaint l (.answer a) l.drop := by
  refine .of_same ?_ (phase_drop l) (scene_drop l)
  rintro spots ⟨a', heq, -, hacc'⟩
  cases heq
  exact hacc hacc'

variable [Scalar α]

/-- Asking again after a pause. -/
theorem repaint_resume {l : Layer σ α} {s : LayerStep α} (hno : ∀ spots, ¬l.Succeeds s spots) :
    Repaint l s (l.enter .enabled).request := by
  refine .keep hno (not_closes_of_active ?_) ?_
  · rw [phase_request, phase_enter]
    rfl
  · rw [scene_request, scene_enter]

theorem repaint_setEnabled (on : Bool) (l : Layer σ α) :
    Repaint l (.setEnabled on) (l.setEnabled on) := by
  by_cases hsame : on = l.phase.isEnabled
  · have hstays : l.setEnabled on = l := if_pos hsame
    rw [hstays]
    exact .of_same (not_succeeds nofun) rfl rfl
  cases on with
  | true =>
      have hon : l.setEnabled true = (l.enter .enabled).request := if_neg hsame
      rw [hon]
      exact repaint_resume (not_succeeds nofun)
  | false =>
      have hoff : l.setEnabled false = { l.clear.enter .disabled with shown := [] } :=
        if_neg hsame
      have hphase : (l.setEnabled false).phase = .disabled := by
        rw [hoff]
        exact phase_enter .disabled l.clear
      have hscene : (l.clear.enter .disabled).scene = l.clear.scene := scene_enter _ _
      have hcloses : l.Closes (l.setEnabled false) := by
        refine ⟨?_, by rw [hphase]; rfl⟩
        intro heq
        rw [← heq, hphase] at hsame
        exact hsame rfl
      have hstore := store_of_scene hscene
      have hactive := (active_of_scene hscene).trans (active_clear l)
      have hindex := (lastIndex_of_scene hscene).trans (lastIndex_clear l)
      refine .wipe (not_succeeds nofun) hcloses ?_ ?_ ?_ ?_
      · rwa [hoff]
      · rwa [hoff]
      · rwa [hoff]
      · rw [hphase, if_pos rfl, hoff]

theorem repaint_fail {l : Layer σ α} {a : Answer α} (hacc : l.Accepts a.generation)
    {e : FetchError} (hresult : a.result = .error e) :
    Repaint l (.answer a) (l.fail a.generation) := by
  let l₁ : Layer σ α := { l with
    stats := { l.stats with failures := l.stats.failures + 1 }
    failures := l.failures + 1 }
  have hno : ∀ spots, ¬l.Succeeds (.answer a) spots := by
    rintro spots ⟨a', heq, hok, -⟩
    cases heq
    rw [hresult] at hok
    cases hok
  by_cases hspent : l.settings.attempts ≤ l.failures + 1
  · -- The layer gives up, and what observers are told after that leaves the scene alone.
    have hfail : l.fail a.generation = tellGallery true (l₁.clear.enter .fatalNetworkError) := by
      simp only [fail, if_pos hacc]
      exact if_pos hspent
    have hphase : (l.fail a.generation).phase = .fatalNetworkError := by
      rw [hfail, phase_tellGallery, phase_enter]
    have hscene : (l.fail a.generation).scene = l.clear.scene := by
      have hclear : l₁.clear.scene = l.clear.scene := scene_redraw_congr rfl rfl
      rw [hfail, scene_tellGallery, scene_enter, hclear]
    have hcloses : l.Closes (l.fail a.generation) := by
      rw [Closes, hphase]
      exact ⟨((Phase.isPaused_eq_false_iff l.phase).mp hacc.1).2.symm, rfl⟩
    refine .wipe hno hcloses (store_of_scene hscene) ?_ ?_ ?_
    · exact (active_of_scene hscene).trans (active_clear l)
    · exact (lastIndex_of_scene hscene).trans (lastIndex_clear l)
    · rw [hphase, if_neg (by decide)]
      exact (shown_of_scene hscene).trans (shown_clear l)
  · let l₂ := l₁.enter .networkError
    let l₃ : Layer σ α := { l₂ with stats := { l₂.stats with retries := l₂.stats.retries + 1 } }
    have hfail : l.fail a.generation = l₃.request := by
      simp only [fail, if_pos hacc]
      exact if_neg hspent
    have hphase : l₃.phase = .networkError := phase_enter _ l₁
    have hscene : l₃.scene = l.scene := scene_enter .networkError l₁
    refine .keep hno (not_closes_of_active ?_) ?_
    · rw [hfail, phase_request, hphase]
      rfl
    · rw [hfail, scene_request, hscene]

theorem repaint_answer (a : Answer α) (l : Layer σ α) : Repaint l (.answer a) (l.handle a) := by
  by_cases hacc : l.Accepts a.generation
  · unfold handle
    cases hresult : a.result with
    | ok spots =>
        exact .draw ⟨a, rfl, hresult, hacc⟩ (not_closes_of_active (isPaused_receive hacc spots))
          (scene_receive hacc spots)
    | error e => exact repaint_fail hacc hresult
  · rw [handle_of_not_accepts hacc]
    exact repaint_drop hacc

variable [Trig α]

theorem repaint_updateViewport (c : Camera α) (l : Layer σ α) :
    Repaint l (.updateViewport c) (l.updateViewport c) := by
  have hstay : Repaint l (.updateViewport c) l := .of_same (not_succeeds nofun) rfl rfl
  have hask : Repaint l (.updateViewport c) (l.record c).request :=
    .of_same (not_succeeds nofun) (phase_request _) (scene_request _)
  unfold updateViewport
  split
  · exact .of_same (not_succeeds nofun) rfl rfl
  split
  · exact hstay
  split
  · exact hask
  split
  · exact .of_same (not_succeeds nofun) rfl rfl
  · exact hask

/-- Every step is in the table. -/
theorem repaint_step (l : Layer σ α) (s : LayerStep α) : Repaint l s (l.step s) := by
  cases s with
  | setEnabled on => exact repaint_setEnabled on l
  | reconnect =>
      by_cases hfatal : l.phase = .fatalNetworkError
      · have hagain : l.step .reconnect = (l.enter .enabled).request := if_pos hfatal
        rw [hagain]
        exact repaint_resume (not_succeeds nofun)
      · have hstays : l.step .reconnect = l := if_neg hfatal
        rw [hstays]
        exact .of_same (not_succeeds nofun) rfl rfl
  | updateViewport c => exact repaint_updateViewport c l
  | setActive guideId => exact repaint_setActive guideId l
  | tapGuide id => exact repaint_tapGuide id l
  | tapCluster id v =>
      change Repaint l _ (l.tapCluster id v)
      unfold tapCluster
      split
      · exact .of_same (not_succeeds nofun) rfl rfl
      · split <;> exact .of_same (not_succeeds nofun) rfl rfl
  | observePhase label =>
      exact .of_same (not_succeeds nofun) (phase_tellPhase _ _) (scene_tellPhase l.phase _)
  | setLocale | observeGallery | attachRenderer => exact .of_same (not_succeeds nofun) rfl rfl
  | answer a => exact repaint_answer a l

end Layer

end GuideLayer
