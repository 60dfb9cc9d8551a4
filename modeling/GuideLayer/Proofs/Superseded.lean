import GuideLayer.Proofs.Transition

/-!
Superseded answers have no effect. An answer is superseded when it comes to a
layer that takes none, or when it is not to the latest request. A run and the
same run without these answers end alike in everything but one number: how many
answers were dropped. The only real obligation is that no step looks at that
number, so that what is done after a dropped answer is done as without it.
-/

namespace GuideLayer

namespace Layer

variable {σ α : Type}

/-- The layer as if `n` more answers had been dropped. -/
def addStale (n : Nat) (l : Layer σ α) : Layer σ α :=
  { l with stats := { l.stats with stale := l.stats.stale + n } }

theorem addStale_addStale (m n : Nat) (l : Layer σ α) :
    (l.addStale m).addStale n = l.addStale (m + n) := by
  simp only [addStale, Nat.add_assoc]

/-! ### No step looks at the number of dropped answers -/

theorem tellPhase_addStale (n : Nat) (p : Phase) (l : Layer σ α) :
    tellPhase p (l.addStale n) = (tellPhase p l).addStale n := by
  cases h : l.observers.phase <;> simp only [tellPhase, addStale, h]

theorem tellGallery_addStale (n : Nat) (reload : Bool) (l : Layer σ α) :
    tellGallery reload (l.addStale n) = (tellGallery reload l).addStale n := by
  cases h : l.observers.gallery <;> simp only [tellGallery, addStale, h]

theorem enter_addStale (n : Nat) (p : Phase) (l : Layer σ α) :
    (l.addStale n).enter p = (l.enter p).addStale n := by
  by_cases h : l.phase = p
  · rw [enter, enter, if_pos h]
    exact if_pos h
  · rw [enter, enter, if_neg h, ← tellPhase_addStale]
    exact if_neg h

theorem drop_addStale (n : Nat) (l : Layer σ α) :
    (l.addStale n).drop = l.drop.addStale n := by
  have hphase : (l.addStale n).phase = l.phase := rfl
  unfold drop
  rw [hphase]
  split
  · rfl
  · simp only [addStale, Nat.add_right_comm]

section Requests

variable [Scalar α]

theorem request_addStale (n : Nat) (l : Layer σ α) :
    (l.addStale n).request = l.request.addStale n := by
  have hcamera : (l.addStale n).usableCamera? = l.usableCamera? := rfl
  unfold request
  rw [hcamera]
  cases l.usableCamera? <;> rfl

theorem reconnect_addStale (n : Nat) (l : Layer σ α) :
    (l.addStale n).reconnect = l.reconnect.addStale n := by
  have hphase : (l.addStale n).phase = l.phase := rfl
  unfold reconnect
  rw [hphase]
  split
  · rw [enter_addStale, request_addStale]
  · rfl

theorem updateViewport_addStale [Trig α] (n : Nat) (c : Camera α) (l : Layer σ α) :
    (l.addStale n).updateViewport c = (l.updateViewport c).addStale n := by
  have hphase : (l.addStale n).phase = l.phase := rfl
  have hcamera : (l.addStale n).usableCamera? = l.usableCamera? := rfl
  have hsettings : (l.addStale n).settings = l.settings := rfl
  unfold updateViewport
  rw [hphase, hcamera, hsettings]
  split
  · rfl
  split
  · rfl
  split
  · rw [← request_addStale]
    rfl
  split
  · rfl
  · rw [← request_addStale]
    rfl

end Requests

section Marks

variable [MarkStore σ α]

theorem highlightActive_addStale (n : Nat) (l : Layer σ α) :
    (l.addStale n).highlightActive = l.highlightActive.addStale n := by
  cases h : l.active with
  | none => simp only [highlightActive, addStale, h]
  | some guideId =>
      cases hm : guideMark? guideId (EditSession.clear .selection ⟨l.store, false⟩) with
      | none => simp only [highlightActive, addStale, h, hm]
      | some m => simp only [highlightActive, addStale, h, hm]

theorem redraw_addStale (n : Nat) (l : Layer σ α) :
    (l.addStale n).redraw = l.redraw.addStale n := by
  unfold redraw
  rw [← highlightActive_addStale]
  rfl

theorem clear_addStale (n : Nat) (l : Layer σ α) :
    (l.addStale n).clear = l.clear.addStale n := by
  unfold clear
  rw [← redraw_addStale]
  rfl

theorem setActive_addStale (n : Nat) (guideId : String) (l : Layer σ α) :
    (l.addStale n).setActive guideId = (l.setActive guideId).addStale n := by
  have hactive : (l.addStale n).active = l.active := rfl
  unfold setActive
  rw [hactive]
  split
  · rfl
  · rw [← highlightActive_addStale]
    rfl

theorem tapGuide_addStale (n : Nat) (id : MarkId) (l : Layer σ α) :
    (l.addStale n).tapGuide id = (l.tapGuide id).addStale n := by
  have hstore : (l.addStale n).store = l.store := rfl
  unfold tapGuide
  rw [hstore]
  split
  · rfl
  · rw [← tellGallery_addStale]
    rfl

theorem receive_addStale (n generation : Nat) (spots : List (Spot α)) (l : Layer σ α) :
    (l.addStale n).receive generation spots = (l.receive generation spots).addStale n := by
  by_cases hacc : l.Accepts generation
  · have hacc' : (l.addStale n).Accepts generation := hacc
    rw [receive, receive, if_pos hacc, if_pos hacc', ← tellGallery_addStale, ← redraw_addStale,
      ← enter_addStale]
    rfl
  · have hacc' : ¬(l.addStale n).Accepts generation := hacc
    rw [receive, receive, if_neg hacc, if_neg hacc', drop_addStale]

variable [Scalar α]

theorem tapCluster_addStale [Trig α] (n : Nat) (id : MarkId) (v : Viewport α) (l : Layer σ α) :
    (l.addStale n).tapCluster id v = (l.tapCluster id v).addStale n := by
  have hstore : (l.addStale n).store = l.store := rfl
  have hobservers : (l.addStale n).observers = l.observers := rfl
  unfold tapCluster
  rw [hstore, hobservers]
  split
  · rfl
  · split <;> rfl

theorem setEnabled_addStale (n : Nat) (on : Bool) (l : Layer σ α) :
    (l.addStale n).setEnabled on = (l.setEnabled on).addStale n := by
  have hphase : (l.addStale n).phase = l.phase := rfl
  unfold setEnabled
  rw [hphase]
  split
  · rfl
  split
  · rw [enter_addStale, request_addStale]
  · rw [clear_addStale, enter_addStale]
    rfl

theorem fail_addStale (n generation : Nat) (l : Layer σ α) :
    (l.addStale n).fail generation = (l.fail generation).addStale n := by
  by_cases hacc : l.Accepts generation
  · have hacc' : (l.addStale n).Accepts generation := hacc
    rw [fail, fail, if_pos hacc, if_pos hacc']
    by_cases hspent : l.settings.attempts ≤ l.failures + 1
    · have hspent' : (l.addStale n).settings.attempts ≤ (l.addStale n).failures + 1 := hspent
      simp only [if_pos hspent, if_pos hspent', ← tellGallery_addStale, ← enter_addStale,
        ← clear_addStale]
      rfl
    · have hspent' : ¬(l.addStale n).settings.attempts ≤ (l.addStale n).failures + 1 := hspent
      -- The retry is counted after the phase is entered, in between two changes of the numbers.
      have henter := enter_addStale n .networkError
        { l with
          stats := { l.stats with failures := l.stats.failures + 1 }
          failures := l.failures + 1 }
      simp only [if_neg hspent, if_neg hspent', ← request_addStale]
      exact congrArg
        (fun m : Layer σ α =>
          request { m with stats := { m.stats with retries := m.stats.retries + 1 } }) henter
  · have hacc' : ¬(l.addStale n).Accepts generation := hacc
    rw [fail, fail, if_neg hacc, if_neg hacc', drop_addStale]

theorem handle_addStale (n : Nat) (a : Answer α) (l : Layer σ α) :
    (l.addStale n).handle a = (l.handle a).addStale n := by
  unfold handle
  cases a.result with
  | ok spots => exact receive_addStale n a.generation spots l
  | error e => exact fail_addStale n a.generation l

variable [Trig α]

theorem step_addStale (n : Nat) (s : LayerStep α) (l : Layer σ α) :
    (l.addStale n).step s = (l.step s).addStale n := by
  cases s with
  | setEnabled on => exact setEnabled_addStale n on l
  | reconnect => exact reconnect_addStale n l
  | updateViewport c => exact updateViewport_addStale n c l
  | setActive guideId => exact setActive_addStale n guideId l
  | tapGuide id => exact tapGuide_addStale n id l
  | tapCluster id v => exact tapCluster_addStale n id v l
  | setLocale locale => rfl
  | answer a => exact handle_addStale n a l
  | observePhase label =>
      exact tellPhase_addStale n l.phase
        { l with observers := { l.observers with phase := some label } }
  | observeGallery label => rfl
  | attachRenderer => rfl

/-- A run does the same however many answers were dropped before. -/
theorem run_addStale (n : Nat) (steps : List (LayerStep α)) (l : Layer σ α) :
    (l.addStale n).run steps = (l.run steps).addStale n := by
  induction steps generalizing l with
  | nil => rfl
  | cons s steps ih =>
      change ((l.addStale n).step s).run steps = ((l.step s).run steps).addStale n
      rw [step_addStale, ih]

end Marks

/-! ### Runs without superseded answers -/

/-- The layer takes no answers at all. -/
def Deaf (l : Layer σ α) : Prop := l.phase = .disabled ∨ l.phase = .fatalNetworkError

instance (l : Layer σ α) : Decidable l.Deaf :=
  inferInstanceAs (Decidable (l.phase = .disabled ∨ l.phase = .fatalNetworkError))

/-- The step is an answer to a layer that takes none, or not to the latest request. The number of
the latest request is zero before the first one. -/
def Superseded (l : Layer σ α) : LayerStep α → Prop
  | .answer a => l.Deaf ∨ a.generation ≠ l.generation
  | _ => False

instance (l : Layer σ α) (s : LayerStep α) : Decidable (l.Superseded s) :=
  match s with
  | .answer a => inferInstanceAs (Decidable (l.Deaf ∨ a.generation ≠ l.generation))
  | .setEnabled _ | .reconnect | .updateViewport _ | .setActive _ | .tapGuide _ | .tapCluster _ _
  | .setLocale _ | .observePhase _ | .observeGallery _ | .attachRenderer =>
    inferInstanceAs (Decidable False)

theorem superseded_answer_iff (l : Layer σ α) (a : Answer α) :
    l.Superseded (.answer a) ↔ ¬l.Accepts a.generation := by
  have hdeaf : l.Deaf ↔ l.phase.isPaused = true := (Phase.isPaused_eq_true_iff l.phase).symm
  change l.Deaf ∨ a.generation ≠ l.generation ↔
    ¬(l.phase.isPaused = false ∧ a.generation = l.generation)
  rw [hdeaf, not_and_or, Bool.not_eq_false]

variable [MarkStore σ α] [Scalar α] [Trig α]

/-- A superseded answer is dropped, and is not even counted by a layer that takes no answers. -/
theorem step_of_superseded {l : Layer σ α} {s : LayerStep α} (h : l.Superseded s) :
    l.step s = l.addStale (if l.Deaf then 0 else 1) := by
  cases s with
  | answer a =>
      have hdrop : l.step (.answer a) = l.drop :=
        handle_of_not_accepts ((superseded_answer_iff l a).mp h)
      rw [hdrop, drop]
      by_cases hdeaf : l.Deaf
      · rw [if_pos ((Phase.isPaused_eq_true_iff l.phase).mpr hdeaf), if_pos hdeaf]
        rfl
      · rw [if_neg (mt (Phase.isPaused_eq_true_iff l.phase).mp hdeaf), if_neg hdeaf]
        rfl
  | setEnabled | reconnect | updateViewport | setActive | tapGuide | tapCluster | setLocale
  | observePhase | observeGallery | attachRenderer => exact h.elim

/-- The steps of a run without the answers that are superseded when they come. -/
def prune (l : Layer σ α) : List (LayerStep α) → List (LayerStep α)
  | [] => []
  | s :: steps => if l.Superseded s then prune (l.step s) steps else s :: prune (l.step s) steps

/-- How many superseded answers of a run come to a layer that takes answers. -/
def countStale (l : Layer σ α) : List (LayerStep α) → Nat
  | [] => 0
  | s :: steps => (if l.Superseded s ∧ ¬l.Deaf then 1 else 0) + countStale (l.step s) steps

/-- A run and the same run without its superseded answers end with the same layer, have asked the
same things of the service and told the same to everybody. Only the number of dropped answers
differs, by those that came to a layer that takes answers. -/
theorem run_eq_addStale_run_prune (l : Layer σ α) (steps : List (LayerStep α)) :
    l.run steps = (l.run (l.prune steps)).addStale (l.countStale steps) := by
  induction steps generalizing l with
  | nil => rfl
  | cons s steps ih =>
      change (l.step s).run steps = _
      by_cases h : l.Superseded s
      · have hprune : l.prune (s :: steps) = (l.step s).prune steps := if_pos h
        have hcount : l.countStale (s :: steps) =
            (if l.Deaf then 0 else 1) + (l.step s).countStale steps := by
          rw [countStale]
          by_cases hdeaf : l.Deaf <;> simp [h, hdeaf]
        rw [hprune, hcount, ← addStale_addStale, ← run_addStale, ← step_of_superseded h]
        exact ih (l.step s)
      · have hprune : l.prune (s :: steps) = s :: (l.step s).prune steps := if_neg h
        have hcount : l.countStale (s :: steps) = (l.step s).countStale steps := by
          rw [countStale, if_neg (fun hs => h hs.1), Nat.zero_add]
        rw [hprune, hcount]
        exact ih (l.step s)

end Layer

end GuideLayer
