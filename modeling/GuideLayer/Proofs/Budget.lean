import GuideLayer.Proofs.Transition

/-!
The guides a layer holds, its phase and its count of failures, read off from
what happened to it. Guides are those of the last success, failures are counted
since then, and both are forgotten when the layer is switched off or gives up.
Neither holds alone along a run: that nothing is counted outside of the phase
of a retry is what makes a layer start from zero when it comes back.
-/

namespace GuideLayer

variable {σ α : Type}

namespace LayerStep

/-- How the step switches the layer. -/
def switch? : LayerStep α → Option Bool
  | .setEnabled on => some on
  | _ => none

/-- How the layer was switched last. -/
def lastSwitch (steps : List (LayerStep α)) : Option Bool := (steps.filterMap switch?).getLast?

theorem lastSwitch_concat (steps : List (LayerStep α)) (s : LayerStep α) :
    lastSwitch (steps ++ [s]) = s.switch?.or (lastSwitch steps) := by
  unfold lastSwitch
  rw [List.filterMap_append, List.getLast?_append]
  cases h : s.switch? <;> simp [h]

end LayerStep

namespace Layer

/-! ### What happened -/

/-- What may happen to the guides and the count of failures of a layer. -/
inductive Outcome (α : Type) where
  /-- An answer with guides was accepted. -/
  | success (spots : List (Spot α))
  /-- A failure was accepted. -/
  | failure
  /-- The layer was switched off or gave up. -/
  | clearing

namespace Outcome

def isFailure : Outcome α → Bool
  | failure => true
  | _ => false

def isClearing : Outcome α → Bool
  | clearing => true
  | _ => false

def spots? : Outcome α → Option (List (Spot α))
  | success spots => some spots
  | _ => none

/-- The guides of the last success since the last clearing. -/
def standing (h : List (Outcome α)) : List (Spot α) :=
  ((h.reverse.takeWhile (fun o => !o.isClearing)).findSome? spots?).getD []

/-- How many failures there were since the last success or clearing. -/
def strikes (h : List (Outcome α)) : Nat := (h.reverse.takeWhile isFailure).length

@[simp] theorem standing_nil : standing ([] : List (Outcome α)) = [] := rfl

@[simp] theorem standing_success (h : List (Outcome α)) (spots : List (Spot α)) :
    standing (h ++ [success spots]) = spots := by
  simp [standing, isClearing, List.findSome?_cons, spots?]

@[simp] theorem standing_failure (h : List (Outcome α)) :
    standing (h ++ [failure]) = standing h := by
  simp [standing, isClearing, List.findSome?_cons, spots?]

@[simp] theorem standing_clearing (h : List (Outcome α)) : standing (h ++ [clearing]) = [] := by
  simp [standing, isClearing]

@[simp] theorem strikes_nil : strikes ([] : List (Outcome α)) = 0 := rfl

@[simp] theorem strikes_success (h : List (Outcome α)) (spots : List (Spot α)) :
    strikes (h ++ [success spots]) = 0 := by
  simp [strikes, isFailure]

@[simp] theorem strikes_failure (h : List (Outcome α)) :
    strikes (h ++ [failure]) = strikes h + 1 := by
  simp [strikes, List.takeWhile_cons, isFailure]

@[simp] theorem strikes_clearing (h : List (Outcome α)) : strikes (h ++ [clearing]) = 0 := by
  simp [strikes, isFailure]

end Outcome

open Outcome LayerStep

/-- What an accepted answer reports. -/
def reported (l : Layer σ α) : LayerStep α → List (Outcome α)
  | .answer a =>
    if l.Accepts a.generation then
      match a.result with
      | .ok spots => [.success spots]
      | .error _ => [.failure]
    else []
  | _ => []

/-- The outcomes of a step that leads from one layer to another. -/
def outcomes (l : Layer σ α) (s : LayerStep α) (l' : Layer σ α) : List (Outcome α) :=
  l.reported s ++
    if l'.phase ≠ l.phase ∧ l'.phase.isPaused = true then [.clearing] else []

section Run

variable [MarkStore σ α] [Scalar α] [Trig α]

/-- The outcomes of a run in their order. -/
def history (l : Layer σ α) : List (LayerStep α) → List (Outcome α)
  | [] => []
  | s :: steps => l.outcomes s (l.step s) ++ history (l.step s) steps

theorem history_concat (l : Layer σ α) (steps : List (LayerStep α)) (s : LayerStep α) :
    l.history (steps ++ [s]) =
      l.history steps ++ (l.run steps).outcomes s (l.run (steps ++ [s])) := by
  rw [run_concat]
  induction steps generalizing l with
  | nil => simp [history, run]
  | cons t steps ih =>
      have hrun : l.run (t :: steps) = (l.step t).run steps := rfl
      rw [List.cons_append, history, history, ih, hrun, List.append_assoc]

end Run

theorem reported_success {l : Layer σ α} {a : Answer α} (hacc : l.Accepts a.generation)
    {spots : List (Spot α)} (hresult : a.result = .ok spots) :
    l.reported (.answer a) = [.success spots] := by
  simp [reported, hacc, hresult]

theorem reported_failure {l : Layer σ α} {a : Answer α} (hacc : l.Accepts a.generation)
    {e : FetchError} (hresult : a.result = .error e) : l.reported (.answer a) = [.failure] := by
  simp [reported, hacc, hresult]

theorem outcomes_of_same {l l' : Layer σ α} {s : LayerStep α} (hphase : l'.phase = l.phase) :
    l.outcomes s l' = l.reported s := by
  simp [outcomes, hphase]

theorem outcomes_of_active {l l' : Layer σ α} {s : LayerStep α}
    (hactive : l'.phase.isPaused = false) : l.outcomes s l' = l.reported s := by
  simp [outcomes, hactive]

theorem outcomes_of_pause {l l' : Layer σ α} {s : LayerStep α} (hphase : l'.phase ≠ l.phase)
    (hpaused : l'.phase.isPaused = true) : l.outcomes s l' = l.reported s ++ [.clearing] := by
  simp [outcomes, hphase, hpaused]

/-! ### The invariant -/

/-- The data of a layer agree with its phase, with how it was switched and with what happened. -/
structure Tallied (attempts : Nat) (switch : Option Bool) (h : List (Outcome α))
    (l : Layer σ α) : Prop where
  attempts_eq : l.settings.attempts = attempts
  off_iff : l.phase = .disabled ↔ switch ≠ some true
  spots_eq : l.spots = standing h
  spots_ne : l.phase = .hasData → l.spots ≠ []
  spots_nil : l.phase ≠ .hasData → l.phase ≠ .networkError → l.spots = []
  failures_eq : l.failures = strikes h
  failures_lt : l.failures < attempts
  failures_pos : 0 < l.failures ↔ l.phase = .networkError

section Tallied

variable {attempts : Nat} {switch : Option Bool} {h : List (Outcome α)}

/-- A layer that pauses has nothing left. -/
theorem tallied_of_paused {l : Layer σ α} (hattempts : l.settings.attempts = attempts)
    (hpos : 0 < attempts) (hpaused : l.phase.isPaused = true)
    (hoff : l.phase = .disabled ↔ switch ≠ some true) (hspots : l.spots = [])
    (hfailures : l.failures = 0) (hstanding : standing h = []) (hstrikes : strikes h = 0) :
    l.Tallied attempts switch h where
  attempts_eq := hattempts
  off_iff := hoff
  spots_eq := hspots.trans hstanding.symm
  spots_ne hp := by
    rw [hp] at hpaused
    contradiction
  spots_nil _ _ := hspots
  failures_eq := hfailures.trans hstrikes.symm
  failures_lt := by
    rw [hfailures]
    exact hpos
  failures_pos := by
    rw [hfailures]
    refine ⟨fun hlt => absurd hlt (Nat.lt_irrefl 0), fun hp => ?_⟩
    rw [hp] at hpaused
    contradiction

/-- A paused layer comes back with nothing, and with no failures. -/
theorem Tallied.resume {l : Layer σ α} (hl : l.Tallied attempts switch h)
    (hpaused : l.phase.isPaused = true) :
    Tallied attempts (some true) h { l with phase := .enabled } where
  attempts_eq := hl.attempts_eq
  off_iff := ⟨nofun, fun hne => absurd rfl hne⟩
  spots_eq := hl.spots_eq
  spots_ne := nofun
  spots_nil _ _ := by
    refine hl.spots_nil ?_ ?_ <;>
    · intro hp
      rw [hp] at hpaused
      contradiction
  failures_eq := hl.failures_eq
  failures_lt := hl.failures_lt
  failures_pos := by
    refine ⟨fun hpos => ?_, nofun⟩
    rw [hl.failures_pos.mp hpos] at hpaused
    contradiction

/-- A layer that takes answers is switched on. -/
theorem Tallied.switched_on {l : Layer σ α} (hl : l.Tallied attempts switch h)
    (hon : l.phase ≠ .disabled) : switch = some true := by
  by_contra hne
  exact hon (hl.off_iff.mpr hne)

/-- A step that tells nothing and leaves alone what is tallied. -/
theorem Tallied.of_quiet {l l' : Layer σ α} {s : LayerStep α} (hl : l.Tallied attempts switch h)
    (hoff : l.phase = .disabled ↔ s.switch?.or switch ≠ some true) (hreported : l.reported s = [])
    (hattempts : l'.settings.attempts = l.settings.attempts) (hphase : l'.phase = l.phase)
    (hspots : l'.spots = l.spots) (hfailures : l'.failures = l.failures) :
    l'.Tallied attempts (s.switch?.or switch) (h ++ l.outcomes s l') := by
  rw [outcomes_of_same hphase, hreported, List.append_nil]
  rw [← hphase] at hoff
  obtain ⟨hattempts', -, hspots', hne, hnil, hfailures', hlt, hpos⟩ := hl
  rw [← hattempts] at hattempts'
  rw [← hspots] at hspots' hne hnil
  rw [← hfailures] at hfailures' hlt hpos
  rw [← hphase] at hne hnil hpos
  exact ⟨hattempts', hoff, hspots', hne, hnil, hfailures', hlt, hpos⟩

/-- A success leaves its guides and no failures. -/
theorem Tallied.success {m : Layer σ α} (hm : m.Tallied attempts switch h)
    (hon : m.phase.isPaused = false) (spots : List (Spot α)) :
    Tallied attempts switch (h ++ [.success spots])
      { m with
        phase := if spots.isEmpty then .noData else .hasData
        spots := spots
        failures := 0
        stats := { m.stats with successes := m.stats.successes + 1 } } := by
  have hswitch : switch = some true :=
    hm.switched_on ((Phase.isPaused_eq_false_iff m.phase).mp hon).1
  have hpos : 0 < attempts := Nat.zero_lt_of_lt hm.failures_lt
  refine ⟨hm.attempts_eq, ?_, ?_, ?_, ?_, ?_, hpos, ?_⟩
  · dsimp only
    split <;> simp [hswitch]
  · rw [standing_success]
  · cases spots with
    | nil => simp
    | cons spot rest => simp
  · cases spots with
    | nil => simp
    | cons spot rest => simp
  · rw [strikes_success]
  · dsimp only
    split <;> simp

/-- A failure that does not spend the last attempt is one more, and leaves the guides. -/
theorem Tallied.struck {m : Layer σ α} (hm : m.Tallied attempts switch h)
    (hon : m.phase.isPaused = false) (hleft : m.failures + 1 < m.settings.attempts) :
    m.struck.Tallied attempts switch (h ++ [.failure]) := by
  have hswitch : switch = some true :=
    hm.switched_on ((Phase.isPaused_eq_false_iff m.phase).mp hon).1
  unfold Layer.struck
  refine ⟨hm.attempts_eq, ?_, ?_, ?_, ?_, ?_, ?_, ?_⟩
  · simp [hswitch]
  · rw [standing_failure]
    exact hm.spots_eq
  · simp
  · simp
  · rw [strikes_failure, ← hm.failures_eq]
  · rw [← hm.attempts_eq]
    exact hleft
  · simp

variable [Scalar α]

/-- Requests change nothing that is tallied. -/
theorem Tallied.request {l : Layer σ α} (hl : l.Tallied attempts switch h) :
    l.request.Tallied attempts switch h := by
  obtain ⟨hattempts, hoff, hspots, hne, hnil, hfailures, hlt, hpos⟩ := hl
  constructor <;> simpa

variable [Trig α]

theorem Tallied.transition {m m' : Layer Unit α} {s : LayerStep α} (htrans : Transition m s m')
    (hm : m.Tallied attempts switch h) :
    m'.Tallied attempts (s.switch?.or switch) (h ++ m.outcomes s m') := by
  have hpos : 0 < attempts := Nat.zero_lt_of_lt hm.failures_lt
  cases htrans with
  | switchOn hoff =>
      have hactive : (Layer.request { m with phase := .enabled }).phase.isPaused = false := by
        rw [phase_request]
        rfl
      rw [outcomes_of_active hactive]
      have hpaused : m.phase.isPaused = true := by
        rw [hoff]
        rfl
      have hback := (hm.resume hpaused).request
      rw [← List.append_nil h] at hback
      exact hback
  | reconnect hfatal =>
      have hactive : (Layer.request { m with phase := .enabled }).phase.isPaused = false := by
        rw [phase_request]
        rfl
      rw [outcomes_of_active hactive]
      have hpaused : m.phase.isPaused = true := by
        rw [hfatal]
        rfl
      have hswitch : switch = some true := hm.switched_on (by rw [hfatal]; exact nofun)
      have hback := (hm.resume hpaused).request
      rw [← List.append_nil h, ← hswitch] at hback
      exact hback
  | switchOff hon =>
      rw [outcomes_of_pause hon.symm rfl]
      refine tallied_of_paused hm.attempts_eq hpos rfl ?_ rfl rfl (standing_clearing h)
        (strikes_clearing h)
      exact ⟨fun _ => nofun, fun _ => rfl⟩
  | @success a spots hacc hresult =>
      rw [outcomes_of_active (by dsimp only; split <;> rfl), reported_success hacc hresult]
      exact hm.success hacc.1 spots
  | @retry a e hacc hresult hleft =>
      have hactive : m.struck.request.phase.isPaused = false := by
        rw [phase_request]
        rfl
      rw [outcomes_of_active hactive, reported_failure hacc hresult]
      exact (hm.struck hacc.1 hleft).request
  | @exhaust a e hacc hresult =>
      -- The failure is counted first and forgotten then, with all others.
      obtain ⟨hon, hactive⟩ := (Phase.isPaused_eq_false_iff m.phase).mp hacc.1
      rw [outcomes_of_pause hactive.symm rfl, reported_failure hacc hresult, ← List.append_assoc]
      refine tallied_of_paused hm.attempts_eq hpos rfl ?_ rfl rfl (standing_clearing _)
        (strikes_clearing _)
      exact ⟨nofun, fun hne => absurd (hm.switched_on hon) hne⟩
  | @switched on hon =>
      refine hm.of_quiet ?_ rfl rfl rfl rfl rfl
      rw [hon, ← Phase.isEnabled_eq_false_iff]
      cases m.phase.isEnabled <;> simp [switch?]
  | @look c =>
      exact hm.of_quiet hm.off_iff rfl (congrArg Settings.attempts (settings_request _))
        (phase_request _) (spots_request _) (failures_request _)
  | @drop a hacc => exact hm.of_quiet hm.off_iff (if_neg hacc) rfl rfl rfl rfl
  | connected | note | ignore | suppress | setActive | tapGuide | tapCluster | observePhase
  | observeGallery | attachRenderer | setLocale => exact hm.of_quiet hm.off_iff rfl rfl rfl rfl rfl

end Tallied

theorem Tallied.of_bare {attempts : Nat} {switch : Option Bool} {h : List (Outcome α)}
    {l : Layer σ α} (hl : l.bare.Tallied attempts switch h) : l.Tallied attempts switch h :=
  ⟨hl.attempts_eq, hl.off_iff, hl.spots_eq, hl.spots_ne, hl.spots_nil, hl.failures_eq,
    hl.failures_lt, hl.failures_pos⟩

variable [Scalar α] [Trig α]

/-- What makes a layer give up. -/
theorem Transition.gives_up_iff {m m' : Layer Unit α} {s : LayerStep α} (h : Transition m s m') :
    m.phase ≠ .fatalNetworkError ∧ m'.phase = .fatalNetworkError ↔
      ∃ a e, s = .answer a ∧ a.result = .error e ∧ m.Accepts a.generation ∧
        m.settings.attempts ≤ m.failures + 1 := by
  constructor
  · rintro ⟨hactive, hfatal⟩
    cases h with
    | @exhaust a e hacc hresult hspent => exact ⟨a, e, rfl, hresult, hacc, hspent⟩
    | switchOn | reconnect | retry =>
        rw [phase_request] at hfatal
        cases hfatal
    | look =>
        rw [phase_request] at hfatal
        exact absurd hfatal hactive
    | success =>
        dsimp only at hfatal
        split at hfatal <;> cases hfatal
    | switchOff => cases hfatal
    | switched | connected | note | ignore | suppress | drop | setActive | tapGuide | tapCluster
    | observePhase | observeGallery | attachRenderer | setLocale => exact absurd hfatal hactive
  · rintro ⟨a, e, rfl, hresult, hacc, hspent⟩
    rw [h.of_exhaust hacc hresult hspent]
    exact ⟨((Phase.isPaused_eq_false_iff m.phase).mp hacc.1).2, rfl⟩

theorem Transition.failures_updateViewport {m m' : Layer Unit α} {c : Camera α}
    (h : Transition m (.updateViewport c) m') : m'.failures = m.failures := by
  cases h with
  | note | ignore | suppress => rfl
  | look => exact failures_request _

variable [MarkStore σ α]

omit [Scalar α] [Trig α] [MarkStore σ α] in
theorem tallied_fresh {l : Layer σ α} (hl : l.Fresh) (hpos : 0 < l.settings.attempts) :
    l.bare.Tallied l.settings.attempts none [] := by
  rw [hl.bare_eq]
  exact tallied_of_paused rfl hpos rfl ⟨fun _ => nofun, fun _ => rfl⟩ rfl rfl standing_nil
    strikes_nil

theorem tallied_run {l : Layer σ α} (hl : l.Fresh) (hpos : 0 < l.settings.attempts)
    (steps : List (LayerStep α)) :
    (l.run steps).bare.Tallied l.settings.attempts (lastSwitch steps) (l.history steps) := by
  induction steps using List.reverseRecOn with
  | nil => exact tallied_fresh hl hpos
  | append_singleton steps s ih =>
      have htrans := transition_run l steps s
      rw [lastSwitch_concat, history_concat]
      exact ih.transition htrans

/-- The data, the phase and the count of failures of a layer are what its run makes of them. It
gives up with the failure that spends the last attempt and with nothing else; viewports and answers
that are not accepted do not count. -/
theorem tallied_and_gives_up_iff {l : Layer σ α} (hl : l.Fresh) (hpos : 0 < l.settings.attempts)
    (steps : List (LayerStep α)) :
    (l.run steps).Tallied l.settings.attempts (lastSwitch steps) (l.history steps) ∧
    (∀ s, (l.run steps).phase ≠ .fatalNetworkError ∧
        ((l.run steps).step s).phase = .fatalNetworkError ↔
      ∃ a e, s = .answer a ∧ a.result = .error e ∧ (l.run steps).Accepts a.generation ∧
        strikes (l.history steps) + 1 = l.settings.attempts) ∧
    (∀ c, ((l.run steps).step (.updateViewport c)).failures = (l.run steps).failures) ∧
    ∀ a, ¬(l.run steps).Accepts a.generation →
      ((l.run steps).step (.answer a)).failures = (l.run steps).failures := by
  have htallied := tallied_run hl hpos steps
  refine ⟨htallied.of_bare, ?_, ?_, ?_⟩
  · intro s
    have hspent : (l.run steps).settings.attempts ≤ (l.run steps).failures + 1 ↔
        strikes (l.history steps) + 1 = l.settings.attempts := by
      have hattempts : (l.run steps).settings.attempts = l.settings.attempts := htallied.attempts_eq
      have hstrikes : (l.run steps).failures = strikes (l.history steps) := htallied.failures_eq
      have hlt : (l.run steps).failures < l.settings.attempts := htallied.failures_lt
      omega
    rw [← hspent]
    exact (transition_step (l.run steps) s).gives_up_iff
  · intro c
    exact (transition_step (l.run steps) (.updateViewport c)).failures_updateViewport
  · intro a hdropped
    have hsame := congrArg Layer.failures ((transition_answer a (l.run steps)).of_drop hdropped)
    exact hsame

/-- The layer is switched on, asks for a tile and is told of a failure. -/
def failedOnce : List (LayerStep Float) :=
  [.setEnabled true, .updateViewport tile, .answer ⟨1, .error ⟨"503"⟩⟩]

theorem tallied_failedOnce :
    started.Fresh ∧ 0 < started.settings.attempts ∧
      (started.run failedOnce).Tallied 3 (lastSwitch failedOnce) (started.history failedOnce) :=
  ⟨fresh_started, by decide, (tallied_and_gives_up_iff fresh_started (by decide) failedOnce).1⟩

end Layer

end GuideLayer
