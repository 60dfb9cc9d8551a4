import GuideLayer.Proofs.Cards
import GuideLayer.Proofs.Highlight
import GuideLayer.Proofs.PhaseHistory
import GuideLayer.Proofs.Rest
import GuideLayer.Scenario

/-!
What a report says about its scenario. The numbers in it are kept by different
parts: requests by the queue, answers by the counters of the layer, phases by
the observer, marks by the board. Each part goes its own way along the steps,
and what it has counted at the end is to be read off the scenario alone.

A scenario has no way to go on after a step that cannot be taken, so there is a
report exactly if every step finds what it needs: an answer finds a request
that waits for it, a tap finds a mark.
-/

namespace GuideLayer

variable {α : Type}

/-- How many answers the layer took note of. -/
def Stats.answered (s : Stats) : Nat := s.successes + s.failures + s.stale

namespace ScenarioStep

/-- The service answers. -/
def isAnswer : ScenarioStep α → Bool
  | .respond _ | .fail _ => true
  | _ => false

end ScenarioStep

namespace Layer

section Transition

variable [Scalar α]

theorem answered_request {σ : Type} (l : Layer σ α) :
    l.request.stats.answered = l.stats.answered := by
  rw [stats_request]
  rfl

variable [Trig α] {m m' : Layer Unit α} {s : LayerStep α}

/-- What is counted as issued is put into the queue. -/
theorem Transition.issued (h : Transition m s m') :
    m'.queue.pending.length + m.stats.issued = m.queue.pending.length + m'.stats.issued := by
  obtain ⟨rs, hsends⟩ := h.sends
  rw [hsends.queue_eq, hsends.issued_eq, List.length_append]
  omega

/-- Every answer counts once, unless it finds the layer paused. -/
theorem Transition.answered (h : Transition m s m') :
    m'.stats.answered =
      m.stats.answered + if s.answered?.isSome ∧ m.phase.isPaused = false then 1 else 0 := by
  cases h with
  | switchOn | reconnect | look => exact answered_request _
  | retry hacc =>
      rw [answered_request]
      simp only [Stats.answered, struck, LayerStep.answered?, Option.isSome_some, hacc.1, and_self,
        if_true]
      omega
  | success hacc | exhaust hacc =>
      simp only [Stats.answered, LayerStep.answered?, Option.isSome_some, hacc.1, and_self, if_true]
      omega
  | drop =>
      cases hpaused : m.phase.isPaused <;>
        simp [Layer.drop, hpaused, Stats.answered, LayerStep.answered?, Nat.add_assoc]
  | _ => rfl

end Transition

/-! ### Marks -/

theorem filter_spotMarks_cluster (b : MarkBoard α) :
    (spotMarks b).filter (fun m => !decide (m.kind = .guide)) = b.marksOf .cluster := by
  unfold spotMarks
  rw [List.filter_filter]
  refine List.filter_congr fun m _ => ?_
  cases m.kind <;> rfl

theorem markCount_add_markCount (b : MarkBoard α) :
    b.markCount .cluster + b.markCount .guide = (spotMarks b).length := by
  rw [List.length_eq_length_filter_add (fun m : Mark α => decide (m.kind = .guide)),
    filter_spotMarks_guide, filter_spotMarks_cluster]
  exact Nat.add_comm _ _

theorem Highlighted.markCount {l : Layer (MarkBoard α) α} (h : l.Highlighted) :
    l.store.markCount .selection = if l.active.isSome then 1 else 0 := by
  unfold MarkBoard.markCount
  cases hactive : l.active with
  | none => simp [h.dark hactive]
  | some guideId =>
      obtain ⟨light, -, hlight, -⟩ := h.lit guideId hactive
      simp [hlight]

end Layer

namespace Scenario

open Layer Layer.Outcome

/-! ### What a step finds -/

/-- An answer to the oldest request, and the layer without that request. -/
def delivery? (result : Except FetchError (List (Spot α))) (l : Replay α) :
    Option (Replay α × LayerStep α) :=
  (l.queue.pop? false).map
    (fun p => ({ l with queue := p.2 }, .answer ⟨p.1.generation, result⟩))

/-- What a step of the scenario is to the layer, and the layer that it finds. -/
def move? (l : Replay α) : ScenarioStep α → Option (Replay α × LayerStep α)
  | .enable => some (l, .setEnabled true)
  | .disable => some (l, .setEnabled false)
  | .reconnect => some (l, .reconnect)
  | .viewport c => some (l, .updateViewport c)
  | .respond spots => delivery? (.ok spots) l
  | .fail reason => delivery? (.error ⟨reason⟩) l
  | .selectGuide id => some (l, .setActive id)
  | .tapGuide index => (l.store.markIds .guide)[index]?.map (fun id => (l, .tapGuide id))
  | .setLocale locale => some (l, .setLocale locale)

/-- What is said of a step that cannot be taken. -/
def complaint (number : Nat) : ScenarioStep α → ScenarioError
  | .tapGuide index => .noSuchMark number index
  | _ => .noPendingRequest number

/-- A step that is taken takes one request out of the queue if it is an answer, and leaves the layer
as it was otherwise. -/
structure Finds (l : Replay α) (t : ScenarioStep α) (p : Replay α × LayerStep α) : Prop where
  layer_eq : p.1 = { l with queue := p.1.queue }
  pending : p.1.queue.pending.length + (if t.isAnswer then 1 else 0) = l.queue.pending.length
  answers : p.2.answered?.isSome = t.isAnswer
  observes : ∀ label, p.2 ≠ .observePhase label

theorem finds_of_delivery? {result : Except FetchError (List (Spot α))} {l : Replay α}
    {p : Replay α × LayerStep α} (h : delivery? result l = some p) {t : ScenarioStep α}
    (ht : t.isAnswer = true) : Finds l t p := by
  obtain ⟨⟨r, q⟩, hpop, rfl⟩ := Option.map_eq_some_iff.mp h
  obtain ⟨before, after, hpending, rfl⟩ := RequestQueue.pop?_eq_some hpop
  refine ⟨rfl, ?_, ht.symm, nofun⟩
  rw [if_pos ht, hpending]
  simp only [List.length_append, List.length_cons]
  omega

theorem finds_of_move? {l : Replay α} {t : ScenarioStep α} {p : Replay α × LayerStep α}
    (h : move? l t = some p) : Finds l t p := by
  cases t with
  | respond | fail => exact finds_of_delivery? h rfl
  | tapGuide index =>
      obtain ⟨id, -, rfl⟩ := Option.map_eq_some_iff.mp h
      exact ⟨rfl, rfl, rfl, nofun⟩
  | enable | disable | reconnect | viewport | selectGuide | setLocale =>
      cases h
      exact ⟨rfl, rfl, rfl, nofun⟩

variable [Scalar α] [Trig α]

theorem step_eq (number : Nat) (l : Replay α) (t : ScenarioStep α) :
    step number l t =
      (move? l t).elim (.error (complaint number t)) (fun p => .ok (p.1.step p.2)) := by
  cases t with
  | respond | fail =>
      unfold step move? delivery? answerPending?
      cases l.queue.pop? false <;> rfl
  | tapGuide index =>
      cases h : (l.store.markIds .guide)[index]? <;> simp [step, move?, complaint, h, Layer.step]
  | enable | disable | reconnect | viewport | selectGuide | setLocale => rfl

/-- Why a step that comes after so many answers cannot be taken: all that was asked for is answered,
or there are not so many guides on the map. -/
def objection? (answers number : Nat) (l : Replay α) : ScenarioStep α → Option ScenarioError
  | .respond _ | .fail _ =>
    if l.stats.issued = answers then some (.noPendingRequest number) else none
  | .tapGuide index => if l.loners.length ≤ index then some (.noSuchMark number index) else none
  | _ => none

omit [Scalar α] [Trig α] in
/-- Those are the steps that find nothing. -/
theorem objection?_eq {answers : Nat} {l : Replay α}
    (hpending : l.queue.pending.length + answers = l.stats.issued) (hmapped : l.Mapped)
    (number : Nat) (t : ScenarioStep α) :
    objection? answers number l t =
      if (move? l t).isNone then some (complaint number t) else none := by
  have hdelivery (result : Except FetchError (List (Spot α))) :
      (delivery? result l).isNone ↔ l.stats.issued = answers := by
    rw [delivery?, Option.isNone_map, Option.isNone_iff_eq_none, RequestQueue.pop?_eq_none_iff,
      ← List.length_eq_zero_iff]
    omega
  cases t with
  | respond | fail => simp [objection?, move?, complaint, hdelivery]
  | tapGuide index =>
      have hlength : (l.store.markIds .guide).length = l.loners.length := by
        rw [MarkBoard.markIds, List.length_map]
        exact hmapped.length_eq
      simp [objection?, move?, complaint, hlength]
  | enable | disable | reconnect | viewport | selectGuide | setLocale => rfl

theorem step_eq_error_iff {answers : Nat} {l : Replay α}
    (hpending : l.queue.pending.length + answers = l.stats.issued) (hmapped : l.Mapped)
    (number : Nat) (t : ScenarioStep α) (e : ScenarioError) :
    step number l t = .error e ↔ objection? answers number l t = some e := by
  rw [step_eq, objection?_eq hpending hmapped]
  cases move? l t <;> simp

/-! ### Replays -/

theorem replay_cons (number : Nat) (l : Replay α) (t : ScenarioStep α)
    (steps : List (ScenarioStep α)) :
    replay number l (t :: steps) =
      (step number l t).bind (fun l => replay (number + 1) l steps) := rfl

theorem replay_concat (number : Nat) (l : Replay α) (steps : List (ScenarioStep α))
    (t : ScenarioStep α) :
    replay number l (steps ++ [t]) =
      (replay number l steps).bind (fun l => step (number + steps.length) l t) := by
  induction steps generalizing number l with
  | nil =>
      rw [List.nil_append, replay_cons]
      change (step number l t).bind _ = step number l t
      cases step number l t <;> rfl
  | cons t' steps ih =>
      rw [List.cons_append, replay_cons, replay_cons]
      cases step number l t' with
      | error e => rfl
      | ok l' =>
          rw [List.length_cons, Nat.add_comm steps.length 1, ← Nat.add_assoc]
          exact ih (number + 1) l'

theorem replay_concat_eq_ok {number : Nat} {l l' : Replay α} {steps : List (ScenarioStep α)}
    {t : ScenarioStep α} (h : replay number l (steps ++ [t]) = .ok l') :
    ∃ found p, replay number l steps = .ok found ∧ move? found t = some p ∧
      p.1.step p.2 = l' := by
  rw [replay_concat] at h
  cases hbefore : replay number l steps with
  | error e =>
      rw [hbefore] at h
      cases h
  | ok found =>
      rw [hbefore] at h
      change step _ found t = .ok l' at h
      rw [step_eq] at h
      cases hmove : move? found t with
      | none =>
          rw [hmove] at h
          cases h
      | some p =>
          rw [hmove] at h
          exact ⟨found, p, rfl, hmove, Except.ok.inj h⟩

/-- A replay fails with the first step that cannot be taken. -/
theorem replay_eq_error_iff (number : Nat) (l : Replay α) (steps : List (ScenarioStep α))
    (e : ScenarioError) :
    replay number l steps = .error e ↔
      ∃ before t after l', steps = before ++ t :: after ∧ replay number l before = .ok l' ∧
        step (number + before.length) l' t = .error e := by
  constructor
  · intro h
    induction steps using List.reverseRecOn with
    | nil => cases h
    | append_singleton steps t ih =>
        rw [replay_concat] at h
        cases hbefore : replay number l steps with
        | error e' =>
            rw [hbefore] at h
            cases h
            obtain ⟨before, t', after, l', rfl, hreached, hfails⟩ := ih hbefore
            exact ⟨before, t', after ++ [t], l', by simp, hreached, hfails⟩
        | ok l' =>
            rw [hbefore] at h
            exact ⟨steps, t, [], l', rfl, hbefore, h⟩
  · rintro ⟨before, t, after, l', rfl, hreached, hfails⟩
    induction after using List.reverseRecOn with
    | nil =>
        rw [replay_concat, hreached]
        exact hfails
    | append_singleton after t' ih =>
        rw [← List.cons_append, ← List.append_assoc, replay_concat, ih]
        rfl

/-- What the steps of a scenario are to the layer, and the layers that they find, up to the first
step that cannot be taken. -/
def moves (l : Replay α) : List (ScenarioStep α) → List (Replay α × LayerStep α)
  | [] => []
  | t :: steps => (move? l t).elim [] (fun p => p :: moves (p.1.step p.2) steps)

theorem moves_concat {number : Nat} {l l' : Replay α} {steps : List (ScenarioStep α)}
    (h : replay number l steps = .ok l') (t : ScenarioStep α) :
    moves l (steps ++ [t]) = moves l steps ++ (move? l' t).toList := by
  induction steps generalizing number l with
  | nil =>
      have heq : l = l' := Except.ok.inj h
      rw [← heq]
      cases hmove : move? l t <;> simp [moves, hmove]
  | cons t' steps ih =>
      rw [replay_cons, step_eq] at h
      cases hmove : move? l t' with
      | none =>
          rw [hmove] at h
          cases h
      | some p =>
          rw [hmove] at h
          simp only [List.cons_append, moves, hmove, Option.elim_some, ih h]

/-- How many answers found the layer neither off nor given up. -/
def heeded (ms : List (Replay α × LayerStep α)) : Nat :=
  ms.countP (fun p => p.2.answered?.isSome && !p.1.phase.isPaused)

/-- What happened to the guides of the layer in the course of the moves. -/
def outcomesOf (ms : List (Replay α × LayerStep α)) : List (Outcome α) :=
  ms.flatMap (fun p => p.1.outcomes p.2 (p.1.step p.2))

omit [Scalar α] [Trig α] in
theorem heeded_concat (ms : List (Replay α × LayerStep α)) (l : Replay α) (s : LayerStep α) :
    heeded (ms ++ [(l, s)]) =
      heeded ms + if s.answered?.isSome ∧ l.phase.isPaused = false then 1 else 0 := by
  simp [heeded, List.countP_append, List.countP_cons]

theorem outcomesOf_concat (ms : List (Replay α × LayerStep α)) (l : Replay α) (s : LayerStep α) :
    outcomesOf (ms ++ [(l, s)]) = outcomesOf ms ++ l.outcomes s (l.step s) := by
  simp [outcomesOf]

/-- What is so after some moves, whatever became of the queue. -/
structure Books (attempts : Nat) (ms : List (Replay α × LayerStep α)) (l : Replay α) : Prop where
  observed : l.observers.phase = some 0
  phases : Phase.Chronicle attempts .disabled l.phase (phasesOf l.notices)
  answered : l.stats.answered = heeded ms
  tallied : ∃ switch, l.bare.Tallied attempts switch (outcomesOf ms)
  ordered : l.store.Ordered
  mirrored : l.Mirrored
  highlighted : l.Highlighted

theorem phasesOf_news {l : Replay α} (hobserved : l.observers.phase = some 0) {s : LayerStep α}
    (hs : ∀ label, s ≠ .observePhase label) (l' : Replay α) :
    phasesOf (l.news s l') = if l'.phase = l.phase then [] else [l'.phase] :=
  filterMap_news (fun _ => rfl) (fun _ _ => rfl) (fun _ _ _ => rfl) hobserved hs l'

namespace Books

variable {attempts : Nat} {ms : List (Replay α × LayerStep α)}

theorem queue {l : Replay α} (h : Books attempts ms l) (q : RequestQueue α) :
    Books attempts ms { l with queue := q } := by
  obtain ⟨switch, htallied⟩ := h.tallied
  refine ⟨h.observed, h.phases, h.answered, ⟨switch, ?_⟩, h.ordered, h.mirrored, ?_⟩
  · exact ⟨htallied.attempts_eq, htallied.off_iff, htallied.spots_eq, htallied.spots_ne,
      htallied.spots_nil, htallied.failures_eq, htallied.failures_lt, htallied.failures_pos⟩
  · exact ⟨h.highlighted.dark, h.highlighted.lit⟩

theorem step {l : Replay α} (h : Books attempts ms l) {s : LayerStep α}
    (hs : ∀ label, s ≠ .observePhase label) : Books attempts (ms ++ [(l, s)]) (l.step s) := by
  obtain ⟨switch, htallied⟩ := h.tallied
  have htable := transition_step l s
  refine ⟨?_, ?_, ?_, ⟨s.switch?.or switch, ?_⟩, ?_, mirrored_step h.ordered h.mirrored s, ?_⟩
  · rw [observers_step, Observers.phase_joined _ hs]
    exact h.observed
  · have htold : phasesOf (l.step s).notices =
        phasesOf l.notices ++ phasesOf (l.news s (l.step s)) := by
      rw [notices_step]
      exact List.filterMap_append
    rw [htold, phasesOf_news h.observed hs (l.step s)]
    exact h.phases.follow (htable.legal htallied)
  · rw [heeded_concat, ← h.answered]
    exact htable.answered
  · rw [outcomesOf_concat]
    exact htallied.transition htable
  · have hsound : LawfulMarkStore.Sound l.store := h.ordered
    exact sound_step hsound s
  · exact (repaint_step l s).highlighted h.ordered h.highlighted

end Books

namespace Finds

variable {l : Replay α} {t : ScenarioStep α} {p : Replay α × LayerStep α}

theorem books {attempts : Nat} {ms : List (Replay α × LayerStep α)} (h : Finds l t p)
    (hl : Books attempts ms l) : Books attempts (ms ++ [p]) (p.1.step p.2) := by
  have hfound : Books attempts ms p.1 := by
    rw [h.layer_eq]
    exact hl.queue p.1.queue
  exact hfound.step h.observes

/-- The queue holds what was issued and is not answered. -/
theorem issued {answers : Nat} (h : Finds l t p)
    (hl : l.queue.pending.length + answers = l.stats.issued) :
    (p.1.step p.2).queue.pending.length + (answers + if t.isAnswer then 1 else 0) =
      (p.1.step p.2).stats.issued := by
  have hstats : p.1.stats = l.stats := by rw [h.layer_eq]
  have hstep : (p.1.step p.2).queue.pending.length + p.1.stats.issued =
      p.1.queue.pending.length + (p.1.step p.2).stats.issued :=
    (transition_step p.1 p.2).issued
  rw [hstats] at hstep
  have hqueue := h.pending
  omega

end Finds

theorem books_begin {settings : Settings α} (hpos : 0 < settings.attempts)
    (downloaded : List String) : Books settings.attempts [] (begin settings downloaded) := by
  have hmarks : (begin settings downloaded).store.marks = [] := by
    have hkept (b : MarkBoard α) :
        (downloaded.foldl (fun b id => b.addDownloaded id) b).marks = b.marks := by
      induction downloaded generalizing b with
      | nil => rfl
      | cons id downloaded ih => exact ih (b.addDownloaded id)
    exact hkept {}
  have hfresh : (begin settings downloaded).Fresh := rfl
  refine ⟨rfl, Phase.Chronicle.singleton _ _, rfl, ⟨none, tallied_fresh hfresh hpos⟩,
    .of_empty hmarks, ?_, ?_⟩
  · refine ⟨0, fun _ => false, ?_⟩
    change (spotMarks (begin settings downloaded).store).map Mark.face = Spot.faces _ _ _ []
    simp [spotMarks, LawfulMarkStore.marks, hmarks]
  · have hactive : (begin settings downloaded).active = none := rfl
    constructor
    · simp [MarkBoard.marksOf, hmarks]
    · simp [hactive]

/-- As long as steps can be taken, the queue is accounted for and the books are in order. -/
theorem books_replay {settings : Settings α} (hpos : 0 < settings.attempts)
    {downloaded : List String} {steps : List (ScenarioStep α)} {l : Replay α}
    (h : replay 0 (begin settings downloaded) steps = .ok l) :
    l.queue.pending.length + steps.countP ScenarioStep.isAnswer = l.stats.issued ∧
      (moves (begin settings downloaded) steps).map (fun p => p.2.answered?.isSome) =
        steps.map ScenarioStep.isAnswer ∧
      Books settings.attempts (moves (begin settings downloaded) steps) l := by
  induction steps using List.reverseRecOn generalizing l with
  | nil =>
      have heq : begin settings downloaded = l := Except.ok.inj h
      rw [← heq]
      exact ⟨rfl, rfl, books_begin hpos downloaded⟩
  | append_singleton steps t ih =>
      obtain ⟨found, p, hbefore, hmove, heq⟩ := replay_concat_eq_ok h
      obtain ⟨hpending, htaken, hbooks⟩ := ih hbefore
      have hfinds := finds_of_move? hmove
      rw [moves_concat hbefore, hmove, List.countP_append, List.countP_singleton, ← heq]
      refine ⟨hfinds.issued hpending, ?_, hfinds.books hbooks⟩
      simp [htaken, hfinds.answers]

/-- The numbers of a report are those of its scenario, all of whose steps were taken. -/
structure Balanced (settings : Settings α) (s : Scenario α) (r : Report α) : Prop where
  taken : (moves (begin settings s.downloaded) s.steps).map (fun p => p.2.answered?.isSome) =
    s.steps.map ScenarioStep.isAnswer
  pending : r.pending + s.steps.countP ScenarioStep.isAnswer = r.stats.issued
  answered : r.stats.successes + r.stats.failures + r.stats.stale =
    heeded (moves (begin settings s.downloaded) s.steps)
  phases : Phase.Chronicle settings.attempts .disabled r.finalPhase r.phases
  marks : r.marks.clusters + r.marks.guides =
    (standing (outcomesOf (moves (begin settings s.downloaded) s.steps))).length
  selections : r.marks.selections = if r.active.isSome then 1 else 0

theorem Books.balanced [HostNames] {settings : Settings α} {s : Scenario α} {l : Replay α}
    (hpending : l.queue.pending.length + s.steps.countP ScenarioStep.isAnswer = l.stats.issued)
    (htaken : (moves (begin settings s.downloaded) s.steps).map (fun p => p.2.answered?.isSome) =
      s.steps.map ScenarioStep.isAnswer)
    (h : Books settings.attempts (moves (begin settings s.downloaded) s.steps) l) :
    Balanced settings s (report l) := by
  obtain ⟨switch, htallied⟩ := h.tallied
  refine ⟨htaken, hpending, h.answered, h.phases, ?_, h.highlighted.markCount⟩
  have hspots : l.spots = standing (outcomesOf (moves (begin settings s.downloaded) s.steps)) :=
    htallied.spots_eq
  rw [← hspots, ← h.mirrored.length_spotMarks]
  exact markCount_add_markCount l.store

/-- A scenario has no report exactly if one of its steps cannot be taken, and the first such step is
the one that is complained of, whatever comes after it. If there is a report, it balances. -/
theorem run_balances [HostNames] {settings : Settings α} (hpos : 0 < settings.attempts)
    (s : Scenario α) :
    (∀ e, run settings s = .error e ↔
      ∃ before t after l, s.steps = before ++ t :: after ∧
        replay 0 (begin settings s.downloaded) before = .ok l ∧
        objection? (before.countP ScenarioStep.isAnswer) before.length l t = some e) ∧
    ∀ r, run settings s = .ok r → Balanced settings s r := by
  constructor
  · intro e
    have hrun : run settings s = .error e ↔
        replay 0 (begin settings s.downloaded) s.steps = .error e := by
      unfold run
      cases replay 0 (begin settings s.downloaded) s.steps <;> simp [Except.map]
    rw [hrun, replay_eq_error_iff]
    refine exists_congr fun before => exists_congr fun t => exists_congr fun after =>
      exists_congr fun l => and_congr_right fun _ => and_congr_right fun hreached => ?_
    obtain ⟨hpending, -, hbooks⟩ := books_replay hpos hreached
    rw [Nat.zero_add]
    exact step_eq_error_iff hpending hbooks.mirrored.mapped before.length t e
  · intro r h
    cases hreached : replay 0 (begin settings s.downloaded) s.steps with
    | error e =>
        rw [run, hreached] at h
        cases h
    | ok l =>
        rw [run, hreached] at h
        have heq : report l = r := Except.ok.inj h
        obtain ⟨hpending, htaken, hbooks⟩ := books_replay hpos hreached
        rw [← heq]
        exact hbooks.balanced hpending htaken

/-- Guides come, one of them is tapped, and what is asked next fails at first. -/
def visit : Scenario Float :=
  { steps := [.enable, .viewport tile, .respond threeSpots, .tapGuide 1, .viewport wideTile,
      .fail "503"] }

/-- An answer that nobody asked for, and more that is not looked at. -/
def unasked : Scenario Float := { steps := [.enable, .respond threeSpots, .tapGuide 7] }

section

attribute [local instance] HostNames.ascii

theorem run_balances_visit :
    0 < (.standard : Settings Float).attempts ∧
      (∃ r, run .standard visit = .ok r ∧ r.pending = 1 ∧ r.stats.issued = 3 ∧
        Balanced .standard visit r) ∧
      run .standard unasked = .error (.noPendingRequest 1) := by
  have hpos : 0 < (.standard : Settings Float).attempts := by decide
  refine ⟨hpos, ?_, ?_⟩
  · have hcounts : (run .standard visit).toOption.map (fun r => (r.pending, r.stats.issued)) =
        some (1, 3) := by
      decide +kernel
    obtain ⟨r, hr, hcount⟩ := Option.map_eq_some_iff.mp hcounts
    obtain ⟨hpending, hissued⟩ := Prod.mk.inj hcount
    have hrun : run .standard visit = .ok r := by
      cases h : run .standard visit with
      | error e => simp [h, Except.toOption] at hr
      | ok r' => simpa [h, Except.toOption] using hr
    exact ⟨r, hrun, hpending, hissued, (run_balances hpos visit).2 r hrun⟩
  · refine ((run_balances hpos unasked).1 _).mpr ?_
    refine ⟨[.enable], .respond threeSpots, [.tapGuide 7], (begin .standard []).setEnabled true,
      rfl, rfl, ?_⟩
    decide +kernel

end

end Scenario

end GuideLayer
