import GuideLayer.Proofs.SwitchOff
import GuideLayer.Proofs.Validation

/-!
Requests on their way. A layer that waits for an answer and has a usable
viewport has one coming: its latest request is not answered yet. Without a
usable viewport a failure is counted and the phase is the one of a retry, but
nothing is sent, so the latest request stays answered.
-/

namespace GuideLayer

namespace RequestQueue

theorem send_ne {α : Type} (q : RequestQueue α) (r : Request α) : q.send r ≠ q := by
  intro h
  have hlength := congrArg (fun q' => q'.pending.length) h
  simp [send] at hlength

end RequestQueue

namespace Layer

variable {σ α : Type}

/-- The phases in which observers are told that a request is on its way. -/
def Waits (l : Layer σ α) : Prop := l.phase = .enabled ∨ l.phase = .networkError

theorem Waits.isPaused_eq_false {l : Layer σ α} (h : l.Waits) : l.phase.isPaused = false := by
  rcases h with h | h <;> rw [h] <;> rfl

variable [Scalar α]

/-- What is known of the latest request of a layer that waits. -/
structure Awaiting (answered : List Nat) (l : Layer σ α) : Prop where
  bounded : ∀ g ∈ answered, g ≤ l.generation
  awaited : l.Waits → l.usableCamera? ≠ none → l.generation ∉ answered
  missed : l.phase = .networkError → l.usableCamera? = none → l.generation ∈ answered

theorem awaiting_of_not_waits {answered : List Nat} {l : Layer σ α}
    (hbounded : ∀ g ∈ answered, g ≤ l.generation) (hidle : ¬l.Waits) : l.Awaiting answered where
  bounded := hbounded
  awaited hwaits := absurd hwaits hidle
  missed hp := absurd (.inr hp) hidle

theorem awaiting_request {answered : List Nat} {l : Layer σ α}
    (hbounded : ∀ g ∈ answered, g ≤ l.generation)
    (hmissed : l.phase = .networkError → l.usableCamera? = none → l.generation ∈ answered) :
    l.request.Awaiting answered := by
  cases hc : l.usableCamera? with
  | none =>
      rw [request_of_unusable hc]
      exact ⟨hbounded, fun _ hsome => absurd hc hsome, hmissed⟩
  | some c =>
      refine ⟨?_, ?_, ?_⟩
      · intro g hg
        rw [request_of_usable hc]
        exact Nat.le_succ_of_le (hbounded g hg)
      · -- No answer can have come to a number that was not in use.
        intro _ _ hanswered
        have hle := hbounded _ hanswered
        rw [request_of_usable hc] at hle
        exact Nat.not_succ_le_self _ hle
      · rw [usableCamera?_request, hc]
        intro _ hnone
        contradiction

/-- What becomes of a failure that does not spend the last attempt: the failed request is sent
again, or nothing is sent. -/
theorem Orderly.queue_struck_request {m : Layer Unit α} (hm : m.Orderly)
    (hon : m.phase.isPaused = false) {r : Request α} (hr : r ∈ m.queue.pending)
    (hlatest : r.generation = m.generation) :
    m.struck.request.queue =
      if m.usableCamera?.isSome then m.queue.send ⟨r.generation + 1, r.area, r.zoom⟩
      else m.queue := by
  cases hc : m.usableCamera? with
  | none =>
      rw [request_of_unusable (l := m.struck) hc]
      rfl
  | some c =>
      rw [request_of_usable (l := m.struck) hc, hm.eq_of_usable hon hc hr hlatest]
      rfl

theorem latest_open_iff {m : Layer σ α} {answered : List Nat} (hm : m.Orderly)
    (ha : m.Awaiting answered) (hp : m.phase = .networkError) :
    (∃ r ∈ m.queue.pending, r.generation = m.generation ∧ r.generation ∉ answered) ↔
      m.usableCamera?.isSome := by
  have hwaits : m.Waits := .inr hp
  constructor
  · rintro ⟨r, -, hlatest, hopen⟩
    rw [hlatest] at hopen
    cases hc : m.usableCamera? with
    | none => exact absurd (ha.missed hp hc) hopen
    | some c => rfl
  · intro hsome
    obtain ⟨c, hc⟩ := Option.isSome_iff_exists.mp hsome
    have hlast := hm.aimed hwaits.isPaused_eq_false c hc
    refine ⟨_, List.mem_of_getLast? hlast, rfl, ha.awaited hwaits ?_⟩
    rw [hc]
    exact Option.some_ne_none c

variable [Trig α]

/-- A step ends with a request, or it sends nothing. Then the layer does not wait after it, or it
goes on as before and has accepted no answer. -/
theorem Transition.requests_or_stays {m m' : Layer Unit α} {s : LayerStep α}
    (h : Transition m s m') :
    (∃ x : Layer Unit α, m' = x.request ∧ x.queue = m.queue ∧ x.generation = m.generation) ∨
      m'.queue = m.queue ∧ m'.generation = m.generation ∧
        (¬m'.Waits ∨
          m'.phase = m.phase ∧ m'.camera = m.camera ∧ ∀ g ∈ s.answered?, ¬m.Accepts g) := by
  cases h with
  | switchOn | reconnect | look | retry => exact .inl ⟨_, rfl, rfl, rfl⟩
  | switchOff | exhaust =>
      refine .inr ⟨rfl, rfl, .inl ?_⟩
      rintro (hp | hp) <;> cases hp
  | note hpaused =>
      refine .inr ⟨rfl, rfl, .inl (fun hwaits => ?_)⟩
      exact absurd (hpaused.symm.trans hwaits.isPaused_eq_false) Bool.noConfusion
  | success =>
      refine .inr ⟨rfl, rfl, .inl ?_⟩
      unfold Waits
      dsimp only
      split <;> rintro (hp | hp) <;> cases hp
  | drop hdropped =>
      refine .inr ⟨rfl, rfl, .inr ⟨rfl, rfl, ?_⟩⟩
      rintro g ⟨rfl⟩
      exact hdropped
  | switched | connected | ignore | suppress | setActive | tapGuide | tapCluster | observePhase
  | observeGallery | attachRenderer | setLocale =>
      exact .inr ⟨rfl, rfl, .inr ⟨rfl, rfl, nofun⟩⟩

/-- One step. The answer, if it is one, must be to a request that was sent. -/
theorem Awaiting.transition {answered : List Nat} {m m' : Layer Unit α} {s : LayerStep α}
    (h : Transition m s m') (hn : m.Numbered) (hadmits : m.Admits answered s)
    (hm : m.Awaiting answered) : m'.Awaiting (answered ++ s.answered?.toList) := by
  have hbounded : ∀ g ∈ answered ++ s.answered?.toList, g ≤ m.generation := by
    intro g hg
    rcases List.mem_append.mp hg with hg | hg
    · exact hm.bounded g hg
    · exact hn.generation_le (hadmits g (Option.mem_toList.mp hg)).1
  have hmissed : m.phase = .networkError → m.usableCamera? = none →
      m.generation ∈ answered ++ s.answered?.toList :=
    fun hp hc => List.mem_append_left _ (hm.missed hp hc)
  cases h with
  | switchOn | reconnect => exact awaiting_request hbounded nofun
  | look _ hsees =>
      refine awaiting_request hbounded (fun _ hnone => ?_)
      rw [usableCamera?_record hsees] at hnone
      contradiction
  | @retry a _ hacc =>
      refine awaiting_request (l := m.struck) hbounded (fun _ _ => ?_)
      have hlatest : a.generation = m.generation := hacc.2
      change m.generation ∈ answered ++ [a.generation]
      rw [hlatest]
      exact List.mem_append_right _ (List.mem_singleton_self _)
  | switchOff | exhaust =>
      refine awaiting_of_not_waits hbounded ?_
      rintro (hp | hp) <;> cases hp
  | note hpaused =>
      refine awaiting_of_not_waits hbounded (fun hwaits => ?_)
      exact absurd (hpaused.symm.trans hwaits.isPaused_eq_false) Bool.noConfusion
  | success =>
      refine awaiting_of_not_waits hbounded ?_
      unfold Waits
      dsimp only
      split <;> rintro (hp | hp) <;> cases hp
  | @drop a hacc =>
      refine ⟨hbounded, ?_, hmissed⟩
      intro hwaits hsome hanswered
      rcases List.mem_append.mp hanswered with hold | hnew
      · exact hm.awaited hwaits hsome hold
      · have hlatest : a.generation = m.generation :=
          (List.mem_singleton.mp hnew).symm
        exact hacc ⟨hwaits.isPaused_eq_false, hlatest⟩
  | switched | connected | ignore | suppress | setActive | tapGuide | tapCluster | observePhase
  | observeGallery | attachRenderer | setLocale =>
      have hnone : answered ++ Option.toList (none : Option Nat) = answered := List.append_nil _
      change Awaiting (answered ++ Option.toList none) _
      rw [hnone]
      exact ⟨hm.bounded, hm.awaited, hm.missed⟩

variable [MarkStore σ α]

theorem awaiting_run {l : Layer σ α} (hl : l.Fresh) {steps : List (LayerStep α)}
    (honce : l.AnswersOnce [] steps) : (l.run steps).bare.Awaiting (answeredIn steps) := by
  induction steps using List.reverseRecOn with
  | nil =>
      change l.bare.Awaiting []
      rw [hl.bare_eq]
      refine awaiting_of_not_waits nofun ?_
      rintro (hp | hp) <;> cases hp
  | append_singleton steps s ih =>
      obtain ⟨hbefore, hadmits⟩ := (answersOnce_concat l [] steps s).mp honce
      rw [answeredIn_concat]
      exact (ih hbefore).transition (transition_run l steps s) (orderly_run hl steps).numbered
        hadmits

/-- A failure that does not spend the last attempt is counted as one to be retried, and is retried
just if the recorded viewport is usable: the failed request is sent once more under the next
number, and nothing else is. So the latest request of a layer that has told of a retry is on its
way just if the recorded viewport is usable. -/
theorem failure_retried_iff {l : Layer σ α} (hl : l.Fresh) {steps : List (LayerStep α)}
    (honce : l.AnswersOnce [] steps) :
    (∀ (a : Answer α) (e : FetchError),
      (l.run steps).Admits (answeredIn steps) (.answer a) → a.result = .error e →
      (l.run steps).Accepts a.generation →
      (l.run steps).failures + 1 < (l.run steps).settings.attempts →
        ((l.run steps).handle a).phase = .networkError ∧
        ((l.run steps).handle a).stats.retries = (l.run steps).stats.retries + 1 ∧
        ∃ r ∈ (l.run steps).queue.pending, r.generation = a.generation ∧
          (((l.run steps).handle a).queue =
              (l.run steps).queue.send ⟨a.generation + 1, r.area, r.zoom⟩ ↔
            (l.run steps).usableCamera?.isSome) ∧
          (((l.run steps).handle a).queue = (l.run steps).queue ↔
            (l.run steps).usableCamera? = none)) ∧
    ((l.run steps).phase = .networkError →
      ((∃ r ∈ (l.run steps).queue.pending, r.generation = (l.run steps).generation ∧
          r.generation ∉ answeredIn steps) ↔
        (l.run steps).usableCamera?.isSome)) := by
  have horderly := orderly_run hl steps
  have hopen := latest_open_iff horderly (awaiting_run hl honce)
  refine ⟨?_, hopen⟩
  intro a e hadmits hresult hacc hleft
  obtain ⟨r, hr, hgen⟩ := List.mem_map.mp (hadmits a.generation rfl).1
  have hbare : ((l.run steps).handle a).bare = (l.run steps).bare.struck.request :=
    (transition_answer a _).of_retry hacc hresult hleft
  have hphase : ((l.run steps).handle a).phase = ((l.run steps).handle a).bare.phase := rfl
  have hstats : ((l.run steps).handle a).stats = ((l.run steps).handle a).bare.stats := rfl
  have hqueue : ((l.run steps).handle a).queue =
      if (l.run steps).usableCamera?.isSome then
        (l.run steps).queue.send ⟨a.generation + 1, r.area, r.zoom⟩
      else (l.run steps).queue := by
    rw [← hgen]
    exact (congrArg Layer.queue hbare).trans
      (horderly.queue_struck_request hacc.1 hr (hgen.trans hacc.2))
  refine ⟨?_, ?_, r, hr, hgen, ?_, ?_⟩
  · rw [hphase, hbare, phase_request]
    rfl
  · rw [hstats, hbare, stats_request]
    rfl
  · rw [hqueue]
    cases (l.run steps).usableCamera? with
    | none => simpa using (RequestQueue.send_ne _ _).symm
    | some c => simp
  · rw [hqueue]
    cases (l.run steps).usableCamera? with
    | none => simp
    | some c => simpa using RequestQueue.send_ne _ _

/-- A failure after the return to a viewport that shows nothing. -/
def failedAfterReturn : Answer Float := ⟨1, .error ⟨"503"⟩⟩

theorem attempts_left_returnToSlit :
    (started.run returnToSlit).failures + 1 < (started.run returnToSlit).settings.attempts := by
  decide +kernel

theorem failure_retried_returnToSlit :
    started.AnswersOnce [] returnToSlit ∧
      (started.run returnToSlit).Admits (answeredIn returnToSlit) (.answer failedAfterReturn) ∧
      (started.run returnToSlit).Accepts 1 ∧
      (started.run returnToSlit).failures + 1 < (started.run returnToSlit).settings.attempts ∧
      ((started.run returnToSlit).handle failedAfterReturn).phase = .networkError ∧
      (((started.run returnToSlit).handle failedAfterReturn).queue =
          (started.run returnToSlit).queue ↔
        (started.run returnToSlit).usableCamera? = none) := by
  obtain ⟨honce, hadmits⟩ :=
    (answersOnce_concat _ _ _ _).mp (answersOnce_returnToSlit (.error ⟨"503"⟩))
  obtain ⟨hphase, -, r, -, -, -, hsame⟩ :=
    (failure_retried_iff fresh_started honce).1 failedAfterReturn ⟨"503"⟩ hadmits rfl
      accepts_returnToSlit attempts_left_returnToSlit
  exact ⟨honce, hadmits, accepts_returnToSlit, attempts_left_returnToSlit, hphase, hsame⟩

section

attribute [local instance] HostNames.ascii

/-- It is not so that every failure that does not spend the last attempt is retried, nor that the
latest request is on its way whenever a retry was told of. -/
theorem not_forall_failure_retried :
    (¬∀ (l : Layer (MarkBoard Float) Float) (steps : List (LayerStep Float)) (a : Answer Float)
      (e : FetchError),
      l.Fresh → l.settings.validate = .ok () → l.AnswersOnce [] (steps ++ [.answer a]) →
        a.result = .error e → (l.run steps).Accepts a.generation →
        (l.run steps).failures + 1 < (l.run steps).settings.attempts →
        ∃ r ∈ (l.run steps).queue.pending, r.generation = a.generation ∧
          ((l.run steps).handle a).queue =
            (l.run steps).queue.send ⟨a.generation + 1, r.area, r.zoom⟩) ∧
    ¬∀ (l : Layer (MarkBoard Float) Float) (steps : List (LayerStep Float)),
      l.Fresh → l.settings.validate = .ok () → l.AnswersOnce [] steps →
        (l.run steps).phase = .networkError →
        ∃ r ∈ (l.run steps).queue.pending, r.generation = (l.run steps).generation ∧
          r.generation ∉ answeredIn steps := by
  have hvalid : started.settings.validate = .ok () := Settings.validate_standard
  have honce : started.AnswersOnce [] (returnToSlit ++ [.answer failedAfterReturn]) :=
    answersOnce_returnToSlit _
  constructor
  · intro h
    obtain ⟨r, -, -, hqueue⟩ := h started returnToSlit failedAfterReturn ⟨"503"⟩ fresh_started
      hvalid honce rfl accepts_returnToSlit attempts_left_returnToSlit
    have hsame : ((started.run returnToSlit).handle failedAfterReturn).queue =
        (started.run returnToSlit).queue := by
      decide +kernel
    exact RequestQueue.send_ne _ _ (hqueue.symm.trans hsame)
  · intro h
    have hphase : (started.run (returnToSlit ++ [.answer failedAfterReturn])).phase =
        .networkError := by
      decide +kernel
    obtain ⟨r, -, hlatest, hopen⟩ := h started _ fresh_started hvalid honce hphase
    have hanswered : (started.run (returnToSlit ++ [.answer failedAfterReturn])).generation ∈
        answeredIn (returnToSlit ++ [.answer failedAfterReturn]) := by
      decide +kernel
    rw [hlatest] at hopen
    exact hopen hanswered

end

end Layer

end GuideLayer
