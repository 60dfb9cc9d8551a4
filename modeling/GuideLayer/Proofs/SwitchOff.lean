import GuideLayer.Proofs.Service

/-!
Answers that come after the layer was switched off and on again. Switching off
does not take back what was asked before; it is the request of the next
switching on that makes older answers stale. That request is not sent if the
recorded viewport shows nothing, and then, and only then, an answer from before
is still taken.
-/

namespace GuideLayer

namespace Layer

variable {σ α : Type} [Scalar α]

/-- The requests in `old` were sent before the last switching off. Later ones are missing as long
as the layer is off, and after that only if it was switched on with a viewport that shows nothing,
unless the latest request is answered. -/
structure Parted (old : List (Request α)) (answered : List Nat) (l : Layer σ α) : Prop where
  kept : old <+: l.queue.pending
  off : l.phase = .disabled → l.queue.pending = old
  spent : l.phase = .fatalNetworkError → l.generation ∈ answered
  blind : l.phase.isPaused = false → l.usableCamera? = none →
    l.queue.pending = old ∨ l.generation ∈ answered
  sighted : l.phase.isPaused = false → l.usableCamera? ≠ none →
    old.length < l.queue.pending.length

/-- A layer that takes answers may ask again at any time. -/
theorem parted_request {old : List (Request α)} {answered : List Nat} {l : Layer σ α}
    (hkept : old <+: l.queue.pending) (hon : l.phase.isPaused = false)
    (hblind : l.usableCamera? = none → l.queue.pending = old ∨ l.generation ∈ answered) :
    l.request.Parted old answered := by
  obtain ⟨hdisabled, hfatal⟩ := (Phase.isPaused_eq_false_iff l.phase).mp hon
  refine ⟨hkept.trans (pending_prefix_request l), ?_, ?_, ?_, ?_⟩
  · rw [phase_request]
    intro h
    exact absurd h hdisabled
  · rw [phase_request]
    intro h
    exact absurd h hfatal
  · rw [usableCamera?_request]
    intro _ hnone
    rw [request_of_unusable hnone]
    exact hblind hnone
  · rw [usableCamera?_request]
    intro _ hsome
    obtain ⟨c, hc⟩ := Option.ne_none_iff_exists'.mp hsome
    rw [request_of_usable hc]
    change old.length < (l.queue.pending ++ [_]).length
    rw [List.length_append, List.length_singleton]
    exact Nat.lt_succ_of_le hkept.length_le

namespace Parted

variable {old : List (Request α)} {answered : List Nat}

theorem mono {answered' : List Nat} (hsub : answered ⊆ answered') {l : Layer σ α}
    (h : l.Parted old answered) : l.Parted old answered' where
  kept := h.kept
  off := h.off
  spent hfatal := hsub (h.spent hfatal)
  blind hon hnone := (h.blind hon hnone).imp_right (fun hg => hsub hg)
  sighted := h.sighted

/-- Switching off parts what was sent before from what comes later. -/
theorem of_off {l : Layer σ α} (hoff : l.phase = .disabled) :
    l.Parted l.queue.pending answered := by
  refine ⟨List.prefix_refl _, fun _ => rfl, ?_, ?_, ?_⟩
  all_goals
    rw [hoff]
    exact nofun

variable [Trig α] {m m' : Layer Unit α} {s : LayerStep α}

/-- A step that does not switch the layer off leaves the parting where it is. -/
theorem transition (h : Transition m s m') (hm : m.Parted old answered)
    (hstays : ¬(m.phase ≠ .disabled ∧ m'.phase = .disabled)) :
    m'.Parted old (answered ++ s.answered?.toList) := by
  have hmore : m.Parted old (answered ++ s.answered?.toList) :=
    hm.mono (List.subset_append_left _ _)
  cases h with
  | switchOn hoff =>
      -- The request that is to part old answers from new ones may be missing here.
      exact parted_request hmore.kept rfl (fun _ => .inl (hmore.off hoff))
  | switchOff hon => exact absurd ⟨hon, rfl⟩ hstays
  | reconnect hfatal =>
      exact parted_request hmore.kept rfl (fun _ => .inr (hmore.spent hfatal))
  | look hon hsees =>
      refine parted_request hmore.kept hon (fun hnone => ?_)
      rw [usableCamera?_record hsees] at hnone
      contradiction
  | note hpaused =>
      refine ⟨hmore.kept, hmore.off, hmore.spent, ?_, ?_⟩
      all_goals
        intro hon
        exact absurd (hpaused.symm.trans hon) Bool.noConfusion
  | success hacc =>
      refine ⟨hmore.kept, ?_, ?_, ?_, ?_⟩
      · intro hoff
        dsimp only at hoff
        split at hoff <;> contradiction
      · intro hfatal
        dsimp only at hfatal
        split at hfatal <;> contradiction
      · intro _
        exact hmore.blind hacc.1
      · intro _
        exact hmore.sighted hacc.1
  | retry hacc =>
      exact parted_request (l := m.struck) hmore.kept rfl (hmore.blind hacc.1)
  | @exhaust a e hacc =>
      refine ⟨hmore.kept, nofun, ?_, nofun, nofun⟩
      intro _
      have hlatest : a.generation = m.generation := hacc.2
      change m.generation ∈ answered ++ [a.generation]
      rw [hlatest]
      exact List.mem_append_right _ (List.mem_singleton_self _)
  | suppress | drop | setLocale =>
      exact ⟨hmore.kept, hmore.off, hmore.spent, hmore.blind, hmore.sighted⟩
  | switched | connected | ignore | setActive | tapGuide | tapCluster | observePhase
  | observeGallery | attachRenderer => exact hmore

end Parted

variable [Trig α] [MarkStore σ α]

/-- The step switches the layer off, which was on before. -/
def SwitchesOff (l : Layer σ α) (s : LayerStep α) : Prop :=
  l.phase ≠ .disabled ∧ (l.step s).phase = .disabled

instance (l : Layer σ α) (s : LayerStep α) : Decidable (l.SwitchesOff s) :=
  inferInstanceAs (Decidable (_ ∧ _))

/-- The requests that had been sent when the layer was last switched off in the course of the
steps. If it never was, they are those given at the beginning. -/
def sentBeforeOff (l : Layer σ α) (old : List (Request α)) :
    List (LayerStep α) → List (Request α)
  | [] => old
  | s :: steps =>
    sentBeforeOff (l.step s) (if l.SwitchesOff s then l.queue.pending else old) steps

theorem sentBeforeOff_concat (l : Layer σ α) (old : List (Request α))
    (steps : List (LayerStep α)) (s : LayerStep α) :
    l.sentBeforeOff old (steps ++ [s]) =
      if (l.run steps).SwitchesOff s then (l.run steps).queue.pending
      else l.sentBeforeOff old steps := by
  induction steps generalizing l old with
  | nil => rfl
  | cons t steps ih => exact ih (l.step t) _

theorem parted_run {l : Layer σ α} (hl : l.Fresh) (steps : List (LayerStep α)) :
    (l.run steps).bare.Parted (l.sentBeforeOff [] steps) (answeredIn steps) := by
  induction steps using List.reverseRecOn with
  | nil =>
      have hoff : l.bare.phase = .disabled := by rw [hl.bare_eq]
      have hnone : l.bare.queue.pending = [] := by rw [hl.bare_eq]
      have hparted : l.bare.Parted l.bare.queue.pending [] := Parted.of_off hoff
      rw [hnone] at hparted
      exact hparted
  | append_singleton steps s ih =>
      have htrans := transition_run l steps s
      rw [sentBeforeOff_concat, answeredIn_concat]
      split
      · rename_i hswitch
        have hphase : (l.run (steps ++ [s])).bare.phase = .disabled := by
          rw [run_concat]
          exact hswitch.2
        have hqueue : (l.run (steps ++ [s])).bare.queue = (l.run steps).queue := by
          rw [htrans.of_switches_off hswitch.1 hphase]
          rfl
        rw [← hqueue]
        exact Parted.of_off hphase
      · rename_i hstays
        refine ih.transition htrans ?_
        rw [run_concat]
        exact hstays

/-! ### Answers that are applied -/

/-- A screen of no width. -/
def slit : Camera Float := ⟨⟨⟨0, 0⟩, 1, 0, 0, 100⟩, 16⟩

/-- The layer asks for the tile, is switched off, and is back on when the screen has no width. -/
def returnToSlit : List (LayerStep Float) :=
  [.setEnabled true, .updateViewport tile, .setEnabled false, .updateViewport slit,
    .setEnabled true]

theorem accepts_returnToSlit : (started.run returnToSlit).Accepts 1 := by decide +kernel

theorem answersOnce_returnToSlit (result : Except FetchError (List (Spot Float))) :
    started.AnswersOnce [] (returnToSlit ++ [.answer ⟨1, result⟩]) := by
  rw [answersOnce_concat]
  refine ⟨by decide +kernel, ?_⟩
  rintro g ⟨rfl⟩
  show 1 ∈ (started.run returnToSlit).queue.pending.map Request.generation ∧
    1 ∉ answeredIn returnToSlit
  decide +kernel

/-- Of all answers that are applied, those to requests from before the last switching off are the
ones that find a recorded viewport that shows nothing. -/
theorem applied_sent_before_off_iff {l : Layer σ α} (hl : l.Fresh) {steps : List (LayerStep α)}
    {a : Answer α} (honce : l.AnswersOnce [] (steps ++ [.answer a]))
    (happlied : (l.run steps).Applied a) :
    ∃ r ∈ (l.run steps).queue.pending, r.generation = a.generation ∧
      (r ∈ l.sentBeforeOff [] steps ↔
        ∃ c, (l.run steps).camera = some c ∧ c.viewport.Degenerate) := by
  obtain ⟨hnumbered, -, hseen⟩ := orderly_run hl steps
  have hparted := parted_run hl steps
  obtain ⟨-, hadmits⟩ := (answersOnce_concat l [] steps (.answer a)).mp honce
  obtain ⟨hsent, hfirst⟩ := hadmits a.generation rfl
  obtain ⟨hon, hlatest⟩ := (applied_iff_accepts _ a).mp happlied
  obtain ⟨r, hr, hgen⟩ := List.mem_map.mp hsent
  refine ⟨r, hr, hgen, ?_⟩
  have hfirst : (l.run steps).generation ∉ answeredIn steps := by
    rw [← hlatest]
    exact hfirst
  constructor
  · intro hold
    have hle : r.generation ≤ (l.sentBeforeOff [] steps).length :=
      hnumbered.generation_le_length hparted.kept hold
    have hcount := hnumbered.length_pending
    -- A usable viewport was asked for after that, so the latest number would be too high.
    have hblind : (l.run steps).bare.usableCamera? = none := by
      by_contra hsome
      have hlater := hparted.sighted hon hsome
      have hr' : r.generation = (l.run steps).bare.generation := hgen.trans hlatest
      omega
    obtain ⟨c, hc⟩ := Option.ne_none_iff_exists'.mp (hseen (List.ne_nil_of_mem hr))
    exact ⟨c, hc, usableCamera?_eq_none_iff.mp hblind c hc⟩
  · rintro ⟨c, hc, hdegenerate⟩
    have hblind : (l.run steps).bare.usableCamera? = none := by
      rw [usableCamera?_eq_none_iff]
      intro c' hc'
      have hc' : (l.run steps).camera = some c' := hc'
      rw [hc] at hc'
      cases hc'
      exact hdegenerate
    rcases hparted.blind hon hblind with hsame | hanswered
    · rw [← hsame]
      exact hr
    · exact absurd hanswered hfirst

theorem applied_sent_before_off_returnToSlit :
    started.AnswersOnce [] (returnToSlit ++ [.answer ⟨1, .ok []⟩]) ∧
      (started.run returnToSlit).Applied ⟨1, .ok []⟩ ∧
      ∃ r ∈ (started.run returnToSlit).queue.pending, r.generation = 1 ∧
        (r ∈ started.sentBeforeOff [] returnToSlit ↔
          ∃ c, (started.run returnToSlit).camera = some c ∧ c.viewport.Degenerate) := by
  have honce := answersOnce_returnToSlit (.ok [])
  have happlied := (applied_iff_accepts _ ⟨1, .ok []⟩).mpr accepts_returnToSlit
  exact ⟨honce, happlied, applied_sent_before_off_iff fresh_started honce happlied⟩

/-- It is not so that no answer is applied to a request from before the last switching off. -/
theorem not_forall_applied_sent_after_off :
    ¬∀ (l : Layer (MarkBoard Float) Float) (steps : List (LayerStep Float)) (a : Answer Float),
      l.Fresh → l.AnswersOnce [] (steps ++ [.answer a]) → (l.run steps).Applied a →
        ∀ r ∈ (l.run steps).queue.pending, r.generation = a.generation →
          r ∉ l.sentBeforeOff [] steps := by
  intro h
  have hsent : (⟨1, tile.viewport.visible, 16⟩ : Request Float) ∈
      (started.run returnToSlit).queue.pending := by
    decide +kernel
  have hbefore : (⟨1, tile.viewport.visible, 16⟩ : Request Float) ∈
      started.sentBeforeOff [] returnToSlit := by
    decide +kernel
  have happlied := (applied_iff_accepts _ ⟨1, .ok []⟩).mpr accepts_returnToSlit
  exact h started returnToSlit ⟨1, .ok []⟩ fresh_started (answersOnce_returnToSlit _) happlied _
    hsent rfl hbefore

end Layer

end GuideLayer
