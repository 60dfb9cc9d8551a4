import GuideLayer.Proofs.Budget
import GuideLayer.Proofs.Retry

/-!
The answer that a layer waits for. Only a failure of the latest request can
make a layer give up. So as long as nothing else is asked, the answer to the
latest request finds the layer as willing to take it as when the request was
sent, unless the layer is switched off.
-/

namespace GuideLayer

namespace Layer

variable {σ α : Type}

section Request

variable [Scalar α]

theorem generation_le_request (l : Layer σ α) : l.generation ≤ l.request.generation := by
  cases h : l.usableCamera? with
  | none => rw [request_of_unusable h]
  | some c =>
      rw [request_of_usable h]
      exact Nat.le_succ _

theorem Transition.generation_le [Trig α] {m m' : Layer Unit α} {s : LayerStep α}
    (h : Transition m s m') : m.generation ≤ m'.generation := by
  rcases h.requests_or_stays with ⟨x, rfl, -, hgen⟩ | ⟨-, hgen, -⟩
  · rw [← hgen]
    exact generation_le_request x
  · exact Nat.le_of_eq hgen.symm

end Request

variable [MarkStore σ α] [Scalar α] [Trig α]

theorem generation_le_run (l : Layer σ α) (later : List (LayerStep α)) :
    l.generation ≤ (l.run later).generation := by
  induction later using List.reverseRecOn with
  | nil => exact Nat.le_refl _
  | append_singleton later s ih => exact Nat.le_trans ih (transition_run l later s).generation_le

/-- While nothing is sent and the latest request is not answered, a layer does not give up. -/
theorem not_fatal_of_unanswered {l : Layer σ α} (hon : l.phase ≠ .fatalNetworkError)
    {later : List (LayerStep α)} (hsame : (l.run later).generation = l.generation)
    (hopen : l.generation ∉ answeredIn later) : (l.run later).phase ≠ .fatalNetworkError := by
  induction later using List.reverseRecOn with
  | nil => exact hon
  | append_singleton later s ih =>
      have htrans := transition_run l later s
      -- The number cannot have moved in between, for it never goes back.
      have hmid : (l.run later).generation = l.generation := by
        have hbefore : l.generation ≤ (l.run later).generation := generation_le_run l later
        have hafter : (l.run later).generation ≤ (l.run (later ++ [s])).generation :=
          htrans.generation_le
        omega
      rw [answeredIn_concat, List.mem_append, not_or] at hopen
      obtain ⟨hearlier, hnow⟩ := hopen
      intro hfatal
      obtain ⟨a, e, rfl, -, hacc, -⟩ := htrans.gives_up_iff.mp ⟨ih hmid hearlier, hfatal⟩
      have hlatest : a.generation = (l.run later).generation := hacc.2
      apply hnow
      change l.generation ∈ [a.generation]
      rw [hlatest, hmid]
      exact List.mem_singleton_self _

/-- A layer that waits and has a usable viewport waits for something: its latest request was sent
and is not answered yet. Its answer is applied whenever it comes and whatever comes before it, if
nothing else was asked until then and the layer is not switched off. -/
theorem latest_open_and_applied {l : Layer σ α} (hl : l.Fresh) {steps : List (LayerStep α)}
    (honce : l.AnswersOnce [] steps) (hwaits : (l.run steps).Waits) {c : Camera α}
    (hcamera : (l.run steps).camera = some c) (husable : ¬c.viewport.Degenerate) :
    (∃ r ∈ (l.run steps).queue.pending, r.generation = (l.run steps).generation ∧
        r.generation ∉ answeredIn steps) ∧
      ∀ (later : List (LayerStep α)) (a : Answer α),
        l.AnswersOnce [] (steps ++ later ++ [.answer a]) →
        a.generation = (l.run steps).generation →
        (l.run (steps ++ later)).queue = (l.run steps).queue →
        (l.run (steps ++ later)).phase ≠ .disabled →
        (l.run (steps ++ later)).Applied a := by
  have hc : (l.run steps).bare.usableCamera? = some c :=
    usableCamera?_eq_some_iff.mpr ⟨hcamera, husable⟩
  have horderly := orderly_run hl steps
  have hon := hwaits.isPaused_eq_false
  constructor
  · have hopen := (awaiting_run hl honce).awaited hwaits (by rw [hc]; exact Option.some_ne_none c)
    exact ⟨_, List.mem_of_getLast? (horderly.aimed hon c hc), rfl, hopen⟩
  · intro later a honce' hlatest hqueue henabled
    obtain ⟨-, hadmits⟩ := (answersOnce_concat l [] (steps ++ later) (.answer a)).mp honce'
    obtain ⟨-, hfirst⟩ := hadmits a.generation rfl
    have hsame : (l.run (steps ++ later)).generation = (l.run steps).generation := by
      have hsent := (orderly_run hl (steps ++ later)).numbered.length_pending
      have hsent' := horderly.numbered.length_pending
      have hlength := congrArg (fun q => q.pending.length) hqueue
      simp only [bare] at hsent hsent'
      omega
    have hfatal : (l.run (steps ++ later)).phase ≠ .fatalNetworkError := by
      rw [run_append] at hsame ⊢
      refine not_fatal_of_unanswered ((Phase.isPaused_eq_false_iff _).mp hon).2 hsame ?_
      rw [← hlatest]
      intro hanswered
      apply hfirst
      rw [List.nil_append, answeredIn, List.filterMap_append]
      exact List.mem_append_right _ hanswered
    rw [applied_iff_accepts]
    exact ⟨(Phase.isPaused_eq_false_iff _).mpr ⟨henabled, hfatal⟩, hlatest.trans hsame.symm⟩

/-- The layer is switched on and zoomed out before the first answer comes. -/
def askedTwice : List (LayerStep Float) :=
  [.setEnabled true, .updateViewport tile, .updateViewport wideTile]

theorem latest_open_and_applied_askedTwice :
    (started.run askedTwice).Waits ∧
      (started.run (askedTwice ++ [.answer ⟨1, .error ⟨"503"⟩⟩])).Applied ⟨2, .ok []⟩ := by
  have honce : started.AnswersOnce [] askedTwice := by decide +kernel
  have hwaits : (started.run askedTwice).Waits := .inl (by decide +kernel)
  have hcamera : (started.run askedTwice).camera = some wideTile := by decide +kernel
  have husable : ¬wideTile.viewport.Degenerate := by decide +kernel
  refine ⟨hwaits, ?_⟩
  refine (latest_open_and_applied fresh_started honce hwaits hcamera husable).2
    [.answer ⟨1, .error ⟨"503"⟩⟩] ⟨2, .ok []⟩ ?_ ?_ ?_ ?_
  all_goals decide +kernel

end Layer

end GuideLayer
