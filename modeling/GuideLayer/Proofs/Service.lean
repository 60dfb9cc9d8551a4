import GuideLayer.Proofs.Transition
import Mathlib.Data.List.Nodup
import Mathlib.Data.List.Range

/-!
The layer and the service it asks. Requests are numbered from one in the order
in which they are sent; a layer that takes answers and has a usable viewport
has sent its latest request for just that viewport. A service answers what it
was sent, each request once at most, in any order and after any delay.
-/

namespace GuideLayer

variable {σ α : Type}

namespace LayerStep

/-- The number of the request that a step answers. -/
def answered? : LayerStep α → Option Nat
  | .answer a => some a.generation
  | _ => none

end LayerStep

namespace Layer

/-- The numbers of the requests that are answered in the course of the steps. -/
def answeredIn (steps : List (LayerStep α)) : List Nat := steps.filterMap LayerStep.answered?

@[simp] theorem answeredIn_concat (steps : List (LayerStep α)) (s : LayerStep α) :
    answeredIn (steps ++ [s]) = answeredIn steps ++ s.answered?.toList := by
  simp only [answeredIn, List.filterMap_append]
  cases h : s.answered? <;> simp [h]

/-- If the step is an answer, then to a request that was sent and is not answered yet. No step
takes a request out of the queue, so `pending` holds all that were ever sent. -/
def Admits (l : Layer σ α) (answered : List Nat) (s : LayerStep α) : Prop :=
  ∀ g ∈ s.answered?, g ∈ l.queue.pending.map Request.generation ∧ g ∉ answered

instance (l : Layer σ α) (answered : List Nat) (s : LayerStep α) :
    Decidable (l.Admits answered s) :=
  inferInstanceAs (Decidable (∀ g ∈ s.answered?, _ ∧ _))

section Run

variable [MarkStore σ α] [Scalar α] [Trig α]

/-- All answers of a run are to requests that were sent before, and no request is answered twice.
The first list holds the requests that were answered before the run. -/
def AnswersOnce (l : Layer σ α) (answered : List Nat) : List (LayerStep α) → Prop
  | [] => True
  | s :: steps =>
    l.Admits answered s ∧ AnswersOnce (l.step s) (answered ++ s.answered?.toList) steps

instance decidableAnswersOnce (l : Layer σ α) (answered : List Nat) :
    (steps : List (LayerStep α)) → Decidable (l.AnswersOnce answered steps)
  | [] => .isTrue trivial
  | s :: steps =>
    have := decidableAnswersOnce (l.step s) (answered ++ s.answered?.toList) steps
    inferInstanceAs (Decidable (l.Admits answered s ∧
      AnswersOnce (l.step s) (answered ++ s.answered?.toList) steps))

theorem answersOnce_concat (l : Layer σ α) (answered : List Nat) (steps : List (LayerStep α))
    (s : LayerStep α) :
    l.AnswersOnce answered (steps ++ [s]) ↔
      l.AnswersOnce answered steps ∧ (l.run steps).Admits (answered ++ answeredIn steps) s := by
  induction steps generalizing l answered with
  | nil => simp [AnswersOnce, answeredIn, run]
  | cons t steps ih =>
      have hrun : l.run (t :: steps) = (l.step t).run steps := rfl
      have hanswered : answeredIn (t :: steps) = t.answered?.toList ++ answeredIn steps := by
        cases h : t.answered? <;> simp [answeredIn, h]
      rw [List.cons_append, AnswersOnce, AnswersOnce, ih, hrun, hanswered, List.append_assoc,
        and_assoc]

end Run

/-! ### Answers that are applied -/

/-- The answer has an effect: its guides replace those there were, or it counts as a failure. -/
def Applied [MarkStore σ α] [Scalar α] (l : Layer σ α) (a : Answer α) : Prop :=
  match a.result with
  | .ok spots =>
    (l.handle a).spots = spots ∧ (l.handle a).stats.successes = l.stats.successes + 1
  | .error _ => (l.handle a).stats.failures = l.stats.failures + 1

/-- Just the answers that are accepted are applied. -/
theorem applied_iff_accepts [MarkStore σ α] [Scalar α] [Trig α] (l : Layer σ α) (a : Answer α) :
    l.Applied a ↔ l.Accepts a.generation := by
  have htrans := transition_answer a l
  have hspots : (l.handle a).spots = (l.handle a).bare.spots := rfl
  have hstats : (l.handle a).stats = (l.handle a).bare.stats := rfl
  unfold Applied
  constructor
  · intro happlied
    by_contra hacc
    rw [handle_of_not_accepts hacc, stats_drop] at happlied
    cases hresult : a.result with
    | ok spots =>
        rw [hresult] at happlied
        obtain ⟨-, hcount⟩ := happlied
        dsimp only at hcount
        omega
    | error e =>
        rw [hresult] at happlied
        dsimp only at happlied
        omega
  · intro hacc
    cases hresult : a.result with
    | ok spots =>
        rw [hspots, hstats, htrans.of_success hacc hresult]
        exact ⟨rfl, rfl⟩
    | error e =>
        rw [hstats]
        by_cases hspent : l.settings.attempts ≤ l.failures + 1
        · rw [htrans.of_exhaust hacc hresult hspent]
          rfl
        · rw [htrans.of_retry hacc hresult (Nat.lt_of_not_le hspent), stats_request]
          rfl

/-! ### Numbers and viewports of requests -/

/-- The requests are numbered from one, and the layer knows the last number. -/
def Numbered (l : Layer σ α) : Prop :=
  l.queue.pending.map Request.generation = List.range' 1 l.generation

theorem Numbered.length_pending {l : Layer σ α} (h : l.Numbered) :
    l.queue.pending.length = l.generation := by
  rw [← List.length_map, h, List.length_range']

theorem Numbered.generation_le {l : Layer σ α} (h : l.Numbered) {g : Nat}
    (hg : g ∈ l.queue.pending.map Request.generation) : g ≤ l.generation := by
  rw [h, List.mem_range'_1] at hg
  omega

/-- As many requests as were sent before, so many numbers are taken. -/
theorem Numbered.generation_le_length {l : Layer σ α} (h : l.Numbered) {old : List (Request α)}
    (hkept : old <+: l.queue.pending) {r : Request α} (hr : r ∈ old) :
    r.generation ≤ old.length := by
  obtain ⟨later, hlater⟩ := hkept
  have hsplit : List.range' 1 l.generation =
      old.map Request.generation ++ later.map Request.generation := by
    rw [← List.map_append, hlater, h]
  obtain ⟨k, -, hold, -⟩ := List.range'_eq_append_iff.mp hsplit
  have hk : old.length = k := by
    rw [← List.length_map Request.generation, hold, List.length_range']
  have hmem : r.generation ∈ List.range' 1 k := by
    rw [← hold]
    exact List.mem_map_of_mem hr
  rw [List.mem_range'_1] at hmem
  omega

/-- A number belongs to one request only. -/
theorem Numbered.eq_of_generation_eq {l : Layer σ α} (h : l.Numbered) {r r' : Request α}
    (hr : r ∈ l.queue.pending) (hr' : r' ∈ l.queue.pending)
    (heq : r.generation = r'.generation) : r = r' := by
  have hnodup : (l.queue.pending.map Request.generation).Nodup := by
    rw [h]
    exact List.nodup_range'
  exact List.inj_on_of_nodup_map hnodup hr hr' heq

variable [Scalar α]

/-- If the recorded viewport is usable, the latest request is for it. -/
def Aimed (l : Layer σ α) : Prop :=
  ∀ c, l.usableCamera? = some c →
    l.queue.pending.getLast? = some ⟨l.generation, c.viewport.visible, c.zoom⟩

theorem aimed_request (l : Layer σ α) : l.request.Aimed := by
  intro c hc
  cases h : l.usableCamera? with
  | none =>
      rw [request_of_unusable h, h] at hc
      contradiction
  | some c' =>
      rw [request_of_usable h] at hc ⊢
      have hcamera : l.usableCamera? = some c := hc
      rw [h] at hcamera
      cases hcamera
      simp [RequestQueue.send]

theorem Numbered.request {l : Layer σ α} (h : l.Numbered) : l.request.Numbered := by
  cases hc : l.usableCamera? with
  | none =>
      rw [request_of_unusable hc]
      exact h
  | some c =>
      rw [request_of_usable hc]
      change (l.queue.pending ++ [_]).map Request.generation = List.range' 1 (l.generation + 1)
      rw [List.map_append, h, List.range'_concat]
      simp [Nat.add_comm]

/-- A request goes to the end of the queue. -/
theorem pending_prefix_request (l : Layer σ α) :
    l.queue.pending <+: l.request.queue.pending := by
  cases hc : l.usableCamera? with
  | none =>
      refine ⟨[], ?_⟩
      rw [request_of_unusable hc, List.append_nil]
  | some c =>
      refine ⟨[⟨l.generation + 1, c.viewport.visible, c.zoom⟩], ?_⟩
      rw [request_of_usable hc]
      rfl

/-- What numbers and viewports of the requests have to do with the layer that sent them. -/
structure Orderly (l : Layer σ α) : Prop where
  numbered : l.Numbered
  /-- A layer that pauses may have noted a viewport that it never asked for. -/
  aimed : l.phase.isPaused = false → l.Aimed
  seen : l.queue.pending ≠ [] → l.camera ≠ none

/-- The latest request is the one for the viewport that is recorded, if that is usable. -/
theorem Orderly.eq_of_usable {l : Layer σ α} (h : l.Orderly) (hon : l.phase.isPaused = false)
    {c : Camera α} (hc : l.usableCamera? = some c) {r : Request α}
    (hr : r ∈ l.queue.pending) (hlatest : r.generation = l.generation) :
    r = ⟨l.generation, c.viewport.visible, c.zoom⟩ :=
  h.numbered.eq_of_generation_eq hr (List.mem_of_getLast? (h.aimed hon c hc)) hlatest

theorem Orderly.of_fresh {l : Layer σ α} (h : l.Fresh) : l.bare.Orderly := by
  rw [h.bare_eq]
  exact ⟨rfl, fun hp => Bool.noConfusion hp, fun hne => absurd rfl hne⟩

theorem orderly_request {l : Layer σ α} (hn : l.Numbered)
    (hs : l.queue.pending ≠ [] → l.camera ≠ none) : l.request.Orderly := by
  refine ⟨hn.request, fun _ => aimed_request l, ?_⟩
  rw [camera_request]
  cases hc : l.usableCamera? with
  | none =>
      rw [request_of_unusable hc]
      exact hs
  | some c =>
      intro _ hnone
      rw [usableCamera?, hnone] at hc
      contradiction

variable [Trig α]

theorem Orderly.transition {m m' : Layer Unit α} {s : LayerStep α} (h : Transition m s m')
    (hm : m.Orderly) : m'.Orderly := by
  cases h with
  | switchOn | reconnect | retry => exact orderly_request hm.numbered hm.seen
  | look => exact orderly_request hm.numbered (fun _ => Option.some_ne_none _)
  | switchOff | exhaust => exact ⟨hm.numbered, fun hp => Bool.noConfusion hp, hm.seen⟩
  | note hp =>
      refine ⟨hm.numbered, fun hp' => ?_, fun _ => Option.some_ne_none _⟩
      have hp'' : m.phase.isPaused = false := hp'
      rw [hp''] at hp
      contradiction
  | success hacc => exact ⟨hm.numbered, fun _ => hm.aimed hacc.1, hm.seen⟩
  | suppress | drop | setLocale => exact ⟨hm.numbered, hm.aimed, hm.seen⟩
  | switched | connected | ignore | setActive | tapGuide | tapCluster | observePhase
  | observeGallery | attachRenderer => exact hm

variable [MarkStore σ α]

theorem orderly_run {l : Layer σ α} (hl : l.Fresh) (steps : List (LayerStep α)) :
    (l.run steps).bare.Orderly := by
  induction steps using List.reverseRecOn with
  | nil => exact Orderly.of_fresh hl
  | append_singleton steps s ih => exact ih.transition (transition_run l steps s)

end Layer

end GuideLayer
