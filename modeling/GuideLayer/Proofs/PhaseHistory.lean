import GuideLayer.Proofs.Budget
import GuideLayer.Proofs.Mirror
import GuideLayer.Proofs.Notices
import Mathlib.Data.List.Chain

/-!
The history of the layer as the observer of its phase sees it. The observer is
told the present phase when it comes and every other one as it is entered, so
what it was told ends with the phase the layer is in. That only a layer that
was told to retry gives up is not to be seen from one step: it takes the count
of failures, which is positive in that phase only.
-/

namespace GuideLayer

variable {σ α : Type}

namespace Phase

/-- The layer may go from one phase to the other. -/
structure Legal (attempts : Nat) (p q : Phase) : Prop where
  moves : p ≠ q
  from_disabled : p = .disabled → q = .enabled
  from_fatal : p = .fatalNetworkError → q = .enabled ∨ q = .disabled
  to_enabled : q = .enabled → p = .disabled ∨ p = .fatalNetworkError
  to_answered : q = .hasData ∨ q = .noData ∨ q = .networkError →
    p ≠ .disabled ∧ p ≠ .fatalNetworkError
  to_fatal : q = .fatalNetworkError → p ≠ .disabled
  to_fatal_retried : 2 ≤ attempts → q = .fatalNetworkError → p = .networkError

section Legal

variable {attempts : Nat} {p q : Phase}

theorem legal_resumed (h : p.isPaused = true) : Legal attempts p .enabled := by
  rw [isPaused_eq_true_iff] at h
  rcases h with rfl | rfl <;> constructor <;> simp

theorem legal_switched_off (h : p ≠ .disabled) : Legal attempts p .disabled := by
  constructor <;> simp [h]

theorem legal_answered (h : p.isPaused = false) (hmoves : p ≠ q)
    (hq : q = .hasData ∨ q = .noData ∨ q = .networkError) : Legal attempts p q := by
  rw [isPaused_eq_false_iff] at h
  rcases hq with rfl | rfl | rfl <;> constructor <;> simp [h, hmoves]

theorem legal_given_up (h : p.isPaused = false) (hretried : 2 ≤ attempts → p = .networkError) :
    Legal attempts p .fatalNetworkError := by
  rw [isPaused_eq_false_iff] at h
  constructor <;> simp [h]
  exact hretried

end Legal

/-- Phases that lead from the first to the last, one legally after the other. -/
structure Chronicle (attempts : Nat) (first last : Phase) (phases : List Phase) : Prop where
  head : phases.head? = some first
  last : phases.getLast? = some last
  legal : phases.IsChain (Legal attempts)

namespace Chronicle

variable {attempts : Nat} {p q r : Phase} {phases : List Phase}

theorem singleton (attempts : Nat) (p : Phase) : Chronicle attempts p p [p] :=
  ⟨rfl, rfl, List.isChain_singleton p⟩

theorem concat (h : Chronicle attempts p q phases) (hlegal : Legal attempts q r) :
    Chronicle attempts p r (phases ++ [r]) where
  head := by
    rw [List.head?_append, h.head]
    rfl
  last := List.getLast?_concat
  legal := by
    rw [List.isChain_append]
    refine ⟨h.legal, List.isChain_singleton r, ?_⟩
    rw [h.last]
    rintro _ ⟨rfl⟩ _ ⟨rfl⟩
    exact hlegal

/-- One more phase, unless the layer stays where it is. -/
theorem follow (h : Chronicle attempts p q phases) (hlegal : r ≠ q → Legal attempts q r) :
    Chronicle attempts p r (phases ++ if r = q then [] else [r]) := by
  by_cases hstays : r = q
  · rw [if_pos hstays, List.append_nil, hstays]
    exact h
  · rw [if_neg hstays]
    exact h.concat (hlegal hstays)

end Chronicle

end Phase

/-- The phases that are told to one observer. -/
def heard (label : Nat) (notices : List (Notice α)) : List Phase :=
  notices.filterMap (fun n =>
    match n with
    | .phase p label' => if label' = label then some p else none
    | .gallery _ _ | .zoom _ _ _ => none)

theorem heard_append (label : Nat) (notices later : List (Notice α)) :
    heard label (notices ++ later) = heard label notices ++ heard label later :=
  List.filterMap_append

namespace Layer

open Outcome LayerStep

/-! ### Steps -/

section Transition

variable [Scalar α] [Trig α]

theorem Transition.legal {attempts : Nat} {switch : Option Bool} {h : List (Outcome α)}
    {m m' : Layer Unit α} {s : LayerStep α} (htrans : Transition m s m')
    (hm : m.Tallied attempts switch h) (hmoves : m'.phase ≠ m.phase) :
    m.phase.Legal attempts m'.phase := by
  cases htrans with
  | switchOn hoff =>
      rw [phase_request]
      exact Phase.legal_resumed (by rw [hoff]; rfl)
  | reconnect hfatal =>
      rw [phase_request]
      exact Phase.legal_resumed (by rw [hfatal]; rfl)
  | switchOff hon => exact Phase.legal_switched_off hon
  | success hacc =>
      refine Phase.legal_answered hacc.1 hmoves.symm ?_
      dsimp only
      split <;> simp
  | retry hacc =>
      rw [phase_request] at hmoves ⊢
      exact Phase.legal_answered hacc.1 hmoves.symm (.inr (.inr rfl))
  | exhaust hacc _ hspent =>
      refine Phase.legal_given_up hacc.1 (fun htwo => hm.failures_pos.mp ?_)
      rw [hm.attempts_eq] at hspent
      omega
  | look =>
      rw [phase_request] at hmoves
      exact absurd rfl hmoves
  | switched | connected | note | ignore | suppress | drop | setActive | tapGuide | tapCluster
  | observePhase | observeGallery | attachRenderer | setLocale => exact absurd rfl hmoves

end Transition

variable [MarkStore σ α] [Scalar α] [Trig α]

/-- Who looks for phases only finds in the news of a step just the phase that is entered, if one
is. -/
theorem filterMap_news {f : Notice α → Option Phase} {label : Nat}
    (hphase : ∀ p, f (.phase p label) = some p)
    (hgallery : ∀ reload label, f (.gallery reload label) = none)
    (hzoom : ∀ factor pixel animated, f (.zoom factor pixel animated) = none) {l : Layer σ α}
    (hlabel : l.observers.phase = some label) {s : LayerStep α}
    (hs : ∀ label, s ≠ .observePhase label) (l' : Layer σ α) :
    (l.news s l').filterMap f = if l'.phase = l.phase then [] else [l'.phase] := by
  have hasides : (l.asides s).filterMap f = [] := by
    refine List.filterMap_eq_nil_iff.mpr (fun n hn => ?_)
    cases n with
    | phase p label' => exact absurd rfl (ne_phase_of_mem_asides hs hn p label')
    | gallery reload label' => exact hgallery reload label'
    | zoom factor pixel animated => exact hzoom factor pixel animated
  rw [news, List.filterMap_append, hasides, List.append_nil, Observers.phaseNews, hlabel]
  split
  · rfl
  · simp [hphase]

theorem heard_news {l : Layer σ α} {label : Nat} (hlabel : l.observers.phase = some label)
    {s : LayerStep α} (hs : ∀ label, s ≠ .observePhase label) (l' : Layer σ α) :
    heard label (l.news s l') = if l'.phase = l.phase then [] else [l'.phase] :=
  filterMap_news (fun _ => if_pos rfl) (fun _ _ => rfl) (fun _ _ _ => rfl) hlabel hs l'

/-! ### Runs -/

/-- The observer that comes is told where the layer is. -/
theorem heard_observePhase (l : Layer σ α) (label : Nat) :
    heard label (l.told [.observePhase label]) = [l.phase] := by
  have hphase : (l.step (.observePhase label)).phase = l.phase := phase_tellPhase _ _
  rw [told_singleton, news, hphase, Observers.phaseNews_self, List.nil_append]
  simp [asides, heard]

theorem legal_run {l : Layer σ α} (hl : l.Fresh) (hpos : 0 < l.settings.attempts)
    (steps : List (LayerStep α)) (s : LayerStep α)
    (hmoves : ((l.run steps).step s).phase ≠ (l.run steps).phase) :
    (l.run steps).phase.Legal l.settings.attempts ((l.run steps).step s).phase :=
  (transition_step (l.run steps) s).legal (tallied_run hl hpos steps) hmoves

/-- An observer of the phase that comes at some time and is not replaced later hears the phases of
the layer one after the other, from the one that it finds to the one that the layer is in. Each
follows legally on the one before it. -/
theorem chronicle_heard {l : Layer σ α} (hl : l.Fresh) (hpos : 0 < l.settings.attempts)
    (earlier : List (LayerStep α)) (label : Nat) {later : List (LayerStep α)}
    (hstays : ∀ s ∈ later, ∀ label', s ≠ .observePhase label') :
    Phase.Chronicle l.settings.attempts (l.run earlier).phase
      (l.run (earlier ++ .observePhase label :: later)).phase
      (heard label ((l.run earlier).told (.observePhase label :: later))) := by
  induction later using List.reverseRecOn with
  | nil =>
      have hphase : ((l.run earlier).step (.observePhase label)).phase = (l.run earlier).phase :=
        phase_tellPhase _ _
      rw [heard_observePhase, run_concat, hphase]
      exact Phase.Chronicle.singleton _ _
  | append_singleton later s ih =>
      obtain ⟨hbefore, hlast⟩ := List.forall_mem_append.mp hstays
      have hsplit : earlier ++ .observePhase label :: (later ++ [s]) =
          (earlier ++ .observePhase label :: later) ++ [s] := by simp
      have hlabel : (l.run (earlier ++ .observePhase label :: later)).observers.phase =
          some label := by
        rw [run_append]
        change (((l.run earlier).step (.observePhase label)).run later).observers.phase = _
        rw [observers_run Observers.phase _ (fun s hs o => o.phase_joined (hbefore s hs)),
          observers_step]
        rfl
      rw [hsplit, run_concat, ← List.cons_append, told_append, ← run_append, told_singleton,
        heard_append, heard_news hlabel (hlast s (List.mem_singleton_self s))]
      exact (ih hbefore).follow (legal_run hl hpos _ s)

/-- The layer gives up after three failures, is reconnected, gets its guides and is switched off. -/
def upAndDown : List (LayerStep Float) :=
  [.updateViewport tile, .answer ⟨1, .error ⟨"503"⟩⟩, .answer ⟨2, .error ⟨"503"⟩⟩,
    .answer ⟨3, .error ⟨"503"⟩⟩, .reconnect, .answer ⟨3, .ok []⟩, .answer ⟨4, .ok threeSpots⟩,
    .setEnabled false]

theorem chronicle_heard_upAndDown :
    started.Fresh ∧ 0 < started.settings.attempts ∧
      (∀ s ∈ upAndDown, ∀ label, s ≠ .observePhase label) ∧
      heard 7 ((started.run [.setEnabled true]).told (.observePhase 7 :: upAndDown)) =
        [.enabled, .networkError, .fatalNetworkError, .enabled, .hasData, .disabled] ∧
      Phase.Chronicle 3 .enabled .disabled
        (heard 7 ((started.run [.setEnabled true]).told (.observePhase 7 :: upAndDown))) := by
  have hstays : ∀ s ∈ upAndDown, ∀ label, s ≠ .observePhase label := by
    simp [upAndDown]
  have hfirst : (started.run [.setEnabled true]).phase = .enabled := by decide +kernel
  have hlast : (started.run ([.setEnabled true] ++ .observePhase 7 :: upAndDown)).phase =
      .disabled := by
    decide +kernel
  have hchronicle := chronicle_heard fresh_started (by decide) [.setEnabled true] 7 hstays
  rw [hfirst, hlast] at hchronicle
  exact ⟨fresh_started, by decide, hstays, by decide +kernel, hchronicle⟩

end Layer

end GuideLayer
