import GuideLayer.Layer.Run
import GuideLayer.Marks.Board
import Mathlib.Data.List.Induction

/-!
What a step can do to the part of a layer that requests and answers depend on.
Marks, the highlight and the observers never decide about a request, so they
are left out, and every step is one row of a short table. Whatever is to hold
along all runs is checked row by row.
-/

namespace GuideLayer

namespace Phase

@[simp] theorem isEnabled_eq_false_iff (p : Phase) : p.isEnabled = false ↔ p = .disabled := by
  cases p <;> decide

@[simp] theorem isEnabled_eq_true_iff (p : Phase) : p.isEnabled = true ↔ p ≠ .disabled := by
  cases p <;> decide

theorem isPaused_eq_true_iff (p : Phase) :
    p.isPaused = true ↔ p = .disabled ∨ p = .fatalNetworkError := by
  cases p <;> decide

theorem isPaused_eq_false_iff (p : Phase) :
    p.isPaused = false ↔ p ≠ .disabled ∧ p ≠ .fatalNetworkError := by
  cases p <;> decide

end Phase

namespace Layer

variable {σ α : Type}

/-- The layer without its marks and observers. -/
def bare (l : Layer σ α) : Layer Unit α :=
  { settings := l.settings
    store := ()
    queue := l.queue
    phase := l.phase
    camera := l.camera
    spots := l.spots
    generation := l.generation
    failures := l.failures
    stats := l.stats }

@[simp] theorem bare_tellPhase (p : Phase) (l : Layer σ α) : (tellPhase p l).bare = l.bare := by
  unfold tellPhase
  split <;> rfl

@[simp] theorem bare_tellGallery (reload : Bool) (l : Layer σ α) :
    (tellGallery reload l).bare = l.bare := by
  unfold tellGallery
  split <;> rfl

@[simp] theorem bare_enter (p : Phase) (l : Layer σ α) :
    (l.enter p).bare = { l.bare with phase := p } := by
  unfold enter
  split
  · rename_i h
    subst h
    rfl
  · rw [bare_tellPhase]
    rfl

theorem stats_drop (l : Layer σ α) :
    l.drop.stats = { l.stats with stale := l.drop.stats.stale } := by
  unfold drop
  split <;> rfl

/-- Dropping an answer changes nothing but the count of dropped answers. -/
theorem bare_drop (l : Layer σ α) : l.drop.bare = { l.bare with stats := l.bare.drop.stats } := by
  by_cases h : l.phase.isPaused = true
  · rw [show l.drop = l from if_pos h, show l.bare.drop = l.bare from if_pos h]
  · rw [show l.drop = { l with stats := { l.stats with stale := l.stats.stale + 1 } } from if_neg h,
      show l.bare.drop = { l.bare with stats := { l.stats with stale := l.stats.stale + 1 } } from
        if_neg h]
    rfl

/-- A layer to which nothing has happened, except that observers may have come. -/
def Fresh (l : Layer σ α) : Prop :=
  l = { settings := l.settings
        store := l.store
        observers := l.observers
        notices := l.notices }

theorem Fresh.bare_eq {l : Layer σ α} (h : l.Fresh) :
    l.bare = { settings := l.settings, store := () } :=
  congrArg bare h

/-- A layer with standard settings and no marks. -/
def started : Layer (MarkBoard Float) Float := { settings := .standard, store := {} }

theorem fresh_started : started.Fresh := rfl

/-- A screen of a hundred pixels each way. -/
def tile : Camera Float := ⟨⟨⟨0, 0⟩, 1, 0, 100, 100⟩, 16⟩

/-- The same screen when it shows more of the map. -/
def wideTile : Camera Float := ⟨⟨⟨0, 0⟩, 1.5, 0, 100, 100⟩, 15⟩

/-- The layer when a failure has been counted that it is going to make up for. -/
def struck (l : Layer σ α) : Layer σ α :=
  { l with
    phase := .networkError
    failures := l.failures + 1
    stats := { l.stats with
      failures := l.stats.failures + 1
      retries := l.stats.retries + 1 } }

section Request

variable [Scalar α]

theorem usableCamera?_record {c : Camera α} (h : ¬c.viewport.Degenerate) (l : Layer σ α) :
    (l.record c).usableCamera? = some c := by
  simp [usableCamera?, record, h]

theorem usableCamera?_eq_some_iff {l : Layer σ α} {c : Camera α} :
    l.usableCamera? = some c ↔ l.camera = some c ∧ ¬c.viewport.Degenerate := by
  simp [usableCamera?, Option.filter_eq_some_iff]

theorem usableCamera?_eq_none_iff {l : Layer σ α} :
    l.usableCamera? = none ↔ ∀ c, l.camera = some c → c.viewport.Degenerate := by
  simp [usableCamera?, Option.filter_eq_none_iff]

theorem request_of_usable {l : Layer σ α} {c : Camera α} (h : l.usableCamera? = some c) :
    l.request =
      { l with
        generation := l.generation + 1
        stats := { l.stats with issued := l.stats.issued + 1 }
        queue := l.queue.send ⟨l.generation + 1, c.viewport.visible, c.zoom⟩ } := by
  unfold request
  rw [h]

theorem request_of_unusable {l : Layer σ α} (h : l.usableCamera? = none) : l.request = l := by
  unfold request
  rw [h]

@[simp] theorem phase_request (l : Layer σ α) : l.request.phase = l.phase := by
  unfold request
  split <;> rfl

@[simp] theorem camera_request (l : Layer σ α) : l.request.camera = l.camera := by
  unfold request
  split <;> rfl

@[simp] theorem usableCamera?_request (l : Layer σ α) :
    l.request.usableCamera? = l.usableCamera? := by
  rw [usableCamera?, camera_request]
  rfl

@[simp] theorem settings_request (l : Layer σ α) : l.request.settings = l.settings := by
  unfold request
  split <;> rfl

@[simp] theorem spots_request (l : Layer σ α) : l.request.spots = l.spots := by
  unfold request
  split <;> rfl

@[simp] theorem failures_request (l : Layer σ α) : l.request.failures = l.failures := by
  unfold request
  split <;> rfl

/-- Of the numbers that are kept, a request changes how many requests there were. -/
theorem stats_request (l : Layer σ α) :
    l.request.stats = { l.stats with issued := l.request.stats.issued } := by
  unfold request
  split <;> rfl

@[simp] theorem bare_request (l : Layer σ α) : l.request.bare = l.bare.request := by
  cases h : l.usableCamera? with
  | none => rw [request_of_unusable h, request_of_unusable (l := l.bare) h]
  | some c =>
      rw [request_of_usable h, request_of_usable (l := l.bare) h]
      rfl

end Request

section Marks

variable [MarkStore σ α]

@[simp] theorem bare_highlightActive (l : Layer σ α) : l.highlightActive.bare = l.bare := by
  unfold highlightActive
  dsimp only
  split
  · rfl
  · split <;> rfl

@[simp] theorem bare_redraw (l : Layer σ α) : l.redraw.bare = l.bare := by
  unfold redraw
  rw [bare_highlightActive]
  rfl

@[simp] theorem bare_clear (l : Layer σ α) :
    l.clear.bare = { l.bare with spots := [], failures := 0 } := by
  unfold clear
  rw [bare_redraw]
  rfl

/-- An answer that does not count is dropped, whatever it says. -/
theorem handle_of_not_accepts [Scalar α] {a : Answer α} {l : Layer σ α}
    (h : ¬l.Accepts a.generation) : l.handle a = l.drop := by
  unfold handle
  cases a.result with
  | ok spots => exact if_neg h
  | error e => exact if_neg h

@[simp] theorem bare_setActive (guideId : String) (l : Layer σ α) :
    (l.setActive guideId).bare = l.bare := by
  unfold setActive
  split
  · rfl
  · rw [bare_highlightActive]
    rfl

@[simp] theorem bare_tapGuide (id : MarkId) (l : Layer σ α) : (l.tapGuide id).bare = l.bare := by
  unfold tapGuide
  split
  · rfl
  · rw [bare_tellGallery]
    rfl

@[simp] theorem bare_tapCluster [Scalar α] [Trig α] (id : MarkId) (v : Viewport α)
    (l : Layer σ α) : (l.tapCluster id v).bare = l.bare := by
  unfold tapCluster
  split
  · rfl
  · split <;> rfl

end Marks

variable [Scalar α] [Trig α]

/-- The table of the layer. Each row says when a step does what, and what is left after it. -/
inductive Transition (l : Layer Unit α) : LayerStep α → Layer Unit α → Prop
  | switchOn : l.phase = .disabled →
      Transition l (.setEnabled true) (request { l with phase := .enabled })
  | switchOff : l.phase ≠ .disabled →
      Transition l (.setEnabled false) { l with phase := .disabled, spots := [], failures := 0 }
  | switched {on : Bool} : on = l.phase.isEnabled → Transition l (.setEnabled on) l
  | reconnect : l.phase = .fatalNetworkError →
      Transition l .reconnect (request { l with phase := .enabled })
  | connected : l.phase ≠ .fatalNetworkError → Transition l .reconnect l
  | note {c : Camera α} : l.phase.isPaused = true →
      Transition l (.updateViewport c) (l.record c)
  | ignore {c : Camera α} : l.phase.isPaused = false → c.viewport.Degenerate →
      Transition l (.updateViewport c) l
  | suppress {c current : Camera α} : l.phase.isPaused = false → ¬c.viewport.Degenerate →
      l.usableCamera? = some current →
      looksLike l.settings current.viewport c.viewport = true →
      Transition l (.updateViewport c) l.suppress
  | look {c : Camera α} : l.phase.isPaused = false → ¬c.viewport.Degenerate →
      (∀ current, l.usableCamera? = some current →
        looksLike l.settings current.viewport c.viewport = false) →
      Transition l (.updateViewport c) (l.record c).request
  | drop {a : Answer α} : ¬l.Accepts a.generation →
      Transition l (.answer a) { l with stats := l.drop.stats }
  | success {a : Answer α} {spots : List (Spot α)} : l.Accepts a.generation →
      a.result = .ok spots →
      Transition l (.answer a)
        { l with
          phase := if spots.isEmpty then .noData else .hasData
          spots := spots
          failures := 0
          stats := { l.stats with successes := l.stats.successes + 1 } }
  | retry {a : Answer α} {e : FetchError} : l.Accepts a.generation → a.result = .error e →
      l.failures + 1 < l.settings.attempts →
      Transition l (.answer a) l.struck.request
  | exhaust {a : Answer α} {e : FetchError} : l.Accepts a.generation → a.result = .error e →
      l.settings.attempts ≤ l.failures + 1 →
      Transition l (.answer a)
        { l with
          phase := .fatalNetworkError
          spots := []
          failures := 0
          stats := { l.stats with failures := l.stats.failures + 1 } }
  | setActive {guideId : String} : Transition l (.setActive guideId) l
  | tapGuide {id : MarkId} : Transition l (.tapGuide id) l
  | tapCluster {id : MarkId} {v : Viewport α} : Transition l (.tapCluster id v) l
  | observePhase {label : Nat} : Transition l (.observePhase label) l
  | observeGallery {label : Nat} : Transition l (.observeGallery label) l
  | attachRenderer : Transition l .attachRenderer l
  | setLocale {locale : String} : Transition l (.setLocale locale) (l.setLocale locale)

namespace Transition

variable {m m' : Layer Unit α}

/-- Only switching off leaves a layer off that was on. -/
theorem of_switches_off {s : LayerStep α} (h : Transition m s m') (hon : m.phase ≠ .disabled)
    (hoff : m'.phase = .disabled) :
    m' = { m with phase := .disabled, spots := [], failures := 0 } := by
  cases h with
  | switchOff => rfl
  | switchOn hm => exact absurd hm hon
  | reconnect | retry =>
      rw [phase_request] at hoff
      cases hoff
  | look =>
      rw [phase_request] at hoff
      exact absurd hoff hon
  | success =>
      change (if _ then _ else _) = _ at hoff
      split at hoff <;> cases hoff
  | exhaust => cases hoff
  | _ => exact absurd hoff hon

variable {a : Answer α}

theorem of_drop (h : Transition m (.answer a) m') (ha : ¬m.Accepts a.generation) :
    m' = { m with stats := m.drop.stats } := by
  cases h with
  | drop => rfl
  | success hacc | retry hacc | exhaust hacc => exact absurd hacc ha

theorem of_success (h : Transition m (.answer a) m') (ha : m.Accepts a.generation)
    {spots : List (Spot α)} (hresult : a.result = .ok spots) :
    m' = { m with
      phase := if spots.isEmpty then .noData else .hasData
      spots := spots
      failures := 0
      stats := { m.stats with successes := m.stats.successes + 1 } } := by
  cases h with
  | drop hacc => exact absurd ha hacc
  | success _ hok =>
      rw [hresult] at hok
      cases hok
      rfl
  | retry _ herror | exhaust _ herror =>
      rw [hresult] at herror
      cases herror

theorem of_retry (h : Transition m (.answer a) m') (ha : m.Accepts a.generation)
    {e : FetchError} (hresult : a.result = .error e)
    (hleft : m.failures + 1 < m.settings.attempts) : m' = m.struck.request := by
  cases h with
  | drop hacc => exact absurd ha hacc
  | success _ hok =>
      rw [hresult] at hok
      cases hok
  | retry => rfl
  | exhaust _ _ hspent => omega

theorem of_exhaust (h : Transition m (.answer a) m') (ha : m.Accepts a.generation)
    {e : FetchError} (hresult : a.result = .error e)
    (hspent : m.settings.attempts ≤ m.failures + 1) :
    m' = { m with
      phase := .fatalNetworkError
      spots := []
      failures := 0
      stats := { m.stats with failures := m.stats.failures + 1 } } := by
  cases h with
  | drop hacc => exact absurd ha hacc
  | success _ hok =>
      rw [hresult] at hok
      cases hok
  | retry _ _ hleft => omega
  | exhaust => rfl

/-- Of the settings only the locale of the gallery can change. -/
theorem settings_eq {s : LayerStep α} (h : Transition m s m') :
    ∃ locale, m'.settings =
      { m.settings with gallery := { m.settings.gallery with locale := locale } } := by
  cases h with
  | @setLocale locale => exact ⟨locale, rfl⟩
  | switchOn | reconnect | retry | look =>
      rw [settings_request]
      exact ⟨m.settings.gallery.locale, rfl⟩
  | _ => exact ⟨m.settings.gallery.locale, rfl⟩

end Transition

theorem transition_reconnect (l : Layer σ α) : Transition l.bare .reconnect l.reconnect.bare := by
  unfold reconnect
  split
  · rename_i h
    rw [bare_request, bare_enter]
    exact .reconnect h
  · rename_i h
    exact .connected h

theorem transition_updateViewport (c : Camera α) (l : Layer σ α) :
    Transition l.bare (.updateViewport c) (l.updateViewport c).bare := by
  unfold updateViewport
  split
  · rename_i hp
    exact .note hp
  rename_i hp
  have hp : l.phase.isPaused = false := by simpa using hp
  split
  · rename_i hd
    exact .ignore hp hd
  rename_i hd
  split
  · rename_i hnone
    rw [bare_request]
    refine .look hp hd ?_
    intro current hcurrent
    have : l.usableCamera? = some current := hcurrent
    rw [hnone] at this
    contradiction
  rename_i current hsome
  split
  · rename_i hlike
    exact .suppress hp hd hsome hlike
  · rename_i hlike
    rw [bare_request]
    refine .look hp hd ?_
    intro other hother
    have hother : l.usableCamera? = some other := hother
    rw [hsome] at hother
    cases hother
    exact Bool.eq_false_iff.mpr hlike

variable [MarkStore σ α]

theorem transition_setEnabled (on : Bool) (l : Layer σ α) :
    Transition l.bare (.setEnabled on) (l.setEnabled on).bare := by
  unfold setEnabled
  split
  · rename_i h
    exact .switched h
  · rename_i h
    cases on with
    | true =>
        have hoff : l.phase = .disabled := by
          rw [← Phase.isEnabled_eq_false_iff]
          simpa using h
        rw [if_pos rfl, bare_request, bare_enter]
        exact .switchOn hoff
    | false =>
        have hon : l.phase ≠ .disabled := by
          rw [← Phase.isEnabled_eq_true_iff]
          simpa using h
        rw [if_neg Bool.false_ne_true]
        change Transition l.bare (.setEnabled false) (l.clear.enter .disabled).bare
        rw [bare_enter, bare_clear]
        exact .switchOff hon

theorem transition_answer (a : Answer α) (l : Layer σ α) :
    Transition l.bare (.answer a) (l.handle a).bare := by
  by_cases hacc : l.Accepts a.generation
  · unfold handle
    cases hresult : a.result with
    | ok spots =>
        simp only [receive, if_pos hacc, bare_tellGallery, bare_redraw, bare_enter]
        exact .success hacc hresult
    | error e =>
        simp only [fail, if_pos hacc]
        split
        · rename_i hspent
          rw [bare_tellGallery, bare_enter, bare_clear]
          exact .exhaust hacc hresult hspent
        · rename_i hleft
          have hcount (m : Layer σ α) :
              Layer.bare { m with stats := { m.stats with retries := m.stats.retries + 1 } } =
                { m.bare with
                  stats := { m.bare.stats with retries := m.bare.stats.retries + 1 } } := rfl
          rw [bare_request, hcount, bare_enter]
          exact .retry hacc hresult (Nat.lt_of_not_le hleft)
  · rw [handle_of_not_accepts hacc, bare_drop]
    exact .drop hacc

/-- Every step is in the table. -/
theorem transition_step (l : Layer σ α) (s : LayerStep α) :
    Transition l.bare s (l.step s).bare := by
  cases s with
  | setEnabled on => exact transition_setEnabled on l
  | reconnect => exact transition_reconnect l
  | updateViewport c => exact transition_updateViewport c l
  | setActive guideId =>
      change Transition l.bare _ (l.setActive guideId).bare
      rw [bare_setActive]
      exact .setActive
  | tapGuide id =>
      change Transition l.bare _ (l.tapGuide id).bare
      rw [bare_tapGuide]
      exact .tapGuide
  | tapCluster id v =>
      change Transition l.bare _ (l.tapCluster id v).bare
      rw [bare_tapCluster]
      exact .tapCluster
  | observePhase label =>
      change Transition l.bare _ (tellPhase _ _).bare
      rw [bare_tellPhase]
      exact .observePhase
  | observeGallery label => exact .observeGallery
  | attachRenderer => exact .attachRenderer
  | setLocale locale => exact .setLocale
  | answer a => exact transition_answer a l

/-! ### Runs -/

@[simp] theorem run_concat (l : Layer σ α) (steps : List (LayerStep α)) (s : LayerStep α) :
    l.run (steps ++ [s]) = (l.run steps).step s := by
  simp [run]

theorem run_append (l : Layer σ α) (steps later : List (LayerStep α)) :
    l.run (steps ++ later) = (l.run steps).run later := by
  simp [run]

omit [Scalar α] [Trig α] [MarkStore σ α] in
/-- A step of a run that goes on by one is the last one, or it is a step of the run before. -/
theorem concat_eq_append_cons {steps earlier later : List (LayerStep α)} {s t : LayerStep α}
    (h : steps ++ [s] = earlier ++ t :: later) :
    later = [] ∧ earlier = steps ∧ t = s ∨
      ∃ between, later = between ++ [s] ∧ steps = earlier ++ t :: between := by
  cases later using List.reverseRecOn with
  | nil =>
      obtain ⟨rfl, hs⟩ := List.append_inj' h rfl
      cases hs
      exact .inl ⟨rfl, rfl, rfl⟩
  | append_singleton between s' =>
      have h : steps ++ [s] = (earlier ++ t :: between) ++ [s'] := by simpa using h
      obtain ⟨rfl, hs⟩ := List.append_inj' h rfl
      cases hs
      exact .inr ⟨between, rfl, rfl⟩

theorem transition_run (l : Layer σ α) (steps : List (LayerStep α)) (s : LayerStep α) :
    Transition (l.run steps).bare s (l.run (steps ++ [s])).bare := by
  rw [run_concat]
  exact transition_step (l.run steps) s

theorem settings_run (l : Layer σ α) (steps : List (LayerStep α)) :
    ∃ locale, (l.run steps).settings =
      { l.settings with gallery := { l.settings.gallery with locale := locale } } := by
  induction steps using List.reverseRecOn with
  | nil => exact ⟨l.settings.gallery.locale, rfl⟩
  | append_singleton steps s ih =>
      obtain ⟨locale, hsettings⟩ := ih
      obtain ⟨locale', hstep⟩ := (transition_run l steps s).settings_eq
      have hstep : (l.run (steps ++ [s])).settings =
          { (l.run steps).settings with
            gallery := { (l.run steps).settings.gallery with locale := locale' } } := hstep
      refine ⟨locale', ?_⟩
      rw [hstep, hsettings]

end Layer

end GuideLayer
