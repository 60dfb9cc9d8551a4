import GuideLayer.Proofs.Service

/-!
Throttling. A viewport that looks like the recorded one is not asked for, and
the recorded one stays. So the screen is always compared with what was asked
for last, never with what was merely on screen before, and small moves cannot
add up unnoticed. The only real obligation is that nothing but a request moves
the recorded viewport of a layer that is not paused.
-/

namespace GuideLayer

variable {σ α : Type} [Scalar α]

namespace LayerStep

/-- The viewport that a step reports, if there is anything to see in it. -/
def seen? : LayerStep α → Option (Camera α)
  | .updateViewport c => if c.viewport.Degenerate then none else some c
  | _ => none

@[simp] theorem seen?_degenerate {c : Camera α} (h : c.viewport.Degenerate) :
    (LayerStep.updateViewport c).seen? = none := if_pos h

@[simp] theorem seen?_usable {c : Camera α} (h : ¬c.viewport.Degenerate) :
    (LayerStep.updateViewport c).seen? = some c := if_neg h

end LayerStep

namespace Layer

/-- What is on screen is the recorded viewport, or looks like it. -/
def Covers [Trig α] (l : Layer σ α) (c : Camera α) : Prop :=
  ∃ current, l.camera = some current ∧ ¬current.viewport.Degenerate ∧
    (c.viewport = current.viewport ∨ looksLike l.settings current.viewport c.viewport = true)

/-- What was seen last since the layer came out of a pause, after one more step that leads from one
layer to another. -/
def seenAfter (l : Layer σ α) (s : LayerStep α) (l' : Layer σ α) (seen : Option (Camera α)) :
    Option (Camera α) :=
  if l.phase.isPaused = true ∧ l'.phase.isPaused = false then none else s.seen?.or seen

theorem seenAfter_of_resumed {l l' : Layer σ α} {s : LayerStep α} {seen : Option (Camera α)}
    (hbefore : l.phase.isPaused = true) (hafter : l'.phase.isPaused = false) :
    l.seenAfter s l' seen = none := if_pos ⟨hbefore, hafter⟩

theorem seenAfter_of_active {l l' : Layer σ α} {s : LayerStep α} {seen : Option (Camera α)}
    (hbefore : l.phase.isPaused = false) : l.seenAfter s l' seen = s.seen?.or seen := by
  simp [seenAfter, hbefore]

variable [Trig α]

/-- One step. Requests follow the screen, and whatever else moves it leaves it covered. -/
theorem Transition.covers {m m' : Layer Unit α} {s : LayerStep α} (h : Transition m s m')
    {seen : Option (Camera α)}
    (hm : m.phase.isPaused = false → ∀ c ∈ seen, m.Covers c) (hon : m'.phase.isPaused = false) :
    ∀ c ∈ m.seenAfter s m' seen, m'.Covers c := by
  cases h with
  | switchOn hoff =>
      rw [seenAfter_of_resumed (by rw [hoff]; rfl) hon]
      exact nofun
  | reconnect hfatal =>
      rw [seenAfter_of_resumed (by rw [hfatal]; rfl) hon]
      exact nofun
  | switchOff | exhaust => cases hon
  | note hpaused =>
      have hon : m.phase.isPaused = false := hon
      rw [hon] at hpaused
      cases hpaused
  | ignore hactive hdegenerate =>
      rw [seenAfter_of_active hactive, LayerStep.seen?_degenerate hdegenerate]
      exact hm hactive
  | suppress hactive hsees hcurrent hlike =>
      rw [seenAfter_of_active hactive, LayerStep.seen?_usable hsees]
      rintro c ⟨rfl⟩
      obtain ⟨hcamera, husable⟩ := usableCamera?_eq_some_iff.mp hcurrent
      exact ⟨_, hcamera, husable, .inr hlike⟩
  | @look c hactive hsees =>
      rw [seenAfter_of_active hactive, LayerStep.seen?_usable hsees]
      rintro c' ⟨rfl⟩
      refine ⟨c, ?_, hsees, .inl rfl⟩
      rw [camera_request]
      rfl
  | @retry a _ hacc =>
      rw [seenAfter_of_active hacc.1]
      intro c hc
      obtain ⟨current, hcamera, hcovers⟩ := hm hacc.1 c hc
      refine ⟨current, ?_, ?_⟩
      · rw [camera_request]
        exact hcamera
      · rw [settings_request]
        exact hcovers
  | success hacc =>
      rw [seenAfter_of_active hacc.1]
      exact hm hacc.1
  | switched | connected | drop | setActive | tapGuide | tapCluster | observePhase
  | observeGallery | attachRenderer | setLocale =>
      have hactive : m.phase.isPaused = false := hon
      rw [seenAfter_of_active hactive]
      exact hm hactive

variable [MarkStore σ α]

/-- The last viewport with anything to see in it that was reported since the layer last came out of
a pause in the course of the steps. If it never did, the one given at the beginning counts too. -/
def lastSeen (l : Layer σ α) (seen : Option (Camera α)) :
    List (LayerStep α) → Option (Camera α)
  | [] => seen
  | s :: steps => lastSeen (l.step s) (l.seenAfter s (l.step s) seen) steps

theorem lastSeen_concat (l : Layer σ α) (seen : Option (Camera α)) (steps : List (LayerStep α))
    (s : LayerStep α) :
    l.lastSeen seen (steps ++ [s]) =
      (l.run steps).seenAfter s (l.run (steps ++ [s])) (l.lastSeen seen steps) := by
  rw [run_concat]
  induction steps generalizing l seen with
  | nil => rfl
  | cons t steps ih => exact ih (l.step t) _

theorem covers_run (l : Layer σ α) (steps : List (LayerStep α))
    (hon : (l.run steps).bare.phase.isPaused = false) :
    ∀ c ∈ l.lastSeen none steps, (l.run steps).bare.Covers c := by
  induction steps using List.reverseRecOn with
  | nil => exact nofun
  | append_singleton steps s ih =>
      rw [lastSeen_concat]
      exact (transition_run l steps s).covers ih hon

/-- As long as the layer is not paused, the latest request is for the recorded viewport, provided
that there is anything to see in it. And what was last on screen since the last pause is that
viewport or looks like it, whatever was suppressed, answered or asked again in between. -/
theorem latest_request_covers_screen {l : Layer σ α} (hl : l.Fresh) (steps : List (LayerStep α))
    (hon : (l.run steps).phase.isPaused = false) :
    (∀ c, (l.run steps).camera = some c → ¬c.viewport.Degenerate →
      ∃ r ∈ (l.run steps).queue.pending, r.generation = (l.run steps).generation ∧
        (∀ r' ∈ (l.run steps).queue.pending, r' ≠ r → r'.generation < r.generation) ∧
        r.area = c.viewport.visible ∧ r.zoom = c.zoom) ∧
    ∀ c, l.lastSeen none steps = some c → (l.run steps).Covers c := by
  obtain ⟨hnumbered, haimed, -⟩ := orderly_run hl steps
  constructor
  · intro c hcamera husable
    have hlast := haimed hon c (usableCamera?_eq_some_iff.mpr ⟨hcamera, husable⟩)
    have hmem := List.mem_of_getLast? hlast
    refine ⟨_, hmem, rfl, ?_, rfl, rfl⟩
    intro r' hr' hne
    have hle := hnumbered.generation_le (List.mem_map_of_mem hr')
    have hlatest : r'.generation ≠ (l.run steps).bare.generation :=
      fun heq => hne (hnumbered.eq_of_generation_eq hr' hmem heq)
    exact Nat.lt_of_le_of_ne hle hlatest
  · intro c hc
    exact covers_run l steps hon c hc

/-- The layer is switched on and zoomed out, and hears late of a failure. -/
def zoomedOut : List (LayerStep Float) :=
  [.setEnabled true, .updateViewport tile, .updateViewport wideTile,
    .answer ⟨1, .error ⟨"503"⟩⟩]

theorem latest_request_covers_zoomedOut :
    (started.run zoomedOut).phase.isPaused = false ∧
      started.lastSeen none zoomedOut = some wideTile ∧
      (started.run zoomedOut).Covers wideTile := by
  have hon : (started.run zoomedOut).phase.isPaused = false := by decide +kernel
  have hseen : started.lastSeen none zoomedOut = some wideTile := by decide +kernel
  exact ⟨hon, hseen,
    (latest_request_covers_screen fresh_started zoomedOut hon).2 wideTile hseen⟩

end Layer

end GuideLayer
