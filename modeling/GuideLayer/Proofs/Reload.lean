import GuideLayer.Proofs.Budget
import GuideLayer.Proofs.Mirror
import GuideLayer.Proofs.Notices
import GuideLayer.Proofs.SwitchOff
import GuideLayer.Proofs.Validation

/-!
Whether the observer of the gallery hears that there are other guides behind
it. It does when guides come and when the layer gives up. Switching off is the
one step that takes the guides away and does not tell, so whoever reads the
gallery at every reload has cards of guides that are gone from then on, until
the next reload.
-/

namespace GuideLayer

variable {σ α : Type}

namespace Notice

/-- The observer of the gallery is told that its content is another one. -/
def isReload (label : Nat) : Notice α → Bool
  | .gallery reload label' => reload && label' == label
  | .phase _ _ | .zoom _ _ _ => false

theorem isReload_iff (label : Nat) (n : Notice α) :
    n.isReload label = true ↔ n = .gallery true label := by
  cases n <;> simp [isReload]

end Notice

/-- A reload of the gallery is among the notices. -/
def Reloaded (label : Nat) (notices : List (Notice α)) : Prop := .gallery true label ∈ notices

instance (label : Nat) (notices : List (Notice α)) : Decidable (Reloaded label notices) :=
  decidable_of_iff (notices.any (Notice.isReload label) = true) (by
    simp [Reloaded, Notice.isReload_iff])

theorem reloaded_append_iff (label : Nat) (notices later : List (Notice α)) :
    Reloaded label (notices ++ later) ↔ Reloaded label notices ∨ Reloaded label later :=
  List.mem_append

namespace Layer

open Outcome

/-! ### Steps -/

section Transition

variable [Scalar α] [Trig α] {m m' : Layer Unit α}

/-- What is asked for is settled while the layer is on. -/
theorem Transition.on_of_settles {a : Answer α} (h : Transition m (.answer a) m')
    (hsettles : m.Settles a) : m'.phase ≠ .disabled := by
  obtain ⟨hacc, hrest⟩ := hsettles
  cases hresult : a.result with
  | ok spots =>
      rw [h.of_success hacc hresult]
      dsimp only
      split <;> exact nofun
  | error e =>
      rw [hresult] at hrest
      rw [h.of_exhaust hacc hresult (hrest.resolve_left nofun)]
      exact nofun

/-- The guides are others only when something is settled or the layer is switched off. -/
theorem Transition.spots_of_unsettled {s : LayerStep α} (h : Transition m s m')
    (hno : ∀ a, s = .answer a → ¬m.Settles a)
    (hstays : ¬(m.phase ≠ .disabled ∧ m'.phase = .disabled)) : m'.spots = m.spots := by
  apply h.spots_of_open
  · rintro ⟨hmoves, hpaused⟩
    rcases (Phase.isPaused_eq_true_iff m'.phase).mp hpaused with hoff | hfatal
    · rw [hoff] at hmoves
      exact hstays ⟨hmoves.symm, hoff⟩
    · rw [hfatal] at hmoves
      obtain ⟨a, -, rfl, -, hacc, hspent⟩ := h.gives_up_iff.mp ⟨hmoves.symm, hfatal⟩
      exact hno a rfl ⟨hacc, .inr hspent⟩
  · rintro spots ⟨a, rfl, hresult, hacc⟩
    exact hno a rfl ⟨hacc, .inl (by rw [hresult]; rfl)⟩

end Transition

variable [Scalar α] [Trig α] [MarkStore σ α]

theorem reloaded_step_iff (l : Layer σ α) (label : Nat) (s : LayerStep α) :
    Reloaded label (l.told [s]) ↔
      l.observers.gallery = some label ∧ ∃ a, s = .answer a ∧ l.Settles a := by
  have hphase :
      ¬Reloaded label (l.observers.phaseNews l.phase (l.step s).phase : List (Notice α)) := by
    unfold Reloaded Observers.phaseNews
    split <;> simp
  rw [told_singleton, news, reloaded_append_iff, or_iff_right hphase]
  unfold Reloaded
  cases s with
  | answer a =>
      by_cases hsettles : l.Settles a
      · simp [asides, hsettles, Observers.mem_galleryNews_iff]
      · simp [asides, hsettles]
  | tapGuide id => cases h : l.tapped? .guide id <;> simp [asides, h, Observers.mem_galleryNews_iff]
  | tapCluster id v => cases h : l.tapped? .cluster id <;> simp [asides, h]
  | _ => simp [asides]

theorem spots_of_switchesOff {l : Layer σ α} {s : LayerStep α} (h : l.SwitchesOff s) :
    (l.step s).spots = [] := by
  have hspots := congrArg Layer.spots ((transition_step l s).of_switches_off h.1 h.2)
  exact hspots

/-- Nothing changes behind the gallery unless a reload is told or the layer is switched off. -/
theorem spots_of_not_reloaded {l : Layer σ α} {label : Nat}
    (hlabel : l.observers.gallery = some label) {s : LayerStep α}
    (hquiet : ¬Reloaded label (l.told [s])) (hstays : ¬l.SwitchesOff s) :
    (l.step s).spots = l.spots := by
  rw [reloaded_step_iff] at hquiet
  refine (transition_step l s).spots_of_unsettled ?_ hstays
  intro a ha hsettles
  exact hquiet ⟨hlabel, a, ha, hsettles⟩

theorem not_reloaded_of_switchesOff {l : Layer σ α} {s : LayerStep α} (h : l.SwitchesOff s)
    (label : Nat) : ¬Reloaded label (l.told [s]) := by
  rw [reloaded_step_iff]
  rintro ⟨-, a, rfl, hsettles⟩
  exact (transition_step l (.answer a)).on_of_settles hsettles h.2

/-! ### Runs -/

/-- The guides that an observer has read who reads them at every reload, and had `copy` before. -/
def reread (label : Nat) (l : Layer σ α) (copy : List (Spot α)) :
    List (LayerStep α) → List (Spot α)
  | [] => copy
  | s :: steps =>
    reread label (l.step s) (if Reloaded label (l.told [s]) then (l.step s).spots else copy) steps

theorem reread_concat (label : Nat) (l : Layer σ α) (copy : List (Spot α))
    (steps : List (LayerStep α)) (s : LayerStep α) :
    l.reread label copy (steps ++ [s]) =
      if Reloaded label ((l.run steps).told [s]) then ((l.run steps).step s).spots
      else l.reread label copy steps := by
  induction steps generalizing l copy with
  | nil => rfl
  | cons t steps ih => exact ih (l.step t) _

/-- Guides were taken away by switching off, and no reload was told since. -/
def Outdated (label : Nat) (l : Layer σ α) (steps : List (LayerStep α)) : Prop :=
  ∃ earlier s later, steps = earlier ++ s :: later ∧ (l.run earlier).spots ≠ [] ∧
    (l.run earlier).SwitchesOff s ∧ ¬Reloaded label ((l.run (earlier ++ [s])).told later)

theorem not_outdated_nil (label : Nat) (l : Layer σ α) : ¬l.Outdated label [] := by
  rintro ⟨earlier, s, later, heq, -⟩
  simp at heq

theorem outdated_concat_iff (label : Nat) (l : Layer σ α) (steps : List (LayerStep α))
    (s : LayerStep α) :
    l.Outdated label (steps ++ [s]) ↔
      (l.Outdated label steps ∧ ¬Reloaded label ((l.run steps).told [s])) ∨
        ((l.run steps).spots ≠ [] ∧ (l.run steps).SwitchesOff s) := by
  have htold (earlier : List (LayerStep α)) (t : LayerStep α) (later : List (LayerStep α)) :
      (l.run (earlier ++ [t])).told (later ++ [s]) =
        (l.run (earlier ++ [t])).told later ++ (l.run (earlier ++ t :: later)).told [s] := by
    rw [told_append, ← run_append, List.append_assoc]
    rfl
  constructor
  · rintro ⟨earlier, t, later, heq, hspots, hoff, hquiet⟩
    rcases concat_eq_append_cons heq with ⟨rfl, rfl, rfl⟩ | ⟨between, rfl, rfl⟩
    · exact .inr ⟨hspots, hoff⟩
    · rw [htold, reloaded_append_iff, not_or] at hquiet
      exact .inl ⟨⟨earlier, t, between, rfl, hspots, hoff, hquiet.1⟩, hquiet.2⟩
  · rintro (⟨⟨earlier, t, later, rfl, hspots, hoff, hquiet⟩, hlast⟩ | ⟨hspots, hoff⟩)
    · refine ⟨earlier, t, later ++ [s], by simp, hspots, hoff, ?_⟩
      rw [htold, reloaded_append_iff, not_or]
      exact ⟨hquiet, hlast⟩
    · refine ⟨steps, s, [], rfl, hspots, hoff, ?_⟩
      simp [Reloaded, told, run]

theorem gallery_run {l : Layer σ α} {label : Nat} (hlabel : l.observers.gallery = some label)
    {steps : List (LayerStep α)} (hstays : ∀ s ∈ steps, ∀ label', s ≠ .observeGallery label') :
    (l.run steps).observers.gallery = some label := by
  rw [observers_run Observers.gallery l (fun s hs o => o.gallery_joined (hstays s hs))]
  exact hlabel

/-- Only a reload brings guides after they were taken away. -/
theorem spots_of_outdated {l : Layer σ α} {label : Nat} (hlabel : l.observers.gallery = some label)
    {steps : List (LayerStep α)} (hstays : ∀ s ∈ steps, ∀ label', s ≠ .observeGallery label')
    (h : l.Outdated label steps) : (l.run steps).spots = [] := by
  induction steps using List.reverseRecOn with
  | nil => exact absurd h (not_outdated_nil label l)
  | append_singleton steps s ih =>
      have hbefore := (List.forall_mem_append.mp hstays).1
      rw [run_concat]
      by_cases hoff : (l.run steps).SwitchesOff s
      · exact spots_of_switchesOff hoff
      · obtain ⟨hout, hquiet⟩ | ⟨-, hoff'⟩ := (outdated_concat_iff label l steps s).mp h
        · rw [spots_of_not_reloaded (gallery_run hlabel hbefore) hquiet hoff]
          exact ih hbefore hout
        · exact absurd hoff' hoff

theorem reread_ne_spots_iff {l : Layer σ α} {label : Nat}
    (hlabel : l.observers.gallery = some label) {steps : List (LayerStep α)}
    (hstays : ∀ s ∈ steps, ∀ label', s ≠ .observeGallery label') :
    l.reread label l.spots steps ≠ (l.run steps).spots ↔ l.Outdated label steps := by
  induction steps using List.reverseRecOn with
  | nil => exact iff_of_false (fun hne => hne rfl) (not_outdated_nil label l)
  | append_singleton steps s ih =>
      have hbefore := (List.forall_mem_append.mp hstays).1
      specialize ih hbefore
      rw [reread_concat, outdated_concat_iff, run_concat]
      by_cases hreload : Reloaded label ((l.run steps).told [s])
      · rw [if_pos hreload]
        refine iff_of_false (fun hne => hne rfl) ?_
        rintro (⟨-, hquiet⟩ | ⟨-, hoff⟩)
        · exact hquiet hreload
        · exact not_reloaded_of_switchesOff hoff label hreload
      rw [if_neg hreload, and_iff_left hreload]
      by_cases hoff : (l.run steps).SwitchesOff s
      · rw [spots_of_switchesOff hoff, and_iff_left hoff, ← ih]
        by_cases hout : l.Outdated label steps
        · -- There was nothing left to be taken away.
          have hnone := spots_of_outdated hlabel hbefore hout
          simp [hnone]
        · have hread := not_not.mp (mt ih.mp hout)
          simp [hread]
      · rw [spots_of_not_reloaded (gallery_run hlabel hbefore) hreload hoff, ih]
        simp [hoff]

/-- An observer of the gallery is told of every change of the guides behind it but those by
switching off. Reading the gallery again whenever it is told, it has the guides of the layer, unless
some of them were taken away by switching off and it was not told anything since. -/
theorem reload_told_iff {l : Layer σ α} {label : Nat}
    (hlabel : l.observers.gallery = some label) :
    (∀ s, (l.step s).spots ≠ l.spots → (Reloaded label (l.told [s]) ↔ ¬l.SwitchesOff s)) ∧
    ∀ steps, (∀ s ∈ steps, ∀ label', s ≠ .observeGallery label') →
      (l.reread label l.spots steps ≠ (l.run steps).spots ↔ l.Outdated label steps) := by
  refine ⟨?_, fun steps hstays => reread_ne_spots_iff hlabel hstays⟩
  intro s hchanged
  constructor
  · intro hreload hoff
    exact not_reloaded_of_switchesOff hoff label hreload
  · intro hstays
    by_contra hquiet
    exact hchanged (spots_of_not_reloaded hlabel hquiet hstays)

/-- A tile is asked for while the gallery is watched. -/
def askedWatching : List (LayerStep Float) :=
  [.observeGallery 7, .setEnabled true, .updateViewport tile]

/-- The guides come, and the layer is switched off. -/
def comeAndGo : List (LayerStep Float) := [.answer ⟨1, .ok threeSpots⟩, .setEnabled false]

theorem length_spots_askedWatching_answer :
    ((started.run askedWatching).step (.answer ⟨1, .ok threeSpots⟩)).spots.length = 3 := by
  decide +kernel

theorem reload_told_comeAndGo :
    (started.run askedWatching).observers.gallery = some 7 ∧
      Reloaded 7 ((started.run askedWatching).told [.answer ⟨1, .ok threeSpots⟩]) ∧
      (started.run askedWatching).reread 7 [] comeAndGo ≠
        ((started.run askedWatching).run comeAndGo).spots := by
  have hlabel : (started.run askedWatching).observers.gallery = some 7 := by decide +kernel
  obtain ⟨hstep, hrun⟩ := reload_told_iff hlabel
  refine ⟨hlabel, ?_, ?_⟩
  · refine (hstep _ ?_).mpr (by decide +kernel)
    intro heq
    have hnone : (started.run askedWatching).spots.length = 0 := by decide +kernel
    rw [← heq, length_spots_askedWatching_answer] at hnone
    cases hnone
  · refine (hrun comeAndGo (by simp [comeAndGo])).mpr ?_
    refine ⟨[.answer ⟨1, .ok threeSpots⟩], .setEnabled false, [], rfl, ?_, by decide +kernel, ?_⟩
    · exact List.ne_nil_of_length_pos (by decide +kernel)
    · simp [Reloaded, told, run]

section

attribute [local instance] HostNames.ascii

/-- It is not so that the observer is told of every change of the guides. -/
theorem not_forall_reload_told :
    ¬∀ (l : Layer (MarkBoard Float) Float) (earlier : List (LayerStep Float)) (label : Nat)
        (s : LayerStep Float), l.Fresh → l.settings.validate = .ok () →
        (l.run earlier).observers.gallery = some label →
        ((l.run earlier).step s).spots ≠ (l.run earlier).spots →
        Reloaded label ((l.run earlier).told [s]) := by
  intro h
  have htold := h started (askedWatching ++ [.answer ⟨1, .ok threeSpots⟩]) 7 (.setEnabled false)
    fresh_started Settings.validate_standard (by decide +kernel)
  refine not_reloaded_of_switchesOff ?_ 7 (htold ?_)
  · decide +kernel
  · intro heq
    have hnone : ((started.run (askedWatching ++ [.answer ⟨1, .ok threeSpots⟩])).step
        (.setEnabled false)).spots.length = 0 := by
      decide +kernel
    rw [heq, run_concat, length_spots_askedWatching_answer] at hnone
    cases hnone

end

end Layer

end GuideLayer
