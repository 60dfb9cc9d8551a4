import GuideLayer.Proofs.Canvas

/-!
The marks on the map mirror the guides of the layer. They are made when guides
come; after that only switching off and giving up touch them, and take all of
them away. This is so for every store that may lose marks but does not change
them by itself.
-/

namespace GuideLayer

open LawfulMarkStore

namespace Layer

variable {σ α : Type}

section Transition

variable [Scalar α] [Trig α] {m m' : Layer Unit α} {s : LayerStep α}

theorem Transition.spots_of_closes (h : Transition m s m') (hcloses : m.Closes m') :
    m'.spots = [] := by
  obtain ⟨hphase, hpaused⟩ := hcloses
  cases h with
  | switchOff | exhaust => rfl
  | switchOn | reconnect | retry =>
      rw [phase_request] at hpaused
      cases hpaused
  | look =>
      rw [phase_request] at hphase
      exact absurd rfl hphase
  | success =>
      dsimp only at hpaused
      split at hpaused <;> cases hpaused
  | _ => exact absurd rfl hphase

theorem Transition.spots_of_succeeds (h : Transition m s m') {spots : List (Spot α)}
    (hsucceeds : m.Succeeds s spots) : m'.spots = spots := by
  obtain ⟨a, rfl, hresult, hacc⟩ := hsucceeds
  rw [h.of_success hacc hresult]

theorem Transition.spots_of_open (h : Transition m s m') (hopen : ¬m.Closes m')
    (hno : ∀ spots, ¬m.Succeeds s spots) : m'.spots = m.spots := by
  cases h with
  | switchOff hon => exact absurd ⟨hon.symm, rfl⟩ hopen
  | exhaust hacc =>
      have hactive := (Phase.isPaused_eq_false_iff m.phase).mp hacc.1
      exact absurd ⟨hactive.2.symm, rfl⟩ hopen
  | success hacc hresult => exact absurd ⟨_, rfl, hresult, hacc⟩ (hno _)
  | switchOn | reconnect | retry | look => exact spots_request _
  | _ => rfl

end Transition

variable [MarkStore σ α] [LawfulMarkStore σ α]

/-! ### What steps do to the marks -/

/-- The marks are left as they are, or all are taken away as the layer closes. -/
structure Spares (l l' : Layer σ α) : Prop where
  sound : Sound l'.store
  marks : spotMarks l'.store = if l.Closes l' then [] else spotMarks l.store

theorem Spares.of_open {l l' : Layer σ α} (hopen : ¬l.Closes l') (hs : Sound l'.store)
    (hmarks : spotMarks l'.store = spotMarks l.store) : l.Spares l' :=
  ⟨hs, by rw [if_neg hopen, hmarks]⟩

/-- The marks of guides that come are as the layer mirrors them, whatever was on the map. -/
theorem faces_receive {l : Layer σ α} (hs : Sound l.store) {generation : Nat}
    (hacc : l.Accepts generation) (spots : List (Spot α)) :
    Sound (l.receive generation spots).store ∧
      (spotMarks (l.receive generation spots).store).map Mark.face = l.mirror spots ∧
      (l.receive generation spots).lastIndex = l.lastIndex + spots.length := by
  have hscene := scene_receive hacc spots
  have hs' : Sound (store { l with spots := spots }) := hs
  rw [store_of_scene hscene, lastIndex_of_scene hscene]
  exact ⟨sound_redraw hs', faces_redraw hs', lastIndex_redraw _⟩

theorem Repaint.spares {l l' : Layer σ α} {s : LayerStep α} (h : Repaint l s l')
    (hs : Sound l.store) (hno : ∀ spots, ¬l.Succeeds s spots) : l.Spares l' := by
  cases h with
  | keep _ hopen hscene =>
      have hstore := store_of_scene hscene
      exact .of_open hopen (by rwa [hstore]) (by rw [hstore])
  | draw hsucceeds => exact absurd hsucceeds (hno _)
  | wipe _ hcloses hstore =>
      constructor
      · rw [hstore]
        exact sound_clear hs
      · rw [if_pos hcloses, hstore, spotMarks_clear hs]
  | @choose guideId _ hphase hscene =>
      have hs' :
          Sound (store { l with active := if guideId = "" then none else some guideId }) := hs
      apply Spares.of_open (not_closes_of_phase_eq hphase)
      · rw [store_of_scene hscene]
        exact sound_highlightActive hs'
      · rw [store_of_scene hscene]
        exact spotMarks_highlightActive hs'
  | tap _ _ hphase hscene =>
      apply Spares.of_open (not_closes_of_phase_eq hphase)
      · rw [store_of_scene hscene]
        exact sound_highlight hs _
      · rw [store_of_scene hscene]
        exact spotMarks_highlight hs _

variable [Scalar α] [Trig α]

/-- A step with which no guides come. -/
theorem spares_step {l : Layer σ α} (hs : Sound l.store) {s : LayerStep α}
    (hno : ∀ spots, ¬l.Succeeds s spots) : l.Spares (l.step s) :=
  (repaint_step l s).spares hs hno

theorem sound_step {l : Layer σ α} (hs : Sound l.store) (s : LayerStep α) :
    Sound (l.step s).store := by
  by_cases hsucceeds : ∃ spots, l.Succeeds s spots
  · obtain ⟨spots, h⟩ := hsucceeds
    obtain ⟨generation, hacc, hstep⟩ := step_of_succeeds h
    rw [hstep]
    exact (faces_receive hs hacc spots).1
  · exact (spares_step hs (not_exists.mp hsucceeds)).sound

theorem sound_run {l : Layer σ α} (hs : Sound l.store) (steps : List (LayerStep α)) :
    Sound (l.run steps).store := by
  induction steps using List.reverseRecOn with
  | nil => exact hs
  | append_singleton steps s ih =>
      rw [run_concat]
      exact sound_step ih s

/-- Guides that come are mirrored, and from then on the marks stay until the layer closes. -/
theorem spotMarks_mirror_spots {l : Layer σ α} (hs : Sound l.store) :
    (∀ s spots, l.Succeeds s spots →
      (spotMarks (l.step s).store).map Mark.face = l.mirror spots ∧
        (l.step s).lastIndex = l.lastIndex + spots.length) ∧
    (∀ s, (∀ spots, ¬l.Succeeds s spots) →
      spotMarks (l.step s).store = if l.Closes (l.step s) then [] else spotMarks l.store) ∧
    (spotMarks l.store = [] → l.spots = [] → ∀ steps,
      spotMarks (l.run steps).store = [] ∧ (l.run steps).spots = [] ∨
        ∃ earlier s later, steps = earlier ++ s :: later ∧
          (l.run earlier).Succeeds s (l.run steps).spots ∧
          (spotMarks (l.run steps).store).map Mark.face =
            (l.run earlier).mirror (l.run steps).spots) := by
  refine ⟨?_, fun s hno => (spares_step hs hno).marks, ?_⟩
  · intro s spots h
    obtain ⟨generation, hacc, hstep⟩ := step_of_succeeds h
    rw [hstep]
    exact (faces_receive hs hacc spots).2
  · intro hnone hnospots steps
    induction steps using List.reverseRecOn with
    | nil => exact .inl ⟨hnone, hnospots⟩
    | append_singleton steps s ih =>
        have hs' := sound_run hs steps
        have htable := transition_run l steps s
        rw [run_concat] at htable ⊢
        by_cases hsucceeds : ∃ spots, (l.run steps).Succeeds s spots
        · -- The guides that came last are those of this step.
          obtain ⟨spots, h⟩ := hsucceeds
          obtain ⟨generation, hacc, hstep⟩ := step_of_succeeds h
          have hspots : ((l.run steps).step s).spots = spots := htable.spots_of_succeeds h
          refine .inr ⟨steps, s, [], rfl, ?_, ?_⟩
          · rwa [hspots]
          · rw [hspots, hstep]
            exact (faces_receive hs' hacc spots).2.1
        · -- What is on the map came with an earlier step, if it did not go away with this one.
          have hno := not_exists.mp hsucceeds
          have hmarks := (spares_step hs' hno).marks
          by_cases hcloses : (l.run steps).Closes ((l.run steps).step s)
          · rw [if_pos hcloses] at hmarks
            exact .inl ⟨hmarks, htable.spots_of_closes hcloses⟩
          · have hspots : ((l.run steps).step s).spots = (l.run steps).spots :=
              htable.spots_of_open hcloses hno
            rw [if_neg hcloses] at hmarks
            rw [hmarks, hspots]
            obtain hempty | ⟨earlier, s', later, rfl, hcame, hmirror⟩ := ih
            · exact .inl hempty
            · refine .inr ⟨earlier, s', later ++ [s], ?_, hcame, hmirror⟩
              rw [List.append_assoc, List.cons_append]

/-- A layer that asked for a tile, on a board that loses the first mark. -/
def leaky : Layer (LossyBoard Float) Float :=
  { settings := .standard
    store := { drops := fun i => decide (i = 1) }
    phase := .enabled
    camera := some tile
    generation := 1 }

/-- Two guides, and a place with three more. -/
def threeSpots : List (Spot Float) :=
  [{ point := ⟨1, 1⟩, sights := 1, guide := { id := "a", distance := 0, duration := 0 } },
    { point := ⟨2, 2⟩, sights := 1, outdoor := 2, guide := { distance := 0, duration := 0 } },
    { point := ⟨3, 3⟩, outdoor := 1, guide := { id := "b", distance := 0, duration := 0 } }]

theorem sound_leaky : Sound leaky.store := by
  refine ⟨MarkBoard.ordered_empty, ?_⟩
  intro i hi hlost
  have hfirst : i = 1 := by simpa [leaky] using hlost
  rw [hfirst]
  exact Nat.zero_le LossyBoard.lostId

theorem spotMarks_mirror_spots_leaky :
    Sound leaky.store ∧
      (spotMarks (leaky.step (.answer ⟨1, .ok threeSpots⟩)).store).map Mark.face =
        [{ id := 0, kind := .cluster, pivot := ⟨2, 2⟩, index := 2, sights := 1, outdoor := 2 },
          { id := 0, kind := .guide, pivot := ⟨3, 3⟩, index := 3, guideId := "b",
            category := some .outdoor }] ∧
      (leaky.step (.answer ⟨1, .ok threeSpots⟩)).lastIndex = 3 := by
  have hcome : leaky.Succeeds (.answer ⟨1, .ok threeSpots⟩) threeSpots :=
    ⟨⟨1, .ok threeSpots⟩, rfl, rfl, by decide⟩
  obtain ⟨hfaces, hindex⟩ := (spotMarks_mirror_spots sound_leaky).1 _ _ hcome
  rw [mirror_lossyBoard sound_leaky] at hfaces
  exact ⟨sound_leaky, hfaces, hindex⟩

end Layer

end GuideLayer
