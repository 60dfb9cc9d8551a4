import GuideLayer.Proofs.Mirror
import Mathlib.Data.List.Perm.Subperm

/-!
The list of guides that were shown. A guide gets there when an answer brings it
on its own and the store keeps its mark, and it stays there until the layer is
switched off, even if the map is wiped in between. So the list tells the
history of the layer since it was switched on, and nothing that happens to the
marks later can be read off it.
-/

namespace GuideLayer

open LawfulMarkStore

variable {σ α : Type}

namespace Spot

theorem face_of_single {s : Spot α} (h : s.sights + s.outdoor ≤ 1) (index : Nat)
    (downloaded : Bool) :
    s.face index downloaded =
      { id := 0
        kind := .guide
        pivot := s.point
        index := index
        guideId := s.guide.id
        category := some (if 0 < s.sights then .city else .outdoor)
        downloaded := downloaded } :=
  if_neg (Nat.not_lt.mpr h)

theorem kind_face_eq_guide_iff (index : Nat) (downloaded : Bool) (s : Spot α) :
    (s.face index downloaded).kind = .guide ↔ s.sights + s.outdoor ≤ 1 := by
  unfold face
  split
  · refine iff_of_false nofun ?_
    omega
  · refine iff_of_true rfl ?_
    omega

theorem index_face (index : Nat) (downloaded : Bool) (s : Spot α) :
    (s.face index downloaded).index = index := by
  unfold face
  split <;> rfl

theorem guideId_face {s : Spot α} {index : Nat} {downloaded : Bool}
    (h : (s.face index downloaded).kind = .guide) :
    (s.face index downloaded).guideId = s.guide.id := by
  rw [face_of_single ((kind_face_eq_guide_iff index downloaded s).mp h)]

/-- A mark among those of spots is that of the spot whose place its index is. -/
theorem exists_of_mem_faces {n : Nat} {downloaded : String → Bool} {kept : List Bool}
    {spots : List (Spot α)} {m : Mark α} (h : m ∈ faces n downloaded kept spots) :
    ∃ s, (s, m.index) ∈ spots.zipIdx (n + 1) ∧
      m = s.face m.index (downloaded s.guide.id) := by
  obtain ⟨⟨⟨s, i⟩, k⟩, hp, rfl⟩ := List.mem_map.mp h
  have hplace := (List.of_mem_zip (List.mem_of_mem_filter hp)).1
  rw [index_face]
  exact ⟨s, hplace, rfl⟩

end Spot

namespace Drawing

variable [MarkStore σ α]

theorem mem_shown_addSpot (d : Drawing σ) (s : Spot α) (guideId : String) :
    guideId ∈ (d.addSpot s).shown ↔
      guideId ∈ d.shown ∨
        (d.make s).1.isSome = true ∧ s.sights + s.outdoor ≤ 1 ∧ s.guide.id = guideId := by
  have hsingle : ¬s.isCluster = true ↔ s.sights + s.outdoor ≤ 1 := by
    rw [Spot.isCluster_iff]
    omega
  by_cases hcluster : s.isCluster = true
  · have hmany : ¬s.sights + s.outdoor ≤ 1 := mt hsingle.mpr (not_not_intro hcluster)
    simp [addSpot, make, hcluster, hmany]
  · have hone := hsingle.mp hcluster
    unfold addSpot make
    rw [if_neg hcluster, if_neg hcluster]
    dsimp only
    split
    · rename_i hkept
      rw [List.mem_insert_iff]
      constructor
      · rintro (rfl | hold)
        · exact .inr ⟨hkept, hone, rfl⟩
        · exact .inl hold
      · rintro (hold | ⟨-, -, rfl⟩)
        · exact .inr hold
        · exact .inl rfl
    · rename_i hlost
      simp [hlost]

theorem nodup_shown_foldl_addSpot (spots : List (Spot α)) {d : Drawing σ}
    (h : d.shown.Nodup) : (spots.foldl addSpot d).shown.Nodup := by
  induction spots generalizing d with
  | nil => exact h
  | cons s spots ih =>
      apply ih
      unfold addSpot
      dsimp only
      split
      · exact h
      · split
        · exact h.insert
        · exact h

/-- The guides that are shown after marks were made: those that were shown before, and those that
marks of their own were made for. -/
theorem mem_shown_foldl_addSpot (downloaded : String → Bool) (spots : List (Spot α))
    (d : Drawing σ) (guideId : String) :
    guideId ∈ (spots.foldl addSpot d).shown ↔
      guideId ∈ d.shown ∨
        ∃ m ∈ Spot.faces d.index downloaded (d.keeps spots) spots,
          m.kind = .guide ∧ m.guideId = guideId := by
  induction spots generalizing d with
  | nil => simp
  | cons s spots ih =>
      have hfirst : (∃ m ∈ if (d.make s).1.isSome then
            [s.face (d.index + 1) (downloaded s.guide.id)] else [],
          m.kind = .guide ∧ m.guideId = guideId) ↔
            (d.make s).1.isSome = true ∧ s.sights + s.outdoor ≤ 1 ∧ s.guide.id = guideId := by
        by_cases hkept : (d.make s).1.isSome = true
        · rw [if_pos hkept]
          simp only [List.mem_singleton, exists_eq_left, hkept, true_and]
          rw [← Spot.kind_face_eq_guide_iff (d.index + 1) (downloaded s.guide.id)]
          refine and_congr_right fun hkind => ?_
          rw [Spot.guideId_face hkind]
        · rw [if_neg hkept]
          simp [hkept]
      rw [List.foldl_cons, ih, mem_shown_addSpot, keeps, Spot.faces_cons, index_addSpot, or_assoc]
      simp only [List.mem_append, or_and_right, exists_or, hfirst]

end Drawing

namespace Layer

variable [MarkStore σ α] [LawfulMarkStore σ α]

/-- The marks of guides that are on the map after all marks were made anew, up to their ids. -/
theorem exists_guide_redraw_iff {l : Layer σ α} (hs : Sound l.store) (guideId : String) :
    (∃ m ∈ marks l.redraw.store, m.kind = .guide ∧ m.guideId = guideId) ↔
      ∃ m ∈ l.mirror l.spots, m.kind = .guide ∧ m.guideId = guideId := by
  rw [← faces_redraw hs]
  constructor
  · rintro ⟨m, hm, hkind, hid⟩
    have hspot : m ∈ spotMarks l.redraw.store := List.mem_filter.mpr ⟨hm, by simp [hkind]⟩
    exact ⟨m.face, List.mem_map_of_mem hspot, hkind, hid⟩
  · rintro ⟨face, hface, hkind, hid⟩
    obtain ⟨m, hm, rfl⟩ := List.mem_map.mp hface
    exact ⟨m, List.mem_of_mem_filter hm, hkind, hid⟩

/-- After all marks were made anew, the guides that have one of their own are shown. -/
theorem mem_shown_redraw {l : Layer σ α} (hs : Sound l.store) (guideId : String) :
    guideId ∈ l.redraw.shown ↔
      guideId ∈ l.shown ∨
        ∃ m ∈ marks l.redraw.store, m.kind = .guide ∧ m.guideId = guideId := by
  rw [exists_guide_redraw_iff hs, shown_redraw]
  exact Drawing.mem_shown_foldl_addSpot (fun g => MarkStore.hasDownloaded g l.store) l.spots
    l.sheet.blank guideId

omit [LawfulMarkStore σ α] in
theorem nodup_shown_redraw {l : Layer σ α} (h : l.shown.Nodup) : l.redraw.shown.Nodup := by
  rw [shown_redraw]
  exact Drawing.nodup_shown_foldl_addSpot l.spots h

variable [Scalar α] [Trig α]

/-- An answer that is taken brings a guide on its own, and the store keeps the mark made for it.
The mark is told by its index. -/
def Presents (l : Layer σ α) (s : LayerStep α) (guideId : String) : Prop :=
  ∃ spots, l.Succeeds s spots ∧
    ∃ spot i, (spot, i) ∈ spots.zipIdx (l.lastIndex + 1) ∧ spot.sights + spot.outdoor ≤ 1 ∧
      spot.guide.id = guideId ∧ ∃ m ∈ marks (l.step s).store, m.kind = .guide ∧ m.index = i

theorem not_presents {l : Layer σ α} {s : LayerStep α} (hno : ∀ spots, ¬l.Succeeds s spots)
    (guideId : String) : ¬l.Presents s guideId := by
  rintro ⟨spots, hsucceeds, -⟩
  exact hno spots hsucceeds

/-- Every mark of a guide that is there after an answer is that of the spot whose place its index
is. -/
theorem exists_spot_of_mark {l : Layer σ α} (hs : Sound l.store) {s : LayerStep α}
    {spots : List (Spot α)} (hsucceeds : l.Succeeds s spots) {m : Mark α}
    (hm : m ∈ marks (l.step s).store) (hkind : m.kind = .guide) :
    ∃ spot, (spot, m.index) ∈ spots.zipIdx (l.lastIndex + 1) ∧
      spot.sights + spot.outdoor ≤ 1 ∧ spot.guide.id = m.guideId := by
  obtain ⟨generation, hacc, hstep⟩ := step_of_succeeds hsucceeds
  have hspot : m ∈ spotMarks (l.step s).store := List.mem_filter.mpr ⟨hm, by simp [hkind]⟩
  have hface : m.face ∈ l.mirror spots := by
    rw [← (faces_receive hs hacc spots).2.1, ← hstep]
    exact List.mem_map_of_mem hspot
  obtain ⟨spot, hplace, heq⟩ := Spot.exists_of_mem_faces hface
  have hguide : (spot.face m.index (MarkStore.hasDownloaded spot.guide.id l.store)).kind =
      .guide := by
    rw [← hkind, ← Mark.kind_face m, heq]
    rfl
  have hid := congrArg Mark.guideId heq
  exact ⟨spot, hplace, (Spot.kind_face_eq_guide_iff _ _ _).mp hguide,
    (Spot.guideId_face hguide).symm.trans hid.symm⟩

/-- The guides that an answer presents are those that have a mark of their own then. -/
theorem presents_iff {l : Layer σ α} (hs : Sound l.store) {s : LayerStep α}
    {spots : List (Spot α)} (hsucceeds : l.Succeeds s spots) (guideId : String) :
    l.Presents s guideId ↔
      ∃ m ∈ marks (l.step s).store, m.kind = .guide ∧ m.guideId = guideId := by
  constructor
  · rintro ⟨spots', hsucceeds', spot, i, hplace, -, rfl, m, hm, hkind, rfl⟩
    obtain ⟨spot', hplace', -, hid⟩ := exists_spot_of_mark hs hsucceeds' hm hkind
    -- There is one spot only at the place.
    have hthere := (List.mk_mem_zipIdx_iff_le_and_getElem?_sub.mp hplace).2
    have hthere' := (List.mk_mem_zipIdx_iff_le_and_getElem?_sub.mp hplace').2
    rw [hthere'] at hthere
    cases hthere
    exact ⟨m, hm, hkind, hid.symm⟩
  · rintro ⟨m, hm, hkind, rfl⟩
    obtain ⟨spot, hplace, hsingle, hid⟩ := exists_spot_of_mark hs hsucceeds hm hkind
    exact ⟨spots, hsucceeds, spot, m.index, hplace, hsingle, hid, m, hm, hkind, rfl⟩

/-! ### Steps -/

/-- No guide is listed twice, and none is while the layer is off. -/
structure Tidy (l : Layer σ α) : Prop where
  nodup : l.shown.Nodup
  off : l.phase = .disabled → l.shown = []

/-- Nothing comes, and the layer stays open. -/
theorem mem_shown_of_stays {l : Layer σ α} (hl : l.Tidy) {s : LayerStep α}
    (hno : ∀ spots, ¬l.Succeeds s spots) (hopen : ¬l.Closes (l.step s))
    (hshown : (l.step s).shown = l.shown) (guideId : String) :
    guideId ∈ (l.step s).shown ↔
      (l.step s).phase ≠ .disabled ∧ (guideId ∈ l.shown ∨ l.Presents s guideId) := by
  rw [or_iff_left (not_presents hno guideId), hshown]
  refine ⟨fun hmem => ⟨?_, hmem⟩, And.right⟩
  intro hoff
  rw [hl.off (off_of_not_closes hopen hoff)] at hmem
  exact List.not_mem_nil hmem

/-- What is shown after a step, as long as the layer is on, was shown before or is presented. -/
theorem mem_shown_step {l : Layer σ α} (hs : Sound l.store) (hl : l.Tidy) (s : LayerStep α)
    (guideId : String) :
    guideId ∈ (l.step s).shown ↔
      (l.step s).phase ≠ .disabled ∧ (guideId ∈ l.shown ∨ l.Presents s guideId) := by
  have hstay (hno : ∀ spots, ¬l.Succeeds s spots) (hopen : ¬l.Closes (l.step s))
      (hshown : (l.step s).shown = l.shown) := mem_shown_of_stays hl hno hopen hshown guideId
  have htable := repaint_step l s
  generalize hnext : l.step s = l' at htable hstay ⊢
  cases htable with
  | keep hno hopen hscene => exact hstay hno hopen (shown_of_scene hscene)
  | @draw _ _ spots hsucceeds hopen hscene =>
      have hs' : Sound (store { l with spots := spots }) := hs
      have hon : l'.phase ≠ .disabled :=
        mt (off_of_not_closes hopen) (ne_disabled_of_succeeds hsucceeds)
      rw [shown_of_scene hscene, mem_shown_redraw hs',
        presents_iff hs hsucceeds, hnext, store_of_scene hscene]
      exact (and_iff_right hon).symm
  | wipe hno _ _ _ _ hshown =>
      rw [or_iff_left (not_presents hno guideId), hshown]
      split
      · rename_i hoff
        simp [hoff]
      · rename_i hon
        simp [hon]
  | choose hphase hscene =>
      have hshown := shown_of_scene hscene
      rw [shown_highlightActive] at hshown
      exact hstay (not_succeeds nofun) (not_closes_of_phase_eq hphase) hshown
  | tap _ _ hphase hscene =>
      have hshown := shown_of_scene hscene
      exact hstay (not_succeeds nofun) (not_closes_of_phase_eq hphase) hshown

omit [LawfulMarkStore σ α] in
theorem nodup_shown_step {l : Layer σ α} (h : l.shown.Nodup) (s : LayerStep α) :
    (l.step s).shown.Nodup := by
  have htable := repaint_step l s
  generalize l.step s = l' at htable ⊢
  cases htable with
  | keep _ _ hscene =>
      rw [shown_of_scene hscene]
      exact h
  | draw _ _ hscene =>
      rw [shown_of_scene hscene]
      exact nodup_shown_redraw h
  | wipe _ _ _ _ _ hshown =>
      rw [hshown]
      split
      · exact List.nodup_nil
      · exact h
  | choose _ hscene =>
      rw [shown_of_scene hscene, shown_highlightActive]
      exact h
  | tap _ _ _ hscene =>
      rw [shown_of_scene hscene]
      exact h

theorem tidy_step {l : Layer σ α} (hs : Sound l.store) (hl : l.Tidy) (s : LayerStep α) :
    (l.step s).Tidy where
  nodup := nodup_shown_step hl.nodup s
  off hoff := by
    rw [List.eq_nil_iff_forall_not_mem]
    intro guideId hmem
    exact ((mem_shown_step hs hl s guideId).mp hmem).1 hoff

/-! ### Runs -/

/-- A guide was presented in a run, and the layer has not been off since. -/
def Presented (l : Layer σ α) (steps : List (LayerStep α)) (guideId : String) : Prop :=
  ∃ earlier s later, steps = earlier ++ s :: later ∧ (l.run earlier).Presents s guideId ∧
    ∀ between, between <+: later → (l.run (earlier ++ s :: between)).phase ≠ .disabled

theorem not_presented_nil (l : Layer σ α) (guideId : String) : ¬l.Presented [] guideId := by
  rintro ⟨earlier, s, later, heq, -⟩
  simp at heq

theorem presented_concat_iff (l : Layer σ α) (steps : List (LayerStep α)) (s : LayerStep α)
    (guideId : String) :
    l.Presented (steps ++ [s]) guideId ↔
      ((l.run steps).step s).phase ≠ .disabled ∧
        (l.Presented steps guideId ∨ (l.run steps).Presents s guideId) := by
  constructor
  · rintro ⟨earlier, s', later, heq, hpresents, hon⟩
    have hlast := hon later (List.prefix_refl later)
    rw [← heq, run_concat] at hlast
    refine ⟨hlast, ?_⟩
    rcases concat_eq_append_cons heq with ⟨rfl, rfl, rfl⟩ | ⟨between, rfl, rfl⟩
    · -- Nothing came later, so it was the last step that presented the guide.
      exact .inr hpresents
    · refine .inl ⟨earlier, s', between, rfl, hpresents, ?_⟩
      intro sooner hsooner
      exact hon sooner (hsooner.trans (List.prefix_append between _))
  · rintro ⟨hlast, ⟨earlier, s', later, rfl, hpresents, hon⟩ | hpresents⟩
    · refine ⟨earlier, s', later ++ [s], by simp, hpresents, ?_⟩
      intro between hbetween
      rcases List.prefix_concat_iff.mp hbetween with rfl | hbetween
      · rw [← List.cons_append, ← List.append_assoc, run_concat]
        exact hlast
      · exact hon between hbetween
    · refine ⟨steps, s, [], rfl, hpresents, ?_⟩
      intro between hbetween
      rw [List.prefix_nil.mp hbetween, run_concat]
      exact hlast

theorem tidy_run {l : Layer σ α} (hs : Sound l.store) (hl : l.Tidy) (steps : List (LayerStep α)) :
    (l.run steps).Tidy := by
  induction steps using List.reverseRecOn with
  | nil => exact hl
  | append_singleton steps s ih =>
      rw [run_concat]
      exact tidy_step (sound_run hs steps) ih s

theorem mem_shown_run_iff_presented {l : Layer σ α} (hs : Sound l.store) (hnone : l.shown = [])
    (steps : List (LayerStep α)) (guideId : String) :
    guideId ∈ (l.run steps).shown ↔ l.Presented steps guideId := by
  have hl : l.Tidy := ⟨hnone ▸ List.nodup_nil, fun _ => hnone⟩
  induction steps using List.reverseRecOn with
  | nil =>
      have hout : guideId ∉ (l.run []).shown := hnone ▸ List.not_mem_nil
      exact iff_of_false hout (not_presented_nil l guideId)
  | append_singleton steps s ih =>
      have hstep := mem_shown_step (sound_run hs steps) (tidy_run hs hl steps) s guideId
      rw [run_concat, hstep, presented_concat_iff]
      exact and_congr_right' (or_congr_left ih)

/-- Along a run the guides shown are those presented since the layer was switched on. So their
number does not go down while the layer is on, and it goes to zero just when it is switched off. -/
theorem shown_presented {l : Layer σ α} (hl : l.Fresh) (hs : Sound l.store)
    (steps : List (LayerStep α)) :
    (∀ guideId, guideId ∈ (l.run steps).shown ↔ l.Presented steps guideId) ∧
    (l.run steps).shown.Nodup ∧
    ((l.run steps).phase = .disabled → (l.run steps).shown = []) ∧
    (∀ s, ((l.run steps).step s).phase ≠ .disabled →
      (l.run steps).shown.length ≤ ((l.run steps).step s).shown.length) ∧
    (∀ s, (l.run steps).shown ≠ [] →
      (((l.run steps).step s).shown = [] ↔ ((l.run steps).step s).phase = .disabled)) := by
  have hnone : l.shown = [] := by rw [hl]
  have htidy : (l.run steps).Tidy :=
    tidy_run hs ⟨hnone ▸ List.nodup_nil, fun _ => hnone⟩ steps
  have hstep := mem_shown_step (sound_run hs steps) htidy
  have hgrows : ∀ s, ((l.run steps).step s).phase ≠ .disabled →
      (l.run steps).shown ⊆ ((l.run steps).step s).shown :=
    fun s hon guideId hmem => (hstep s guideId).mpr ⟨hon, .inl hmem⟩
  refine ⟨mem_shown_run_iff_presented hs hnone steps, htidy.nodup, htidy.off, ?_, ?_⟩
  · intro s hon
    exact (List.subperm_of_subset htidy.nodup (hgrows s hon)).length_le
  · intro s hsome
    refine ⟨?_, (tidy_step (sound_run hs steps) htidy s).off⟩
    intro hempty
    by_contra hon
    have hnothing := hgrows s hon
    rw [hempty] at hnothing
    exact hsome (List.subset_nil.mp hnothing)

/-- A new layer on a board that loses the first mark. -/
def forgetful : Layer (LossyBoard Float) Float := { settings := .standard, store := leaky.store }

/-- Two guides come, the first of which is lost, and a place with three more. -/
def threeCome : List (LayerStep Float) :=
  [.setEnabled true, .updateViewport tile, .answer ⟨1, .ok threeSpots⟩]

theorem shown_presented_threeCome :
    forgetful.Fresh ∧ Sound forgetful.store ∧ (forgetful.run threeCome).shown = ["b"] ∧
      forgetful.Presented threeCome "b" ∧ ¬forgetful.Presented threeCome "a" := by
  have hshown : (forgetful.run threeCome).shown = ["b"] := by decide +kernel
  have hpresented := (shown_presented (l := forgetful) rfl sound_leaky threeCome).1
  rw [hshown] at hpresented
  refine ⟨rfl, sound_leaky, hshown, ?_, ?_⟩
  · exact (hpresented "b").mp (by decide)
  · exact mt (hpresented "a").mpr (by decide)

end Layer

end GuideLayer
