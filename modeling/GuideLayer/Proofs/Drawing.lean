import GuideLayer.Layer.Operations
import GuideLayer.Proofs.Stores

/-!
Marks made anew. They stand in the order of the spots, each with the index of
its place; a mark that the store loses is missing, and its index is used up.
What was on the map before does not matter, and the highlight, which is put
back at the end, is none of these marks.
-/

namespace GuideLayer

open LawfulMarkStore

variable {σ α : Type}

namespace Mark

/-- What there is to see of a mark. Its id only tells which one it is. -/
def face (m : Mark α) : Mark α := { m with id := 0 }

@[simp] theorem kind_face (m : Mark α) : m.face.kind = m.kind := rfl

end Mark

namespace Spot

theorem isCluster_iff (s : Spot α) : s.isCluster = true ↔ 1 < s.sights + s.outdoor := by
  unfold isCluster total countLimit
  rw [decide_eq_true_iff]
  omega

/-- What there is to see of the mark of a spot. -/
def face (index : Nat) (downloaded : Bool) (s : Spot α) : Mark α :=
  if 1 < s.sights + s.outdoor then
    { id := 0
      kind := .cluster
      pivot := s.point
      index := index
      sights := s.sights
      outdoor := s.outdoor }
  else
    { id := 0
      kind := .guide
      pivot := s.point
      index := index
      guideId := s.guide.id
      category := some (if 0 < s.sights then .city else .outdoor)
      downloaded := downloaded }

theorem kind_face_ne_selection (index : Nat) (downloaded : Bool) (s : Spot α) :
    (s.face index downloaded).kind ≠ .selection := by
  unfold face
  split <;> exact nofun

/-- The marks of spots in their order. The indices go on from `n`. A spot whose mark is not kept
has none, but it has an index. -/
def faces (n : Nat) (downloaded : String → Bool) (kept : List Bool) (spots : List (Spot α)) :
    List (Mark α) :=
  (((spots.zipIdx (n + 1)).zip kept).filter Prod.snd).map
    (fun p => p.1.1.face p.1.2 (downloaded p.1.1.guide.id))

@[simp] theorem faces_nil (n : Nat) (downloaded : String → Bool) (kept : List Bool) :
    faces n downloaded kept ([] : List (Spot α)) = [] := by
  simp [faces]

theorem faces_cons (n : Nat) (downloaded : String → Bool) (k : Bool) (kept : List Bool)
    (s : Spot α) (spots : List (Spot α)) :
    faces n downloaded (k :: kept) (s :: spots) =
      (if k then [s.face (n + 1) (downloaded s.guide.id)] else []) ++
        faces (n + 1) downloaded kept spots := by
  cases k <;> simp [faces]

theorem kind_ne_selection_of_mem_faces {n : Nat} {downloaded : String → Bool} {kept : List Bool}
    {spots : List (Spot α)} {m : Mark α} (h : m ∈ faces n downloaded kept spots) :
    m.kind ≠ .selection := by
  obtain ⟨p, -, rfl⟩ := List.mem_map.mp h
  exact kind_face_ne_selection _ _ _

end Spot

/-- The marks of clusters and of guides, in order of creation. -/
def spotMarks [MarkStore σ α] [LawfulMarkStore σ α] (store : σ) : List (Mark α) :=
  (marks store).filter (fun m => decide (m.kind ≠ .selection))

namespace Drawing

variable [MarkStore σ α]

/-- Makes the mark of a spot with the next index. -/
def make (d : Drawing σ) (s : Spot α) : Option MarkId × EditSession σ :=
  if s.isCluster then d.session.create .cluster s.point (clusterTags (d.index + 1) s)
  else
    d.session.create .guide s.point
      (guideTags (d.index + 1) (d.session.hasDownloaded s.guide.id) s)

@[simp] theorem session_addSpot (d : Drawing σ) (s : Spot α) :
    (d.addSpot s).session = (d.make s).2 := by
  unfold addSpot make
  split <;> rfl

@[simp] theorem index_addSpot (d : Drawing σ) (s : Spot α) :
    (d.addSpot s).index = d.index + 1 := by
  unfold addSpot
  split <;> rfl

theorem index_foldl_addSpot (spots : List (Spot α)) (d : Drawing σ) :
    (spots.foldl addSpot d).index = d.index + spots.length := by
  induction spots generalizing d with
  | nil => rfl
  | cons s spots ih =>
      rw [List.foldl_cons, ih, index_addSpot, List.length_cons]
      omega

/-- Of spots whose marks are made in turn, which marks the store keeps. -/
def keeps (d : Drawing σ) : List (Spot α) → List Bool
  | [] => []
  | s :: spots => (d.make s).1.isSome :: keeps (d.addSpot s) spots

@[simp] theorem hasDownloaded_make [LawfulMarkStore σ α] (guideId : String) (d : Drawing σ)
    (s : Spot α) : (d.make s).2.hasDownloaded guideId = d.session.hasDownloaded guideId := by
  unfold make
  split <;> simp

variable [LawfulMarkStore σ α]

theorem sound_make {d : Drawing σ} (h : Sound d.session.store) (s : Spot α) :
    Sound (d.make s).2.store := by
  unfold make
  split <;> exact EditSession.sound_create _ _ _ h

theorem sound_foldl_addSpot (spots : List (Spot α)) {d : Drawing σ} (h : Sound d.session.store) :
    Sound (spots.foldl addSpot d).session.store := by
  induction spots generalizing d with
  | nil => exact h
  | cons s spots ih =>
      apply ih
      rw [session_addSpot]
      exact sound_make h s

/-- The sheet without the marks of clusters and guides. -/
def blank (d : Drawing σ) : Drawing σ :=
  { d with session := (d.session.clear .cluster).clear .guide }

theorem faces_make {d : Drawing σ} (h : Sound d.session.store) (s : Spot α) :
    (marks (d.make s).2.store).map Mark.face =
      (marks d.session.store).map Mark.face ++
        if (d.make s).1.isSome then
          [s.face (d.index + 1) (d.session.hasDownloaded s.guide.id)]
        else [] := by
  unfold make Spot.face
  by_cases hcluster : s.isCluster = true
  · rw [if_pos hcluster, if_pos ((Spot.isCluster_iff s).mp hcluster),
      EditSession.marks_create _ _ _ h, List.map_append]
    cases (d.session.create .cluster s.point (clusterTags (d.index + 1) s)).1 <;>
      simp [Mark.face, Mark.tagged, clusterTags]
  · rw [if_neg hcluster, if_neg (mt (Spot.isCluster_iff s).mpr hcluster),
      EditSession.marks_create _ _ _ h, List.map_append]
    cases (d.session.create .guide s.point
      (guideTags (d.index + 1) (d.session.hasDownloaded s.guide.id) s)).1 <;>
      simp [Mark.face, Mark.tagged, guideTags, Spot.category]

/-- Making marks in turn puts them behind those that are there, in the order of the spots. -/
theorem faces_foldl_addSpot (spots : List (Spot α)) {d : Drawing σ} (h : Sound d.session.store) :
    (marks (spots.foldl addSpot d).session.store).map Mark.face =
      (marks d.session.store).map Mark.face ++
        Spot.faces d.index (fun g => d.session.hasDownloaded g) (d.keeps spots) spots := by
  induction spots generalizing d with
  | nil => simp
  | cons s spots ih =>
      have hsound : Sound (d.addSpot s).session.store := by
        rw [session_addSpot]
        exact sound_make h s
      rw [List.foldl_cons, ih hsound, keeps, Spot.faces_cons, session_addSpot, index_addSpot,
        faces_make h, List.append_assoc]
      simp only [hasDownloaded_make]

end Drawing

namespace Layer

/-- What marks are made on and counted with. -/
def sheet (l : Layer σ α) : Drawing σ := ⟨⟨l.store, false⟩, l.lastIndex, l.shown⟩

/-- The sheet together with the active guide. -/
def scene (l : Layer σ α) : Drawing σ × Option String := (l.sheet, l.active)

theorem sheet_of_scene {l l' : Layer σ α} (h : l'.scene = l.scene) : l'.sheet = l.sheet :=
  congrArg Prod.fst h

theorem active_of_scene {l l' : Layer σ α} (h : l'.scene = l.scene) : l'.active = l.active :=
  congrArg Prod.snd h

theorem store_of_scene {l l' : Layer σ α} (h : l'.scene = l.scene) : l'.store = l.store :=
  congrArg (fun d => d.session.store) (sheet_of_scene h)

theorem lastIndex_of_scene {l l' : Layer σ α} (h : l'.scene = l.scene) :
    l'.lastIndex = l.lastIndex :=
  congrArg Drawing.index (sheet_of_scene h)

theorem shown_of_scene {l l' : Layer σ α} (h : l'.scene = l.scene) : l'.shown = l.shown :=
  congrArg Drawing.shown (sheet_of_scene h)

@[simp] theorem scene_tellPhase (p : Phase) (l : Layer σ α) :
    (tellPhase p l).scene = l.scene := by
  unfold tellPhase
  split <;> rfl

@[simp] theorem scene_tellGallery (reload : Bool) (l : Layer σ α) :
    (tellGallery reload l).scene = l.scene := by
  unfold tellGallery
  split <;> rfl

@[simp] theorem scene_enter (p : Phase) (l : Layer σ α) : (l.enter p).scene = l.scene := by
  unfold enter
  split
  · rfl
  · rw [scene_tellPhase]
    rfl

@[simp] theorem scene_request [Scalar α] (l : Layer σ α) : l.request.scene = l.scene := by
  unfold request
  split <;> rfl

@[simp] theorem scene_drop (l : Layer σ α) : l.drop.scene = l.scene := by
  unfold drop
  split <;> rfl

variable [MarkStore σ α]

/-- The marks that guides get when they come to a layer. -/
def mirror (l : Layer σ α) (spots : List (Spot α)) : List (Mark α) :=
  Spot.faces l.lastIndex (fun g => MarkStore.hasDownloaded g l.store)
    (l.sheet.blank.keeps spots) spots

variable [LawfulMarkStore σ α]

/-! ### Marks made anew -/

/-- Taking the highlight away and making it anew leaves all other marks. -/
theorem spotMarks_highlight {store : σ} (hs : Sound store) (pivot : Point α) :
    spotMarks ((EditSession.clear .selection ⟨store, false⟩).create .selection pivot {}).2.finish =
      spotMarks store := by
  have hsound := EditSession.sound_clear (e := ⟨store, false⟩) .selection hs
  unfold spotMarks
  rw [EditSession.marks_finish, EditSession.marks_create _ _ _ hsound, EditSession.marks_clear,
    List.filter_append, List.filter_filter]
  cases ((EditSession.clear .selection ⟨store, false⟩).create .selection pivot {}).1 <;> simp

theorem sound_highlight {store : σ} (hs : Sound store) (pivot : Point α) :
    Sound ((EditSession.clear .selection ⟨store, false⟩).create .selection pivot {}).2.finish := by
  have hclear := EditSession.sound_clear (e := ⟨store, false⟩) .selection hs
  exact EditSession.sound_finish (EditSession.sound_create _ _ _ hclear)

theorem spotMarks_highlightActive {l : Layer σ α} (hs : Sound l.store) :
    spotMarks l.highlightActive.store = spotMarks l.store := by
  have hclear : spotMarks (EditSession.clear .selection ⟨l.store, false⟩).finish =
      spotMarks l.store := by
    simp [spotMarks, List.filter_filter]
  unfold highlightActive
  dsimp only
  split
  · exact hclear
  · split
    · exact hclear
    · exact spotMarks_highlight hs _

theorem sound_highlightActive {l : Layer σ α} (hs : Sound l.store) :
    Sound l.highlightActive.store := by
  have hclear := EditSession.sound_clear (e := ⟨l.store, false⟩) .selection hs
  unfold highlightActive
  dsimp only
  split
  · exact EditSession.sound_finish hclear
  · split
    · exact EditSession.sound_finish hclear
    · exact sound_highlight hs _

omit [LawfulMarkStore σ α] in
@[simp] theorem lastIndex_highlightActive (l : Layer σ α) :
    l.highlightActive.lastIndex = l.lastIndex := by
  unfold highlightActive
  dsimp only
  split
  · rfl
  · split <;> rfl

omit [LawfulMarkStore σ α] in
theorem lastIndex_redraw (l : Layer σ α) :
    l.redraw.lastIndex = l.lastIndex + l.spots.length := by
  unfold redraw
  rw [lastIndex_highlightActive]
  exact Drawing.index_foldl_addSpot l.spots l.sheet.blank

theorem sound_blank {l : Layer σ α} (hs : Sound l.store) : Sound l.sheet.blank.session.store :=
  EditSession.sound_clear .guide (EditSession.sound_clear .cluster hs)

theorem sound_redraw {l : Layer σ α} (hs : Sound l.store) : Sound l.redraw.store := by
  have hdrawn := Drawing.sound_foldl_addSpot l.spots (sound_blank hs)
  unfold redraw
  exact sound_highlightActive (EditSession.sound_finish hdrawn)

/-- Nothing is left of the marks that were there, and what is made is made of the guides. -/
theorem faces_redraw {l : Layer σ α} (hs : Sound l.store) :
    (spotMarks l.redraw.store).map Mark.face = l.mirror l.spots := by
  have hblank := sound_blank hs
  have hdrawn := Drawing.sound_foldl_addSpot l.spots hblank
  have hnone : ((marks l.sheet.blank.session.store).map Mark.face).filter
      (fun m => decide (m.kind ≠ .selection)) = [] := by
    rw [List.filter_eq_nil_iff]
    intro m hm
    obtain ⟨m', hm', rfl⟩ := List.mem_map.mp hm
    simp [Drawing.blank] at hm'
    cases hkind : m'.kind <;> simp [hkind] at hm' ⊢
  have hcatalog : ∀ g, l.sheet.blank.session.hasDownloaded g =
      MarkStore.hasDownloaded g l.store := by
    intro g
    simp only [Drawing.blank, EditSession.hasDownloaded_clear]
    rfl
  have hfaces : (marks (l.spots.foldl Drawing.addSpot l.sheet.blank).session.store).map Mark.face =
      (marks l.sheet.blank.session.store).map Mark.face ++ l.mirror l.spots := by
    rw [Drawing.faces_foldl_addSpot l.spots hblank]
    simp only [hcatalog]
    rfl
  calc
    (spotMarks l.redraw.store).map Mark.face =
        ((marks (l.spots.foldl Drawing.addSpot l.sheet.blank).session.store).map
          Mark.face).filter (fun m => decide (m.kind ≠ .selection)) := by
      unfold redraw
      rw [spotMarks_highlightActive (EditSession.sound_finish hdrawn), spotMarks,
        EditSession.marks_finish, List.filter_map]
      rfl
    _ = (l.mirror l.spots).filter (fun m => decide (m.kind ≠ .selection)) := by
      rw [hfaces, List.filter_append, hnone, List.nil_append]
    _ = l.mirror l.spots := by
      rw [List.filter_eq_self]
      intro m hm
      simpa using Spot.kind_ne_selection_of_mem_faces hm

theorem spotMarks_clear {l : Layer σ α} (hs : Sound l.store) : spotMarks l.clear.store = [] := by
  have hs' : Sound (store { l with active := none, spots := [], failures := 0 }) := hs
  have hfaces := faces_redraw hs'
  rw [← List.map_eq_nil_iff]
  exact hfaces.trans (Spot.faces_nil _ _ _)

theorem sound_clear {l : Layer σ α} (hs : Sound l.store) : Sound l.clear.store := by
  have hs' : Sound (store { l with active := none, spots := [], failures := 0 }) := hs
  exact sound_redraw hs'

end Layer

/-! ### On the lossy board -/

theorem Drawing.keeps_lossyBoard (spots : List (Spot α)) {d : Drawing (LossyBoard α)}
    (h : d.session.store.Sound) :
    d.keeps spots =
      (List.range' (d.session.store.creations + 1) spots.length).map
        (fun i => !d.session.store.drops i) := by
  induction spots generalizing d with
  | nil => rfl
  | cons s spots ih =>
      have hsound : Sound (d.addSpot s).session.store := by
        rw [session_addSpot]
        exact sound_make h s
      have hmake : (d.make s).1.isSome = !d.session.store.drops (d.session.store.creations + 1) ∧
          (d.make s).2.store.drops = d.session.store.drops ∧
          (d.make s).2.store.creations = d.session.store.creations + 1 := by
        unfold make
        split <;> exact LossyBoard.create_eq h _ _ _
      obtain ⟨hkept, hdrops, hcreations⟩ := hmake
      rw [keeps, ih hsound, session_addSpot, hkept, hdrops, hcreations, List.length_cons,
        List.range'_succ, List.map_cons]

/-- The lossy board mirrors those guides whose creations it does not lose. -/
theorem Layer.mirror_lossyBoard {l : Layer (LossyBoard α) α} (hs : l.store.Sound)
    (spots : List (Spot α)) :
    l.mirror spots =
      Spot.faces l.lastIndex (fun g => l.store.board.hasDownloaded g)
        ((List.range' (l.store.creations + 1) spots.length).map (fun i => !l.store.drops i))
        spots := by
  have hs' : LawfulMarkStore.Sound l.store := hs
  rw [mirror, Drawing.keeps_lossyBoard spots (sound_blank hs')]
  rfl

end GuideLayer
