import GuideLayer.Marks.Lossy
import GuideLayer.Proofs.Keys
import Mathlib.Data.List.Nodup

/-!
What may be expected of a store of marks: that it can be read as the list of
its marks in order of creation, and that each edit does to the list what its
name says. The one freedom a store has is to lose a mark as it is made, with an
id for it that no mark has. The board and the lossy board are such stores.
-/

namespace GuideLayer

/-- A store that can be read as a list of marks, and that may lose marks as they are made. -/
class LawfulMarkStore (σ : Type) (α : outParam Type) [MarkStore σ α] where
  /-- The marks in order of creation. -/
  marks : σ → List (Mark α)
  /-- What holds of a new store and after every edit. -/
  Sound : σ → Prop
  increasing {s : σ} : Sound s → (marks s).Pairwise (fun m m' => m.id < m'.id)
  mark?_eq (id : MarkId) {s : σ} : Sound s →
    MarkStore.mark? id s = (marks s).find? (fun m => decide (m.id = id))
  marks_clearGroup (kind : MarkKind) (s : σ) :
    marks (MarkStore.clearGroup kind s) = (marks s).filter (fun m => decide (m.kind ≠ kind))
  /-- A mark is put at the end, or it is lost. -/
  marks_createMark (kind : MarkKind) (pivot : Point α) {s : σ} : Sound s →
    marks (MarkStore.createMark kind pivot s).2 =
        marks s ++ [{ id := (MarkStore.createMark kind pivot s).1, kind := kind, pivot := pivot }] ∨
      marks (MarkStore.createMark kind pivot s).2 = marks s ∧
        ∀ m ∈ marks s, m.id ≠ (MarkStore.createMark kind pivot s).1
  marks_tagMark (id : MarkId) (tags : MarkTags) {s : σ} : Sound s →
    marks (MarkStore.tagMark id tags s) =
      (marks s).map (fun m => if m.id = id then m.tagged tags else m)
  marks_notifyChanges (s : σ) : marks (MarkStore.notifyChanges s) = marks s
  sound_clearGroup (kind : MarkKind) {s : σ} : Sound s → Sound (MarkStore.clearGroup kind s)
  sound_createMark (kind : MarkKind) (pivot : Point α) {s : σ} : Sound s →
    Sound (MarkStore.createMark kind pivot s).2
  sound_tagMark (id : MarkId) (tags : MarkTags) {s : σ} : Sound s →
    Sound (MarkStore.tagMark id tags s)
  sound_notifyChanges {s : σ} : Sound s → Sound (MarkStore.notifyChanges s)
  hasDownloaded_clearGroup (guideId : String) (kind : MarkKind) (s : σ) :
    MarkStore.hasDownloaded guideId (MarkStore.clearGroup kind s) =
      MarkStore.hasDownloaded guideId s
  hasDownloaded_createMark (guideId : String) (kind : MarkKind) (pivot : Point α) (s : σ) :
    MarkStore.hasDownloaded guideId (MarkStore.createMark kind pivot s).2 =
      MarkStore.hasDownloaded guideId s
  hasDownloaded_tagMark (guideId : String) (id : MarkId) (tags : MarkTags) (s : σ) :
    MarkStore.hasDownloaded guideId (MarkStore.tagMark id tags s) =
      MarkStore.hasDownloaded guideId s

variable {α : Type}

/-! ### The board -/

namespace MarkBoard

/-- Every mark is kept under its own id, and the next id is above all of them. -/
structure Ordered (b : MarkBoard α) : Prop where
  keyed : b.byId.KeyedBy Mark.id
  below : ∀ m ∈ b.marks, m.id < b.nextId

/-- The order of the ids is the order of the marks. -/
theorem Ordered.increasing {b : MarkBoard α} (h : b.Ordered) :
    b.marks.Pairwise (fun m m' => m.id < m'.id) := h.keyed.increasing

theorem byId_of_no_marks {b : MarkBoard α} (h : b.marks = []) : b.byId = .empty :=
  KeyedMap.ext (List.map_eq_nil_iff.mp h)

theorem Ordered.of_empty {b : MarkBoard α} (h : b.marks = []) : b.Ordered := by
  constructor
  · rw [byId_of_no_marks h]
    exact .empty
  · rw [h]
    exact nofun

theorem ordered_empty : Ordered ({} : MarkBoard α) := .of_empty rfl

/-! Each edit of the map is an edit of the list of its marks. -/

theorem marks_clearGroup (kind : MarkKind) (b : MarkBoard α) :
    (b.clearGroup kind).marks = b.marks.filter (fun m => decide (m.kind ≠ kind)) :=
  KeyedMap.values_retain _ b.byId

/-- A new mark has the greatest id, so that it comes last. -/
theorem Ordered.marks_insert {b : MarkBoard α} (h : b.Ordered) (m : Mark α) :
    (b.byId.insert b.nextId m).values = b.marks ++ [m] := h.keyed.values_insert m h.below

theorem Ordered.marks_createMark {b : MarkBoard α} (h : b.Ordered) (kind : MarkKind)
    (pivot : Point α) :
    (b.createMark kind pivot).2.marks =
      b.marks ++ [{ id := b.nextId, kind := kind, pivot := pivot }] := h.marks_insert _

/-- A new mark is found at once. -/
theorem mark?_createMark (kind : MarkKind) (pivot : Point α) (b : MarkBoard α) :
    (b.createMark kind pivot).2.mark? b.nextId =
      some { id := b.nextId, kind := kind, pivot := pivot } :=
  KeyedMap.get?_insert_self b.nextId _ b.byId

theorem Ordered.marks_tagMark {b : MarkBoard α} (h : b.Ordered) (id : MarkId) (tags : MarkTags) :
    (b.tagMark id tags).marks = b.marks.map (fun m => if m.id = id then m.tagged tags else m) :=
  h.keyed.values_modify id (Mark.tagged tags)

theorem mem_of_mark?_eq_some {b : MarkBoard α} {id : MarkId} {m : Mark α}
    (h : b.mark? id = some m) : m ∈ b.marks := KeyedMap.mem_values_of_get? h

theorem Ordered.mark?_eq {b : MarkBoard α} (h : b.Ordered) (id : MarkId) :
    b.mark? id = b.marks.find? (fun m => decide (m.id = id)) := h.keyed.get?_eq id

theorem Ordered.id_of_mark?_eq_some {b : MarkBoard α} (h : b.Ordered) {id : MarkId} {m : Mark α}
    (hm : b.mark? id = some m) : m.id = id := by
  rw [h.mark?_eq] at hm
  simpa using List.find?_some hm

theorem Ordered.clearGroup {b : MarkBoard α} (h : b.Ordered) (kind : MarkKind) :
    (b.clearGroup kind).Ordered where
  keyed := h.keyed.retain _
  below m hm := by
    rw [marks_clearGroup] at hm
    exact h.below m (List.mem_of_mem_filter hm)

theorem Ordered.createMark {b : MarkBoard α} (h : b.Ordered) (kind : MarkKind)
    (pivot : Point α) : (b.createMark kind pivot).2.Ordered where
  keyed := h.keyed.insert rfl
  below m hm := by
    rw [h.marks_createMark] at hm
    rcases List.mem_append.mp hm with hold | hnew
    · exact Nat.lt_succ_of_lt (h.below m hold)
    · rw [List.mem_singleton.mp hnew]
      exact Nat.lt_succ_self _

theorem Ordered.tagMark {b : MarkBoard α} (h : b.Ordered) (id : MarkId) (tags : MarkTags) :
    (b.tagMark id tags).Ordered where
  keyed := h.keyed.modify id (fun m => m.id_tagged tags)
  below m hm := by
    rw [h.marks_tagMark] at hm
    obtain ⟨m', hm', rfl⟩ := List.mem_map.mp hm
    split <;> exact h.below m' hm'

/-- An id belongs to one mark only. -/
theorem Ordered.eq_of_id_eq {b : MarkBoard α} (h : b.Ordered) {m m' : Mark α}
    (hm : m ∈ b.marks) (hm' : m' ∈ b.marks) (heq : m.id = m'.id) : m = m' := by
  have hnodup : (b.marks.map Mark.id).Nodup :=
    List.pairwise_map.mpr (h.increasing.imp Nat.ne_of_lt)
  exact List.inj_on_of_nodup_map hnodup hm hm' heq

theorem Ordered.mark?_id {b : MarkBoard α} (h : b.Ordered) {m : Mark α} (hm : m ∈ b.marks) :
    b.mark? m.id = some m := by
  rw [h.mark?_eq]
  have hfound : (b.marks.find? (fun m' => decide (m'.id = m.id))).isSome = true :=
    List.find?_isSome.mpr ⟨m, hm, by simp⟩
  obtain ⟨m', hm'⟩ := Option.isSome_iff_exists.mp hfound
  have hid : m'.id = m.id := by simpa using List.find?_some hm'
  rw [hm', h.eq_of_id_eq (List.mem_of_find?_eq_some hm') hm hid]

/-- Marks looked up by the ids of a kind are the marks of that kind. -/
theorem Ordered.filterMap_markIds {b : MarkBoard α} (h : b.Ordered) (kind : MarkKind) :
    (b.markIds kind).filterMap b.mark? = b.marksOf kind := by
  unfold markIds
  rw [List.filterMap_map]
  have hfound : ∀ m ∈ b.marksOf kind, ((fun id => b.mark? id) ∘ Mark.id) m = some m :=
    fun m hm => h.mark?_id (List.mem_of_mem_filter hm)
  rw [List.filterMap_congr hfound, List.filterMap_some]

/-- The board loses nothing. -/
instance : LawfulMarkStore (MarkBoard α) α where
  marks := MarkBoard.marks
  Sound := Ordered
  increasing h := h.increasing
  mark?_eq id _ h := h.mark?_eq id
  marks_clearGroup := marks_clearGroup
  marks_createMark kind pivot _ h := .inl (h.marks_createMark kind pivot)
  marks_tagMark id tags _ h := h.marks_tagMark id tags
  marks_notifyChanges _ := rfl
  sound_clearGroup kind _ h := h.clearGroup kind
  sound_createMark kind pivot _ h := h.createMark kind pivot
  sound_tagMark id tags _ h := h.tagMark id tags
  sound_notifyChanges h := ⟨h.keyed, h.below⟩
  hasDownloaded_clearGroup _ _ _ := rfl
  hasDownloaded_createMark _ _ _ _ := rfl
  hasDownloaded_tagMark _ _ _ _ := rfl

end MarkBoard

/-! ### The lossy board -/

namespace LossyBoard

/-- As long as marks are going to be lost, the id for lost marks is out of reach. -/
structure Sound (s : LossyBoard α) : Prop where
  ordered : s.board.Ordered
  spare : ∀ i, s.creations < i → s.drops i = true →
    i - (s.creations + 1) + s.board.nextId ≤ lostId

theorem createMark_lost {s : LossyBoard α} (h : s.drops (s.creations + 1) = true)
    (kind : MarkKind) (pivot : Point α) :
    s.createMark kind pivot = (lostId, { s with creations := s.creations + 1 }) := if_pos h

theorem createMark_kept {s : LossyBoard α} (h : s.drops (s.creations + 1) = false)
    (kind : MarkKind) (pivot : Point α) :
    s.createMark kind pivot =
      (s.board.nextId,
        { s with
          board := (s.board.createMark kind pivot).2
          creations := s.creations + 1 }) :=
  if_neg (Bool.eq_false_iff.mp h)

theorem Sound.createMark {s : LossyBoard α} (h : s.Sound) (kind : MarkKind) (pivot : Point α) :
    (s.createMark kind pivot).2.Sound := by
  cases hdrop : s.drops (s.creations + 1) with
  | true =>
      rw [createMark_lost hdrop]
      refine ⟨h.ordered, ?_⟩
      intro i hi hlost
      have hspare := h.spare i (Nat.lt_of_succ_lt hi) hlost
      change i - (s.creations + 1 + 1) + s.board.nextId ≤ lostId
      omega
  | false =>
      rw [createMark_kept hdrop]
      refine ⟨h.ordered.createMark kind pivot, ?_⟩
      intro i hi hlost
      have hspare := h.spare i (Nat.lt_of_succ_lt hi) hlost
      change s.creations + 1 < i at hi
      change i - (s.creations + 1 + 1) + (s.board.nextId + 1) ≤ lostId
      omega

/-- A mark that is lost has an id that no mark has. -/
theorem Sound.ne_lostId {s : LossyBoard α} (h : s.Sound)
    (hdrop : s.drops (s.creations + 1) = true) : ∀ m ∈ s.board.marks, m.id ≠ lostId := by
  intro m hm
  have hspare := h.spare (s.creations + 1) (Nat.lt_succ_self _) hdrop
  rw [Nat.sub_self, Nat.zero_add] at hspare
  exact Nat.ne_of_lt (Nat.lt_of_lt_of_le (h.ordered.below m hm) hspare)

instance : LawfulMarkStore (LossyBoard α) α where
  marks s := s.board.marks
  Sound := Sound
  increasing h := h.ordered.increasing
  mark?_eq id _ h := h.ordered.mark?_eq id
  marks_clearGroup kind s := s.board.marks_clearGroup kind
  marks_createMark kind pivot s h := by
    change (s.createMark kind pivot).2.board.marks =
        s.board.marks ++ [{ id := (s.createMark kind pivot).1, kind := kind, pivot := pivot }] ∨
      (s.createMark kind pivot).2.board.marks = s.board.marks ∧
        ∀ m ∈ s.board.marks, m.id ≠ (s.createMark kind pivot).1
    cases hdrop : s.drops (s.creations + 1) with
    | true =>
        rw [createMark_lost hdrop]
        exact .inr ⟨rfl, h.ne_lostId hdrop⟩
    | false =>
        rw [createMark_kept hdrop]
        exact .inl (h.ordered.marks_createMark kind pivot)
  marks_tagMark id tags _ h := h.ordered.marks_tagMark id tags
  marks_notifyChanges _ := rfl
  sound_clearGroup kind _ h := ⟨h.ordered.clearGroup kind, h.spare⟩
  sound_createMark kind pivot _ h := h.createMark kind pivot
  sound_tagMark id tags _ h := ⟨h.ordered.tagMark id tags, h.spare⟩
  sound_notifyChanges h := h
  hasDownloaded_clearGroup _ _ _ := rfl
  hasDownloaded_createMark guideId kind pivot s := by
    change (s.createMark kind pivot).2.board.hasDownloaded guideId =
      s.board.hasDownloaded guideId
    cases hdrop : s.drops (s.creations + 1) with
    | true => rw [createMark_lost hdrop]
    | false =>
        rw [createMark_kept hdrop]
        rfl
  hasDownloaded_tagMark _ _ _ _ := rfl

end LossyBoard

/-! ### Sessions -/

namespace EditSession

open LawfulMarkStore

variable {σ : Type} [MarkStore σ α] [LawfulMarkStore σ α]

@[simp] theorem marks_clear (kind : MarkKind) (e : EditSession σ) :
    marks (e.clear kind).store = (marks e.store).filter (fun m => decide (m.kind ≠ kind)) :=
  marks_clearGroup kind e.store

theorem sound_clear (kind : MarkKind) {e : EditSession σ} (h : Sound e.store) :
    Sound (e.clear kind).store := sound_clearGroup kind h

@[simp] theorem hasDownloaded_clear (guideId : String) (kind : MarkKind) (e : EditSession σ) :
    (e.clear kind).hasDownloaded guideId = e.hasDownloaded guideId :=
  hasDownloaded_clearGroup guideId kind e.store

@[simp] theorem marks_finish (e : EditSession σ) : marks e.finish = marks e.store := by
  unfold finish
  split
  · exact marks_notifyChanges e.store
  · rfl

theorem sound_finish {e : EditSession σ} (h : Sound e.store) : Sound e.finish := by
  unfold finish
  split
  · exact sound_notifyChanges h
  · exact h

/-- A mark that the store keeps stands at the end, with its tags on. -/
theorem marks_create (kind : MarkKind) (pivot : Point α) (tags : MarkTags) {e : EditSession σ}
    (h : Sound e.store) :
    marks (e.create kind pivot tags).2.store =
      marks e.store ++
        ((e.create kind pivot tags).1.map
          (fun id => Mark.tagged tags { id := id, kind := kind, pivot := pivot })).toList := by
  have hsound := sound_createMark kind pivot h
  have hincreasing := increasing hsound
  have hfound := mark?_eq (MarkStore.createMark kind pivot e.store).1 hsound
  unfold create
  dsimp only
  rcases marks_createMark kind pivot h with hkept | ⟨hlost, hfree⟩
  · -- The new id is above all others, so that the tags reach the new mark only.
    have hne : ∀ m ∈ marks e.store, m.id ≠ (MarkStore.createMark kind pivot e.store).1 := by
      rw [hkept] at hincreasing
      intro m hm
      exact Nat.ne_of_lt ((List.pairwise_append.mp hincreasing).2.2 m hm _
        (List.mem_singleton_self _))
    have hsome : MarkStore.mark? (MarkStore.createMark kind pivot e.store).1
        (MarkStore.createMark kind pivot e.store).2 =
          some { id := (MarkStore.createMark kind pivot e.store).1, kind := kind, pivot := pivot } := by
      rw [hfound, hkept, List.find?_append, List.find?_eq_none.mpr (by simpa using hne)]
      simp
    rw [hsome]
    simp only [marks_tagMark _ _ hsound, hkept, List.map_append, Option.map_some, Option.toList_some,
      List.map_singleton, if_true]
    congr 1
    conv_rhs => rw [← List.map_id (marks e.store)]
    exact List.map_congr_left (fun m hm => if_neg (hne m hm))
  · have hnone : MarkStore.mark? (MarkStore.createMark kind pivot e.store).1
        (MarkStore.createMark kind pivot e.store).2 = none := by
      rw [hfound, hlost]
      exact List.find?_eq_none.mpr (by simpa using hfree)
    rw [hnone]
    simp [hlost]

theorem sound_create (kind : MarkKind) (pivot : Point α) (tags : MarkTags) {e : EditSession σ}
    (h : Sound e.store) : Sound (e.create kind pivot tags).2.store := by
  unfold create
  dsimp only
  split
  · exact sound_createMark kind pivot h
  · exact sound_tagMark _ tags (sound_createMark kind pivot h)

@[simp] theorem hasDownloaded_create (guideId : String) (kind : MarkKind) (pivot : Point α)
    (tags : MarkTags) (e : EditSession σ) :
    (e.create kind pivot tags).2.hasDownloaded guideId = e.hasDownloaded guideId := by
  unfold create
  dsimp only
  split
  · exact hasDownloaded_createMark guideId kind pivot e.store
  · exact (hasDownloaded_tagMark guideId _ tags _).trans
      (hasDownloaded_createMark guideId kind pivot e.store)

end EditSession

namespace MarkBoard

/-- Every creation leaves a mark, with its tags on. -/
theorem create_eq (e : EditSession (MarkBoard α)) (kind : MarkKind) (pivot : Point α)
    (tags : MarkTags) :
    e.create kind pivot tags =
      (some e.store.nextId,
        ⟨{ e.store with
            nextId := e.store.nextId + 1
            byId := e.store.byId.insert e.store.nextId
              (Mark.tagged tags { id := e.store.nextId, kind := kind, pivot := pivot }) },
          true⟩) := by
  have hmake : MarkStore.createMark kind pivot e.store =
      (e.store.nextId, (e.store.createMark kind pivot).2) := rfl
  have hmade : MarkStore.mark? e.store.nextId (e.store.createMark kind pivot).2 =
      some { id := e.store.nextId, kind := kind, pivot := pivot } :=
    e.store.mark?_createMark kind pivot
  have hbyId := KeyedMap.modify_insert_self e.store.nextId
    { id := e.store.nextId, kind := kind, pivot := pivot } (Mark.tagged tags) e.store.byId
  unfold EditSession.create
  dsimp only
  rw [hmake, hmade]
  exact congrArg (fun byId => (some e.store.nextId, EditSession.mk
    { e.store with nextId := e.store.nextId + 1, byId := byId } true)) hbyId

theorem Ordered.marks_create {e : EditSession (MarkBoard α)} (h : e.store.Ordered)
    (kind : MarkKind) (pivot : Point α) (tags : MarkTags) :
    (e.create kind pivot tags).2.store.marks =
      e.store.marks ++
        [Mark.tagged tags { id := e.store.nextId, kind := kind, pivot := pivot }] := by
  rw [create_eq]
  exact h.marks_insert _

end MarkBoard

namespace LossyBoard

/-- Which creations the board loses is settled by their ordinals. -/
theorem create_eq {e : EditSession (LossyBoard α)} (h : e.store.Sound) (kind : MarkKind)
    (pivot : Point α) (tags : MarkTags) :
    (e.create kind pivot tags).1.isSome = !e.store.drops (e.store.creations + 1) ∧
      (e.create kind pivot tags).2.store.drops = e.store.drops ∧
      (e.create kind pivot tags).2.store.creations = e.store.creations + 1 := by
  have hmade : MarkStore.createMark kind pivot e.store = e.store.createMark kind pivot := rfl
  unfold EditSession.create
  dsimp only
  rw [hmade]
  cases hdrop : e.store.drops (e.store.creations + 1) with
  | true =>
      have hnone : MarkStore.mark? lostId
          ({ e.store with creations := e.store.creations + 1 } : LossyBoard α) = none := by
        refine (h.ordered.mark?_eq lostId).trans (List.find?_eq_none.mpr ?_)
        simpa using h.ne_lostId hdrop
      rw [createMark_lost hdrop]
      dsimp only
      rw [hnone]
      exact ⟨rfl, rfl, rfl⟩
  | false =>
      have hsome : MarkStore.mark? e.store.board.nextId
          ({ e.store with
            board := (e.store.board.createMark kind pivot).2
            creations := e.store.creations + 1 } : LossyBoard α) =
              some { id := e.store.board.nextId, kind := kind, pivot := pivot } :=
        e.store.board.mark?_createMark kind pivot
      rw [createMark_kept hdrop]
      dsimp only
      rw [hsome]
      exact ⟨rfl, rfl, rfl⟩

end LossyBoard

end GuideLayer
