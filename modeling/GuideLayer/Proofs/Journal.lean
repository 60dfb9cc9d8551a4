import GuideLayer.Proofs.Stores
import Mathlib.Data.List.Induction

/-!
What a board holds, told from what was done to it. Marks are kept by their
ids, and read in this order they stand in order of creation. A mark is there
from its creation until its kind is cleared, its id is its place among all
creations, and it wears the tags that were put on this id meanwhile. So the
marks can be read off a journal of the edits, in which each creation only has
to look at what comes after it.

That a journal in two parts is read part by part is the one fact about
journals; the rest is one short entry for each edit. What is edited in a
session stands in the same journal, and only the notices that are given
depend on where a session ends.
-/

namespace GuideLayer

variable {α : Type}

/-! ### What can be done with a board -/

/-- What can be asked of a board, also in a session. -/
inductive BoardQuery where
  | markIds (kind : MarkKind)
  | mark (id : MarkId)
  | hasDownloaded (guideId : String)

inductive SessionStep (α : Type) where
  | clear (kind : MarkKind)
  | create (kind : MarkKind) (pivot : Point α) (tags : MarkTags)
  | ask (q : BoardQuery)

inductive BoardStep (α : Type) where
  | clear (kind : MarkKind)
  | create (kind : MarkKind) (pivot : Point α)
  | tag (id : MarkId) (tags : MarkTags)
  | ask (q : BoardQuery)
  | count (kind : MarkKind)
  | addDownloaded (guideId : String)
  | removeDownloaded (guideId : String)
  | notify
  /-- Opens a session, takes its steps and ends it. -/
  | session (steps : List (SessionStep α))

/-- What is answered. -/
inductive BoardReply (α : Type) where
  | done
  | created (id : Option MarkId)
  | ids (ids : List MarkId)
  | mark (m : Option (Mark α))
  | truth (b : Bool)
  | number (n : Nat)

namespace EditSession

def answer (e : EditSession (MarkBoard α)) : BoardQuery → BoardReply α
  | .markIds kind => .ids (e.markIds kind)
  | .mark id => .mark (e.mark? id)
  | .hasDownloaded guideId => .truth (e.hasDownloaded guideId)

def step (e : EditSession (MarkBoard α)) :
    SessionStep α → BoardReply α × EditSession (MarkBoard α)
  | .clear kind => (.done, e.clear kind)
  | .create kind pivot tags =>
    let made := e.create kind pivot tags
    (.created made.1, made.2)
  | .ask q => (e.answer q, e)

/-- Takes all steps in their order, and tells what was answered to each. -/
def run (e : EditSession (MarkBoard α)) :
    List (SessionStep α) → List (BoardReply α) × EditSession (MarkBoard α)
  | [] => ([], e)
  | s :: steps =>
    let first := e.step s
    let later := first.2.run steps
    (first.1 :: later.1, later.2)

end EditSession

namespace MarkBoard

def answer (b : MarkBoard α) : BoardQuery → BoardReply α
  | .markIds kind => .ids (b.markIds kind)
  | .mark id => .mark (b.mark? id)
  | .hasDownloaded guideId => .truth (b.hasDownloaded guideId)

/-- There is one reply to a step, but a session has one for each of its own. -/
def step (b : MarkBoard α) : BoardStep α → List (BoardReply α) × MarkBoard α
  | .clear kind => ([.done], b.clearGroup kind)
  | .create kind pivot =>
    let made := b.createMark kind pivot
    ([.created (some made.1)], made.2)
  | .tag id tags => ([.truth (b.mark? id).isSome], b.tagMark id tags)
  | .ask q => ([b.answer q], b)
  | .count kind => ([.number (b.markCount kind)], b)
  | .addDownloaded guideId => ([.done], b.addDownloaded guideId)
  | .removeDownloaded guideId =>
    ([.truth (b.hasDownloaded guideId)], b.removeDownloaded guideId)
  | .notify => ([.done], b.notifyChanges)
  | .session steps =>
    let ended := EditSession.run ⟨b, false⟩ steps
    (ended.1, ended.2.finish)

/-- Takes all steps in their order. -/
def run (b : MarkBoard α) (steps : List (BoardStep α)) : MarkBoard α :=
  steps.foldl (fun b s => (b.step s).2) b

@[simp] theorem run_concat (b : MarkBoard α) (steps : List (BoardStep α)) (s : BoardStep α) :
    b.run (steps ++ [s]) = ((b.run steps).step s).2 := by
  simp [run]

end MarkBoard

/-! ### Journals -/

/-- An edit of the marks as it is written down. -/
inductive MarkEdit (α : Type) where
  | cleared (kind : MarkKind)
  | created (kind : MarkKind) (pivot : Point α) (tags : MarkTags)
  | tagged (id : MarkId) (tags : MarkTags)

namespace MarkEdit

def isCreation : MarkEdit α → Bool
  | .created _ _ _ => true
  | _ => false

def clears (kind : MarkKind) : MarkEdit α → Bool
  | .cleared kind' => decide (kind' = kind)
  | _ => false

/-- The tags that are put on the mark of an id. -/
def tagsFor? (id : MarkId) : MarkEdit α → Option MarkTags
  | .tagged id' tags => if id' = id then some tags else none
  | _ => none

end MarkEdit

/-- Edits of marks in the order in which they were made. -/
abbrev Journal (α : Type) := List (MarkEdit α)

namespace Journal

/-- How many marks were made. -/
def creations (j : Journal α) : Nat := j.countP MarkEdit.isCreation

/-- Whether a mark that was there before is still there. -/
def spares (j : Journal α) (m : Mark α) : Bool := !j.any (MarkEdit.clears m.kind)

/-- A mark that was there before, with the tags that were put on it. -/
def retag (j : Journal α) (m : Mark α) : Mark α :=
  (j.filterMap (MarkEdit.tagsFor? m.id)).foldl (fun m tags => m.tagged tags) m

/-- What is left of marks that were there before. -/
def carry (j : Journal α) (ms : List (Mark α)) : List (Mark α) :=
  (ms.filter j.spares).map j.retag

/-- The marks that were made and are still there. The id of the first one that was made is `n`. -/
def marksFrom (n : Nat) : Journal α → List (Mark α)
  | [] => []
  | .created kind pivot tags :: later =>
    carry later [Mark.tagged tags { id := n, kind := kind, pivot := pivot }] ++
      marksFrom (n + 1) later
  | .cleared _ :: later => marksFrom n later
  | .tagged _ _ :: later => marksFrom n later

/-- The marks of a board whose journal was kept from the beginning. -/
def marks (j : Journal α) : List (Mark α) := marksFrom 0 j

@[simp] theorem creations_append (j j' : Journal α) :
    creations (j ++ j') = creations j + creations j' := List.countP_append

@[simp] theorem carry_append (j : Journal α) (ms ms' : List (Mark α)) :
    carry j (ms ++ ms') = carry j ms ++ carry j ms' := by
  simp [carry]

@[simp] theorem carry_empty (ms : List (Mark α)) : carry [] ms = ms := by
  have hretag : (retag [] : Mark α → Mark α) = id := rfl
  simp [carry, spares, hretag]

/-! One entry makes of the marks what the edit makes of them. -/

@[simp] theorem carry_cleared (kind : MarkKind) (ms : List (Mark α)) :
    carry [.cleared kind] ms = ms.filter (fun m => decide (m.kind ≠ kind)) := by
  have hretag : (retag [.cleared kind] : Mark α → Mark α) = id := rfl
  have hspares (m : Mark α) : spares [.cleared kind] m = decide (m.kind ≠ kind) := by
    simp [spares, MarkEdit.clears, eq_comm]
  unfold carry
  rw [hretag, List.map_id]
  exact List.filter_congr (fun m _ => hspares m)

@[simp] theorem carry_created (kind : MarkKind) (pivot : Point α) (tags : MarkTags)
    (ms : List (Mark α)) : carry [.created kind pivot tags] ms = ms := by
  have hretag : (retag [.created kind pivot tags] : Mark α → Mark α) = id := rfl
  unfold carry
  rw [hretag, List.map_id]
  exact List.filter_eq_self.mpr (fun _ _ => rfl)

@[simp] theorem carry_tagged (id : MarkId) (tags : MarkTags) (ms : List (Mark α)) :
    carry [.tagged id tags] ms = ms.map (fun m => if m.id = id then m.tagged tags else m) := by
  have hretag (m : Mark α) :
      retag [.tagged id tags] m = if m.id = id then m.tagged tags else m := by
    by_cases h : m.id = id
    · simp [retag, MarkEdit.tagsFor?, h]
    · simp [retag, MarkEdit.tagsFor?, h, Ne.symm h]
  have hspares : ms.filter (spares [.tagged id tags]) = ms :=
    List.filter_eq_self.mpr (fun _ _ => rfl)
  unfold carry
  rw [hspares]
  exact List.map_congr_left (fun m _ => hretag m)

/-- Tags reach neither the id of a mark nor its kind. -/
theorem id_kind_retag (j : Journal α) (m : Mark α) :
    (j.retag m).id = m.id ∧ (j.retag m).kind = m.kind := by
  have hkept (tagss : List MarkTags) (m : Mark α) :
      (tagss.foldl (fun m tags => m.tagged tags) m).id = m.id ∧
        (tagss.foldl (fun m tags => m.tagged tags) m).kind = m.kind := by
    induction tagss generalizing m with
    | nil => exact ⟨rfl, rfl⟩
    | cons tags tagss ih => exact ih (m.tagged tags)
  exact hkept _ m

theorem spares_append (j j' : Journal α) (m : Mark α) :
    spares (j ++ j') m = (j.spares m && j'.spares (j.retag m)) := by
  -- The second part meets the mark with other tags on it, but clears by kind.
  simp [spares, (id_kind_retag j m).2]

theorem retag_append (j j' : Journal α) (m : Mark α) :
    retag (j ++ j') m = j'.retag (j.retag m) := by
  unfold retag
  rw [List.filterMap_append, List.foldl_append]
  change _ = ((j'.filterMap (MarkEdit.tagsFor? (j.retag m).id)).foldl _ _)
  rw [(id_kind_retag j m).1]

theorem carry_journal_append (j j' : Journal α) (ms : List (Mark α)) :
    carry (j ++ j') ms = carry j' (carry j ms) := by
  induction ms with
  | nil => rfl
  | cons m ms ih =>
      have hhead : carry (j ++ j') [m] = carry j' (carry j [m]) := by
        simp only [carry, List.filter_cons, List.filter_nil, spares_append]
        cases hsp : j.spares m <;> cases hsp' : j'.spares (j.retag m) <;>
          simp [hsp', retag_append]
      rw [← List.singleton_append, carry_append, carry_append, carry_append, hhead, ih]

/-- What was made in the first part goes through the second one like any other mark. -/
theorem marksFrom_append (n : Nat) (j j' : Journal α) :
    marksFrom n (j ++ j') = carry j' (marksFrom n j) ++ marksFrom (n + creations j) j' := by
  induction j generalizing n with
  | nil => simp [marksFrom, creations, carry]
  | cons e j ih =>
      cases e with
      | cleared kind => exact ih n
      | tagged id tags => exact ih n
      | created kind pivot tags =>
          have hone : creations (.created kind pivot tags :: j) = creations j + 1 :=
            List.countP_cons_of_pos rfl
          have hnumber : n + creations (.created kind pivot tags :: j) = n + 1 + creations j := by
            omega
          rw [List.cons_append, marksFrom, marksFrom, ih, carry_append, carry_journal_append,
            List.append_assoc, hnumber]

end Journal

/-! ### Edits of a board -/

open Journal

/-- The second board is what the journal makes of the first one. -/
structure Follows (j : Journal α) (b b' : MarkBoard α) : Prop where
  marks_eq : b'.marks = carry j b.marks ++ marksFrom b.nextId j
  nextId_eq : b'.nextId = b.nextId + creations j

namespace Follows

/-- What leaves the marks alone is not in the journal. -/
theorem of_same {b b' : MarkBoard α} (hmarks : b'.marks = b.marks) (hnext : b'.nextId = b.nextId) :
    Follows [] b b' := by
  constructor
  · rw [hmarks, carry_empty, marksFrom, List.append_nil]
  · rw [hnext]
    rfl

theorem trans {j j' : Journal α} {b b' b'' : MarkBoard α} (h : Follows j b b')
    (h' : Follows j' b' b'') : Follows (j ++ j') b b'' := by
  constructor
  · rw [h'.marks_eq, h.marks_eq, h.nextId_eq, carry_append, carry_journal_append,
      marksFrom_append, List.append_assoc]
  · rw [h'.nextId_eq, h.nextId_eq, creations_append, Nat.add_assoc]

theorem clear (kind : MarkKind) (b : MarkBoard α) :
    Follows [.cleared kind] b (b.clearGroup kind) := by
  constructor
  · rw [carry_cleared, marksFrom, marksFrom, List.append_nil, MarkBoard.marks_clearGroup]
  · rfl

theorem tag (id : MarkId) (tags : MarkTags) {b : MarkBoard α} (h : b.Ordered) :
    Follows [.tagged id tags] b (b.tagMark id tags) := by
  constructor
  · rw [carry_tagged, marksFrom, marksFrom, List.append_nil, h.marks_tagMark]
  · rfl

theorem create (kind : MarkKind) (pivot : Point α) (tags : MarkTags) {b b' : MarkBoard α}
    (hmarks : b'.marks =
      b.marks ++ [Mark.tagged tags { id := b.nextId, kind := kind, pivot := pivot }])
    (hnext : b'.nextId = b.nextId + 1) : Follows [.created kind pivot tags] b b' := by
  constructor
  · rw [hmarks, carry_created, marksFrom, marksFrom, carry_empty, List.append_nil]
  · exact hnext

end Follows

/-! ### What is to be written down, and what is to be answered -/

namespace SessionStep

def edits : SessionStep α → Journal α
  | .clear kind => [.cleared kind]
  | .create kind pivot tags => [.created kind pivot tags]
  | .ask _ => []

/-- Clearing is an edit even if there is nothing to clear. -/
def isEdit : SessionStep α → Bool
  | .ask _ => false
  | _ => true

end SessionStep

namespace BoardStep

def edits : BoardStep α → Journal α
  | .clear kind => [.cleared kind]
  | .create kind pivot => [.created kind pivot {}]
  | .tag id tags => [.tagged id tags]
  | .session steps => steps.flatMap SessionStep.edits
  | _ => []

/-- Whether a guide is saved from now on, if the step is about that guide. -/
def saves? (guideId : String) : BoardStep α → Option Bool
  | .addDownloaded guideId' => if guideId' = guideId then some true else none
  | .removeDownloaded guideId' => if guideId' = guideId then some false else none
  | _ => none

def isNotice : BoardStep α → Bool
  | .notify => true
  | _ => false

def isEditedSession : BoardStep α → Bool
  | .session steps => steps.any SessionStep.isEdit
  | _ => false

end BoardStep

/-- A guide is saved if the last that was said about it is that it is. -/
def savedAfter (steps : List (BoardStep α)) (guideId : String) : Bool :=
  (steps.filterMap (BoardStep.saves? guideId)).getLast?.getD false

theorem savedAfter_concat (steps : List (BoardStep α)) (s : BoardStep α) (guideId : String) :
    savedAfter (steps ++ [s]) guideId = (s.saves? guideId).getD (savedAfter steps guideId) := by
  unfold savedAfter
  rw [List.filterMap_append]
  cases h : s.saves? guideId <;> simp [h]

/-- What is answered when the journal tells the marks. -/
def BoardQuery.told (j : Journal α) (saved : String → Bool) : BoardQuery → BoardReply α
  | .markIds kind => .ids ((j.marks.filter (fun m => decide (m.kind = kind))).map Mark.id)
  | .mark id => .mark (j.marks.find? (fun m => decide (m.id = id)))
  | .hasDownloaded guideId => .truth (saved guideId)

def SessionStep.told (j : Journal α) (saved : String → Bool) : SessionStep α → BoardReply α
  | .clear _ => .done
  | .create _ _ _ => .created (some j.creations)
  | .ask q => q.told j saved

/-- The edits of a session show in it at once. -/
def SessionStep.allTold (saved : String → Bool) :
    Journal α → List (SessionStep α) → List (BoardReply α)
  | _, [] => []
  | j, s :: steps => s.told j saved :: allTold saved (j ++ s.edits) steps

def BoardStep.told (j : Journal α) (saved : String → Bool) : BoardStep α → List (BoardReply α)
  | .clear _ => [.done]
  | .create _ _ => [.created (some j.creations)]
  | .tag id _ => [.truth (j.marks.find? (fun m => decide (m.id = id))).isSome]
  | .ask q => [q.told j saved]
  | .count kind => [.number (j.marks.filter (fun m => decide (m.kind = kind))).length]
  | .addDownloaded _ => [.done]
  | .removeDownloaded guideId => [.truth (saved guideId)]
  | .notify => [.done]
  | .session steps => SessionStep.allTold saved j steps

/-- The board holds what its journal and the list of saved guides say. -/
structure MarkBoard.Reads (j : Journal α) (saved : String → Bool) (b : MarkBoard α) : Prop where
  ordered : b.Ordered
  marks_eq : b.marks = j.marks
  nextId_eq : b.nextId = j.creations
  saved_eq : ∀ guideId, b.hasDownloaded guideId = saved guideId

namespace MarkBoard.Reads

variable {j j' : Journal α} {saved saved' : String → Bool} {b b' : MarkBoard α}

theorem follow (h : b.Reads j saved) (hedits : Follows j' b b') (hordered : b'.Ordered)
    (hsaved : ∀ guideId, b'.hasDownloaded guideId = saved' guideId) :
    b'.Reads (j ++ j') saved' where
  ordered := hordered
  marks_eq := by
    rw [hedits.marks_eq, h.marks_eq, h.nextId_eq, Journal.marks, Journal.marks,
      Journal.marksFrom_append, Nat.zero_add]
  nextId_eq := by
    rw [hedits.nextId_eq, h.nextId_eq, Journal.creations_append]
  saved_eq := hsaved

theorem answer (h : b.Reads j saved) (q : BoardQuery) : b.answer q = q.told j saved := by
  cases q with
  | markIds kind =>
      rw [MarkBoard.answer, markIds, marksOf, h.marks_eq]
      rfl
  | mark id =>
      rw [MarkBoard.answer, h.ordered.mark?_eq, h.marks_eq]
      rfl
  | hasDownloaded guideId =>
      rw [MarkBoard.answer, h.saved_eq]
      rfl

end MarkBoard.Reads

/-! ### Sessions -/

namespace EditSession

/-- A session that has taken some steps remembers whether it edited anything, and nobody is told
before it ends. -/
structure Proceeds (steps : List (SessionStep α)) (e e' : EditSession (MarkBoard α)) : Prop where
  follows : Follows (steps.flatMap SessionStep.edits) e.store e'.store
  ordered : e'.store.Ordered
  changed : e'.changed = (e.changed || steps.any SessionStep.isEdit)
  downloaded : e'.store.downloaded = e.store.downloaded
  notifyCount : e'.store.notifyCount = e.store.notifyCount

theorem proceeds_step {e : EditSession (MarkBoard α)} (h : e.store.Ordered) (s : SessionStep α) :
    Proceeds [s] e (e.step s).2 := by
  cases s with
  | clear kind =>
      refine ⟨?_, h.clearGroup kind, ?_, rfl, rfl⟩
      · exact Follows.clear kind e.store
      · simp [step, EditSession.clear, SessionStep.isEdit]
  | create kind pivot tags =>
      have hmade := MarkBoard.create_eq e kind pivot tags
      have hordered : LawfulMarkStore.Sound e.store := h
      refine ⟨?_, sound_create kind pivot tags hordered, ?_, ?_, ?_⟩
      · exact .create kind pivot tags (h.marks_create kind pivot tags) (by simp [step, hmade])
      · simp [step, hmade, SessionStep.isEdit]
      · simp [step, hmade]
      · simp [step, hmade]
  | ask q =>
      refine ⟨.of_same rfl rfl, h, ?_, rfl, rfl⟩
      simp [step, SessionStep.isEdit]

theorem proceeds_run {e : EditSession (MarkBoard α)} (h : e.store.Ordered)
    (steps : List (SessionStep α)) : Proceeds steps e (e.run steps).2 := by
  induction steps generalizing e with
  | nil => exact ⟨.of_same rfl rfl, h, (Bool.or_false _).symm, rfl, rfl⟩
  | cons s steps ih =>
      have hfirst := proceeds_step h s
      have hlater := ih hfirst.ordered
      refine ⟨?_, hlater.ordered, ?_, ?_, ?_⟩
      · have hboth := hfirst.follows.trans hlater.follows
        rwa [List.flatMap_singleton] at hboth
      · change (run _ steps).2.changed = _
        rw [hlater.changed, hfirst.changed]
        simp [Bool.or_assoc]
      · exact hlater.downloaded.trans hfirst.downloaded
      · exact hlater.notifyCount.trans hfirst.notifyCount

theorem replies_run {e : EditSession (MarkBoard α)} {j : Journal α} {saved : String → Bool}
    (hreads : e.store.Reads j saved) (steps : List (SessionStep α)) :
    (e.run steps).1 = SessionStep.allTold saved j steps := by
  induction steps generalizing e j with
  | nil => rfl
  | cons s steps ih =>
      have hfirst := proceeds_step hreads.ordered s
      have hfollows : Follows s.edits e.store (e.step s).2.store := by
        have hone := hfirst.follows
        rwa [List.flatMap_singleton] at hone
      have hreply : (e.step s).1 = s.told j saved := by
        cases s with
        | clear kind => rfl
        | create kind pivot tags =>
            simp [step, SessionStep.told, MarkBoard.create_eq, hreads.nextId_eq]
        | ask q =>
            have hsame : e.answer q = e.store.answer q := by cases q <;> rfl
            exact hsame.trans (hreads.answer q)
      have hsaved (guideId : String) : (e.step s).2.store.hasDownloaded guideId = saved guideId := by
        rw [MarkBoard.hasDownloaded, hfirst.downloaded]
        exact hreads.saved_eq guideId
      have hlater := ih (hreads.follow hfollows hfirst.ordered hsaved)
      rw [SessionStep.allTold, ← hreply, ← hlater]
      rfl

end EditSession

/-! ### Boards -/

namespace MarkBoard

theorem hasDownloaded_addDownloaded (b : MarkBoard α) (guideId guideId' : String) :
    (b.addDownloaded guideId').hasDownloaded guideId =
      (if guideId' = guideId then some true else none).getD (b.hasDownloaded guideId) := by
  by_cases h : guideId' = guideId
  · simp [hasDownloaded, addDownloaded, h]
  · simp [hasDownloaded, addDownloaded, h, Ne.symm h]

theorem hasDownloaded_removeDownloaded (b : MarkBoard α) (guideId guideId' : String) :
    (b.removeDownloaded guideId').hasDownloaded guideId =
      (if guideId' = guideId then some false else none).getD (b.hasDownloaded guideId) := by
  by_cases h : guideId' = guideId
  · simp [hasDownloaded, removeDownloaded, h]
  · simp [hasDownloaded, removeDownloaded, h, Ne.symm h]

/-- What one step does to a board, and who is told. -/
structure Advances (s : BoardStep α) (b b' : MarkBoard α) : Prop where
  follows : Follows s.edits b b'
  ordered : b'.Ordered
  saved : ∀ guideId, b'.hasDownloaded guideId = (s.saves? guideId).getD (b.hasDownloaded guideId)
  notifyCount : b'.notifyCount = b.notifyCount +
    ((if s.isNotice then 1 else 0) + if s.isEditedSession then 1 else 0)

theorem advances_session {b : MarkBoard α} (h : b.Ordered) (steps : List (SessionStep α)) :
    Advances (.session steps) b (b.step (.session steps)).2 := by
  have hran := EditSession.proceeds_run (e := ⟨b, false⟩) h steps
  let e := (EditSession.run ⟨b, false⟩ steps).2
  -- The end of a session is no edit, whether it is told of or not.
  have hfinish : Follows [] e.store e.finish := by
    unfold EditSession.finish
    split <;> exact .of_same rfl rfl
  have hsame : e.finish.downloaded = e.store.downloaded := by
    unfold EditSession.finish
    split <;> rfl
  refine ⟨?_, ?_, ?_, ?_⟩
  · have hboth := hran.follows.trans hfinish
    rwa [List.append_nil] at hboth
  · have hsound : LawfulMarkStore.Sound e.store := hran.ordered
    exact EditSession.sound_finish hsound
  · intro guideId
    change e.finish.downloaded.contains guideId = b.downloaded.contains guideId
    rw [hsame, hran.downloaded]
  · have hchanged : e.changed = steps.any SessionStep.isEdit := hran.changed
    have hcount : e.store.notifyCount = b.notifyCount := hran.notifyCount
    change e.finish.notifyCount = b.notifyCount + (0 + if steps.any SessionStep.isEdit then 1 else 0)
    rw [← hchanged, ← hcount, Nat.zero_add]
    unfold EditSession.finish
    split <;> rfl

theorem advances_step {b : MarkBoard α} (h : b.Ordered) (s : BoardStep α) :
    Advances s b (b.step s).2 := by
  cases s with
  | clear kind => exact ⟨.clear kind b, h.clearGroup kind, fun _ => rfl, rfl⟩
  | create kind pivot =>
      refine ⟨.create kind pivot {} ?_ rfl, h.createMark kind pivot, fun _ => rfl, rfl⟩
      rw [Mark.tagged_none]
      exact h.marks_createMark kind pivot
  | tag id tags => exact ⟨.tag id tags h, h.tagMark id tags, fun _ => rfl, rfl⟩
  | ask | count => exact ⟨.of_same rfl rfl, h, fun _ => rfl, rfl⟩
  | addDownloaded guideId =>
      exact ⟨.of_same rfl rfl, ⟨h.keyed, h.below⟩,
        fun guideId' => hasDownloaded_addDownloaded b guideId' guideId, rfl⟩
  | removeDownloaded guideId =>
      exact ⟨.of_same rfl rfl, ⟨h.keyed, h.below⟩,
        fun guideId' => hasDownloaded_removeDownloaded b guideId' guideId, rfl⟩
  | notify => exact ⟨.of_same rfl rfl, ⟨h.keyed, h.below⟩, fun _ => rfl, rfl⟩
  | session steps => exact advances_session h steps

theorem reply_step {b : MarkBoard α} {j : Journal α} {saved : String → Bool}
    (hreads : b.Reads j saved) (s : BoardStep α) : (b.step s).1 = s.told j saved := by
  cases s with
  | clear | addDownloaded | notify => rfl
  | create kind pivot =>
      change [BoardReply.created (some b.nextId)] = _
      rw [hreads.nextId_eq]
      rfl
  | tag id tags =>
      change [BoardReply.truth (b.mark? id).isSome] = _
      rw [hreads.ordered.mark?_eq, hreads.marks_eq]
      rfl
  | ask q =>
      change [b.answer q] = _
      rw [hreads.answer]
      rfl
  | count kind =>
      change [BoardReply.number (b.marks.filter _).length] = _
      rw [hreads.marks_eq]
      rfl
  | removeDownloaded guideId =>
      change [BoardReply.truth (b.hasDownloaded guideId)] = _
      rw [hreads.saved_eq]
      rfl
  | session steps => exact EditSession.replies_run (e := ⟨b, false⟩) hreads steps

/-! ### Runs -/

theorem reads_run (steps : List (BoardStep α)) :
    (run {} steps).Reads (steps.flatMap BoardStep.edits) (savedAfter steps) ∧
      (run {} steps).notifyCount =
        steps.countP BoardStep.isNotice + steps.countP BoardStep.isEditedSession := by
  induction steps using List.reverseRecOn with
  | nil => exact ⟨⟨ordered_empty, rfl, rfl, fun _ => rfl⟩, rfl⟩
  | append_singleton steps s ih =>
      obtain ⟨hreads, hcount⟩ := ih
      have hstep := advances_step hreads.ordered s
      have hsaved (guideId : String) : ((run {} steps).step s).2.hasDownloaded guideId =
          savedAfter (steps ++ [s]) guideId := by
        rw [hstep.saved, savedAfter_concat, hreads.saved_eq]
      rw [run_concat, List.flatMap_append, List.flatMap_singleton]
      refine ⟨hreads.follow hstep.follows hstep.ordered hsaved, ?_⟩
      rw [hstep.notifyCount, hcount, List.countP_append, List.countP_append,
        List.countP_singleton, List.countP_singleton]
      omega

/-- The map from ids to marks can be taken for the list of its marks, which is in order of
creation, and what the board holds and answers can be told from the steps that were taken. -/
structure ToldBy (steps : List (BoardStep α)) (b : MarkBoard α) : Prop where
  keyed : ∀ e ∈ b.byId.entries, e.2.id = e.1 ∧ e.1 < b.nextId
  found : ∀ id, b.byId.get? id = b.marks.find? (fun m => decide (m.id = id))
  marks_eq : b.marks = Journal.marks (steps.flatMap BoardStep.edits)
  nextId_eq : b.nextId = Journal.creations (steps.flatMap BoardStep.edits)
  increasing : b.marks.Pairwise (fun m m' => m.id < m'.id)
  created : ∀ kind pivot, (b.step (.create kind pivot)).2.marks =
    b.marks ++ [{ id := b.nextId, kind := kind, pivot := pivot }]
  cleared : ∀ kind, (b.step (.clear kind)).2.marks =
    b.marks.filter (fun m => decide (m.kind ≠ kind))
  tagged : ∀ id tags, (b.step (.tag id tags)).2.marks =
    b.marks.map (fun m => if m.id = id then m.tagged tags else m)
  unmoved : ∀ id tags, (b.step (.tag id tags)).2.marks.map (fun m => (m.id, m.kind)) =
    b.marks.map (fun m => (m.id, m.kind))
  saved_eq : ∀ guideId, b.hasDownloaded guideId = savedAfter steps guideId
  notifyCount_eq : b.notifyCount =
    steps.countP BoardStep.isNotice + steps.countP BoardStep.isEditedSession
  replies : ∀ s, (b.step s).1 = s.told (steps.flatMap BoardStep.edits) (savedAfter steps)

/-- Whatever is done to a new board, in sessions and outside, the marks on it are those that its
journal tells, each creation has been answered with its place among all creations, and the drawing
side has been told once for each notice and for each session with an edit in it. -/
theorem told_by_journal (steps : List (BoardStep α)) : ToldBy steps (run {} steps) := by
  obtain ⟨hreads, hcount⟩ := reads_run steps
  have hordered := hreads.ordered
  have htagged (id : MarkId) (tags : MarkTags) : ((run {} steps).step (.tag id tags)).2.marks =
      (run {} steps).marks.map (fun m => if m.id = id then m.tagged tags else m) :=
    hordered.marks_tagMark id tags
  refine
    { keyed := ?_
      found := hordered.mark?_eq
      marks_eq := hreads.marks_eq
      nextId_eq := hreads.nextId_eq
      increasing := hordered.increasing
      created := hordered.marks_createMark
      cleared := fun kind => marks_clearGroup kind _
      tagged := htagged
      unmoved := ?_
      saved_eq := hreads.saved_eq
      notifyCount_eq := hcount
      replies := reply_step hreads }
  · intro e he
    have hid : e.2.id = e.1 := hordered.keyed e he
    have hmem : e.2 ∈ (run {} steps).marks := List.mem_map_of_mem he
    exact ⟨hid, hid ▸ hordered.below e.2 hmem⟩
  · intro id tags
    rw [htagged, List.map_map]
    refine List.map_congr_left (fun m _ => ?_)
    dsimp only [Function.comp_apply]
    split <;> simp

/-- A mark is cleared and its id is not given out again; a session that only looks is not told of. -/
example :
    let steps : List (BoardStep Nat) :=
      [.session [.create .guide ⟨1, 1⟩ { guideId := some "a" }, .create .cluster ⟨2, 2⟩ {}],
        .session [.ask (.markIds .guide)], .clear .guide, .create .guide ⟨3, 3⟩,
        .tag 2 { guideId := some "b" }]
    (run {} steps).marks.map (fun m => (m.id, m.guideId)) = [(1, ""), (2, "b")] ∧
      (run {} steps).notifyCount = 1 := by
  decide

end MarkBoard

end GuideLayer
