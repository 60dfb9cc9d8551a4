import GuideLayer.Proofs.Highlight
import GuideLayer.Proofs.Journal

/-!
Telling the layer which guide is to be active. It looks for the guide on the
map unless it already has the one it is told of, and what it finds settles
both the active guide and the highlight.

Whether it has that guide already is where the two statements of this module
have their exceptions. No guide is told from a guide without an id there, so
that such a guide, once tapped, stays active when none is to be; and of a guide
that is not on the map nothing is kept, so that it is looked for every time.
-/

namespace GuideLayer

variable {α : Type}

namespace Layer

/-! ### What is looked for, and what is found -/

/-- The mark of the guide that is to be active. The empty id is no guide's here. -/
def named? (guideId : String) (l : Layer (MarkBoard α) α) : Option (Mark α) :=
  if guideId = "" then none
  else (l.store.marksOf .guide).find? (fun m => m.guideId == guideId)

/-- A guide with an id is on the map, on a mark of its own. -/
def Offers (guideId : String) (l : Layer (MarkBoard α) α) : Prop :=
  guideId ≠ "" ∧ ∃ m ∈ l.store.marksOf .guide, m.guideId = guideId

theorem isSome_named?_iff (guideId : String) (l : Layer (MarkBoard α) α) :
    (l.named? guideId).isSome ↔ l.Offers guideId := by
  unfold named? Offers
  by_cases h : guideId = "" <;> simp [h, List.find?_isSome]

theorem mem_of_named? {guideId : String} {l : Layer (MarkBoard α) α} {m : Mark α}
    (h : l.named? guideId = some m) : m ∈ l.store.marksOf .guide ∧ m.guideId = guideId := by
  unfold named? at h
  split at h
  · cases h
  · exact ⟨List.mem_of_find?_eq_some h, by simpa using List.find?_some h⟩

theorem setActive_of_same {guideId : String} {l : Layer (MarkBoard α) α}
    (h : l.active.getD "" = guideId) : l.setActive guideId = l := if_pos h

theorem setActive_of_other {guideId : String} {l : Layer (MarkBoard α) α} (hs : l.store.Ordered)
    (h : l.active.getD "" ≠ guideId) :
    l.setActive guideId = (l.named? guideId).elim l.deselect (fun m => l.select m) := by
  let told : Layer (MarkBoard α) α :=
    { l with active := if guideId = "" then none else some guideId }
  have hlooks : l.setActive guideId = told.highlightActive := if_neg h
  have hfinds : told.activeMark? = l.named? guideId := by
    unfold named?
    by_cases hempty : guideId = ""
    · simp [told, activeMark?, hempty]
    · rw [if_neg hempty, ← guideMark?_eq_find? hs]
      simp [told, activeMark?, hempty]
  rw [hlooks, highlightActive_eq, hfinds]
  cases l.named? guideId <;> rfl

/-! ### Doing as told -/

/-- What it is to do as told: the guide is active and the only highlight is under a mark of it, or
there is no such guide on the map, and then none is active and there is no highlight. -/
structure Obeys (guideId : String) (l l' : Layer (MarkBoard α) α) : Prop where
  offered : l.Offers guideId → l'.active = some guideId ∧
    ∃ h m, l'.store.marksOf .selection = [h] ∧ m ∈ l.store.marksOf .guide ∧
      m.guideId = guideId ∧ h.pivot = m.pivot
  refused : ¬l.Offers guideId → l'.active = none ∧ l'.store.marksOf .selection = []

theorem obeys_deselect {guideId : String} {l : Layer (MarkBoard α) α} (h : ¬l.Offers guideId) :
    Obeys guideId l l.deselect where
  offered hoffers := absurd hoffers h
  refused _ := ⟨rfl, (highlighted_deselect l).dark rfl⟩

theorem obeys_select {guideId : String} {l : Layer (MarkBoard α) α} (hs : l.store.Ordered)
    (h : l.Offers guideId) {m : Mark α} (hm : m ∈ l.store.marksOf .guide)
    (hid : m.guideId = guideId) : Obeys guideId l (l.select m) where
  offered _ := by
    have hlit := (highlighted_select hs hm).lit m.guideId rfl
    rw [marksOf_guide_select hs, hid] at hlit
    exact ⟨congrArg some hid, hlit⟩
  refused hoffers := absurd h hoffers

/-- A layer that has the guide already does as told by doing nothing, unless its guide is one
without an id. -/
theorem Highlighted.obeys_iff {guideId : String} {l : Layer (MarkBoard α) α} (h : l.Highlighted)
    (hsame : l.active.getD "" = guideId) : Obeys guideId l l ↔ l.active ≠ some "" := by
  cases hactive : l.active with
  | none =>
      rw [hactive] at hsame
      refine iff_of_true ⟨fun hoffers => ?_, fun _ => ⟨hactive, h.dark hactive⟩⟩ nofun
      exact absurd hsame.symm hoffers.1
  | some guideId' =>
      rw [hactive] at hsame
      have hid : guideId' = guideId := hsame
      rw [hid] at hactive ⊢
      by_cases hempty : guideId = ""
      · rw [hempty]
        refine iff_of_false (fun hobeys => ?_) (fun hne => hne rfl)
        have hnone := (hobeys.refused (fun hoffers => hoffers.1 rfl)).1
        rw [hactive] at hnone
        cases hnone
      · obtain ⟨-, m, -, hm, hmark, -⟩ := h.lit guideId hactive
        refine iff_of_true ⟨fun _ => ⟨hactive, h.lit guideId hactive⟩, fun hnot => ?_⟩ ?_
        · exact absurd ⟨hempty, m, hm, hmark⟩ hnot
        · exact fun heq => hempty (Option.some.inj heq)

theorem Highlighted.obeys_setActive_iff {l : Layer (MarkBoard α) α} (h : l.Highlighted)
    (hs : l.store.Ordered) (guideId : String) :
    Obeys guideId l (l.setActive guideId) ↔ ¬(guideId = "" ∧ l.active = some "") := by
  by_cases hsame : l.active.getD "" = guideId
  · rw [setActive_of_same hsame, h.obeys_iff hsame]
    refine not_congr ⟨fun hactive => ⟨?_, hactive⟩, And.right⟩
    rw [← hsame, hactive]
    rfl
  · have hdiffers : ¬(guideId = "" ∧ l.active = some "") := by
      rintro ⟨rfl, hactive⟩
      rw [hactive] at hsame
      exact hsame rfl
    refine iff_of_true ?_ hdiffers
    rw [setActive_of_other hs hsame]
    cases hfound : l.named? guideId with
    | none =>
        refine obeys_deselect (fun hoffers => ?_)
        rw [← isSome_named?_iff, hfound] at hoffers
        cases hoffers
    | some m =>
        obtain ⟨hm, hid⟩ := mem_of_named? hfound
        refine obeys_select hs ?_ hm hid
        rw [← isSome_named?_iff, hfound]
        rfl

/-! ### Being told twice -/

theorem marksOf_guide_deselect (l : Layer (MarkBoard α) α) :
    l.deselect.store.marksOf .guide = l.store.marksOf .guide :=
  MarkBoard.marksOf_guide_clearGroup l.store

theorem ordered_deselect {l : Layer (MarkBoard α) α} (hs : l.store.Ordered) :
    l.deselect.store.Ordered := by
  have hcleared := hs.clearGroup .selection
  exact ⟨hcleared.keyed, hcleared.below⟩

/-- The highlight is taken away only once, but the drawing side is told each time. -/
theorem deselect_deselect (l : Layer (MarkBoard α) α) :
    l.deselect.deselect = { l.deselect with store := l.deselect.store.notifyChanges } := by
  have hcleared : (l.store.clearGroup .selection).clearGroup .selection =
      l.store.clearGroup .selection := by
    unfold MarkBoard.clearGroup
    rw [KeyedMap.retain_retain_self]
  have hstore : l.deselect.deselect.store =
      ((l.store.clearGroup .selection).clearGroup .selection).notifyChanges.notifyChanges := rfl
  rw [hcleared] at hstore
  exact congrArg (fun b => ({ l.deselect with store := b } : Layer (MarkBoard α) α)) hstore

theorem notifyChanges_ne (b : MarkBoard α) : b.notifyChanges ≠ b := by
  intro h
  exact Nat.succ_ne_self _ (congrArg MarkBoard.notifyCount h)

/-- Once the guide has been found, or none was to be active, the layer has what it is told of. -/
theorem setActive_setActive_of_settled {guideId : String} {l : Layer (MarkBoard α) α}
    (hs : l.store.Ordered)
    (h : l.active.getD "" = guideId ∨ guideId = "" ∨ l.Offers guideId) :
    (l.setActive guideId).setActive guideId = l.setActive guideId := by
  by_cases hsame : l.active.getD "" = guideId
  · rw [setActive_of_same hsame, setActive_of_same hsame]
  -- What is active after the first time is what is compared with the second time.
  refine setActive_of_same ?_
  rw [setActive_of_other hs hsame]
  cases hfound : l.named? guideId with
  | some m =>
      obtain ⟨-, hid⟩ := mem_of_named? hfound
      exact hid
  | none =>
      rcases h with h | rfl | h
      · exact absurd h hsame
      · rfl
      · rw [← isSome_named?_iff, hfound] at h
        cases h

/-- A guide that is not on the map is looked for again, and the drawing side is told again. -/
theorem setActive_setActive_of_missing {guideId : String} {l : Layer (MarkBoard α) α}
    (hs : l.store.Ordered) (hother : l.active.getD "" ≠ guideId) (hempty : guideId ≠ "")
    (hmissing : ¬l.Offers guideId) :
    (l.setActive guideId).setActive guideId =
      { l.setActive guideId with store := (l.setActive guideId).store.notifyChanges } := by
  -- Taking the highlight away brings no guide onto the map.
  have hnone (l' : Layer (MarkBoard α) α)
      (hguides : l'.store.marksOf .guide = l.store.marksOf .guide) : l'.named? guideId = none := by
    rw [← Option.not_isSome_iff_eq_none, isSome_named?_iff, Offers, hguides]
    exact hmissing
  have honce : l.setActive guideId = l.deselect := by
    rw [setActive_of_other hs hother, hnone l rfl]
    rfl
  have hagain : l.deselect.setActive guideId = l.deselect.deselect := by
    rw [setActive_of_other (ordered_deselect hs) hempty.symm,
      hnone l.deselect (marksOf_guide_deselect l)]
    rfl
  rw [honce, hagain, deselect_deselect]

/-! ### Runs -/

theorem highlighted_fresh {l : Layer (MarkBoard α) α} (hl : l.Fresh) (hnone : l.store.marks = []) :
    l.Highlighted := by
  have hactive : l.active = none := by rw [hl]
  constructor
  · simp [MarkBoard.marksOf, hnone]
  · simp [hactive]

variable [Scalar α] [Trig α]

theorem Highlighted.run {l : Layer (MarkBoard α) α} (h : l.Highlighted) (hs : l.store.Ordered)
    (steps : List (LayerStep α)) : (l.run steps).Highlighted := by
  have hsound : LawfulMarkStore.Sound l.store := hs
  induction steps using List.reverseRecOn with
  | nil => exact h
  | append_singleton steps s ih =>
      rw [run_concat]
      exact (repaint_step (l.run steps) s).highlighted (sound_run hsound steps) ih

/-- A layer that has the board for itself does as it is told, whatever guide that is and whatever
happened before, except in one case: told to have no guide active, it keeps one without an id. -/
theorem setActive_obeys_iff {l : Layer (MarkBoard α) α} (hl : l.Fresh) (hnone : l.store.marks = [])
    (steps : List (LayerStep α)) (guideId : String) :
    (Obeys guideId (l.run steps) ((l.run steps).setActive guideId) ↔
      ¬(guideId = "" ∧ (l.run steps).active = some "")) ∧
    ((l.run steps).active = some "" → (l.run steps).setActive "" = l.run steps) := by
  have hs := MarkBoard.Ordered.of_empty hnone
  have hsound : LawfulMarkStore.Sound l.store := hs
  have hlit := (highlighted_fresh hl hnone).run hs steps
  refine ⟨hlit.obeys_setActive_iff (sound_run hsound steps) guideId, fun hactive => ?_⟩
  refine setActive_of_same ?_
  rw [hactive]
  rfl

/-- A guide without an id comes and is tapped. -/
def tappedNameless : List (LayerStep Float) :=
  [.setEnabled true, .updateViewport tile,
    .answer ⟨1, .ok
      [{ point := ⟨1, 1⟩, sights := 1, guide := { id := "", distance := 0, duration := 0 } }]⟩,
    .tapGuide 0]

theorem active_tappedNameless : (started.run tappedNameless).active = some "" := by
  decide +kernel

theorem setActive_obeys_tappedNamesake :
    started.Fresh ∧ started.store.marks = [] ∧
      Obeys "" (started.run tappedNamesake) ((started.run tappedNamesake).setActive "") ∧
      ¬Obeys "" (started.run tappedNameless) ((started.run tappedNameless).setActive "") := by
  have hactive : (started.run tappedNamesake).active ≠ some "" := by decide +kernel
  refine ⟨fresh_started, rfl, ?_, ?_⟩
  · exact (setActive_obeys_iff fresh_started rfl tappedNamesake "").1.mpr (fun h => hactive h.2)
  · exact fun h => (setActive_obeys_iff fresh_started rfl tappedNameless "").1.mp h
      ⟨rfl, active_tappedNameless⟩

/-- It is not so that a layer always does as it is told. -/
theorem not_forall_setActive_obeys :
    ¬∀ (l : Layer (MarkBoard Float) Float) (steps : List (LayerStep Float)) (guideId : String),
      l.Fresh → l.store.marks = [] →
        Obeys guideId (l.run steps) ((l.run steps).setActive guideId) := by
  intro h
  have hobeys := h started tappedNameless "" fresh_started rfl
  have hnone := (hobeys.refused (fun hoffers => hoffers.1 rfl)).1
  rw [setActive_of_same (by rw [active_tappedNameless]; rfl), active_tappedNameless] at hnone
  cases hnone

/-- A layer that can come about over a board on which others have their marks too. -/
inductive OverBoard : Layer (MarkBoard α) α → Prop
  | fresh {l : Layer (MarkBoard α) α} : l.Fresh → l.store = {} → OverBoard l
  | step {l : Layer (MarkBoard α) α} (s : LayerStep α) : OverBoard l → OverBoard (l.step s)
  | edit {l : Layer (MarkBoard α) α} (s : BoardStep α) :
      OverBoard l → OverBoard { l with store := (l.store.step s).2 }
  | take {l : Layer (MarkBoard α) α} {newest : Bool} {r : Request α} {q : RequestQueue α} :
      OverBoard l → l.queue.pop? newest = some (r, q) → OverBoard { l with queue := q }

theorem OverBoard.ordered {l : Layer (MarkBoard α) α} (h : l.OverBoard) : l.store.Ordered := by
  induction h with
  | fresh _ hnew =>
      rw [hnew]
      exact MarkBoard.ordered_empty
  | @step l s _ ih =>
      have hsound : LawfulMarkStore.Sound l.store := ih
      exact sound_step hsound s
  | edit s _ ih => exact (MarkBoard.advances_step ih s).ordered
  | take _ _ ih => exact ih

theorem OverBoard.run {l : Layer (MarkBoard α) α} (h : l.OverBoard) (steps : List (LayerStep α)) :
    (l.run steps).OverBoard := by
  induction steps using List.reverseRecOn with
  | nil => exact h
  | append_singleton steps s ih =>
      rw [run_concat]
      exact ih.step s

/-- Told twice of the same guide, a layer does nothing the second time if it had that guide before,
if no guide was to be active, or if the guide is on the map. Otherwise, and only then, the drawing
side hears of it once more, and nothing else is different. -/
theorem setActive_twice_iff {l : Layer (MarkBoard α) α} (hl : l.OverBoard) (guideId : String) :
    ((l.setActive guideId).setActive guideId = l.setActive guideId ↔
      l.active.getD "" = guideId ∨ guideId = "" ∨ l.Offers guideId) ∧
    (¬(l.active.getD "" = guideId ∨ guideId = "" ∨ l.Offers guideId) →
      (l.setActive guideId).setActive guideId =
        { l.setActive guideId with store := (l.setActive guideId).store.notifyChanges }) := by
  have hmissing (h : ¬(l.active.getD "" = guideId ∨ guideId = "" ∨ l.Offers guideId)) :
      (l.setActive guideId).setActive guideId =
        { l.setActive guideId with store := (l.setActive guideId).store.notifyChanges } := by
    rw [not_or, not_or] at h
    exact setActive_setActive_of_missing hl.ordered h.1 h.2.1 h.2.2
  refine ⟨⟨fun hsame => ?_, setActive_setActive_of_settled hl.ordered⟩, hmissing⟩
  by_contra hnot
  rw [hmissing hnot] at hsame
  exact notifyChanges_ne _ (congrArg Layer.store hsame)

/-- A guide comes, and no other. -/
def oneGuide : List (LayerStep Float) :=
  [.setEnabled true, .updateViewport tile,
    .answer ⟨1, .ok
      [{ point := ⟨1, 1⟩, sights := 1, guide := { id := "a", distance := 0, duration := 0 } }]⟩]

theorem overBoard_oneGuide : (started.run oneGuide).OverBoard :=
  (OverBoard.fresh fresh_started rfl).run oneGuide

theorem active_oneGuide : (started.run oneGuide).active = none := by decide +kernel

theorem not_offers_oneGuide : ¬(started.run oneGuide).Offers "b" := by
  rw [← isSome_named?_iff]
  decide +kernel

theorem setActive_twice_oneGuide :
    (started.run oneGuide).OverBoard ∧
      ((started.run oneGuide).setActive "a").setActive "a" =
        (started.run oneGuide).setActive "a" ∧
      ((started.run oneGuide).setActive "b").setActive "b" ≠
        (started.run oneGuide).setActive "b" := by
  have hoffers : (started.run oneGuide).Offers "a" := by
    rw [← isSome_named?_iff]
    decide +kernel
  refine ⟨overBoard_oneGuide, ?_, ?_⟩
  · exact (setActive_twice_iff overBoard_oneGuide "a").1.mpr (.inr (.inr hoffers))
  · rw [Ne, (setActive_twice_iff overBoard_oneGuide "b").1, active_oneGuide]
    rintro (h | h | h)
    · exact absurd h (by decide)
    · exact absurd h (by decide)
    · exact not_offers_oneGuide h

/-- It is not so that telling a layer twice is always the same as telling it once. -/
theorem not_forall_setActive_twice :
    ¬∀ (l : Layer (MarkBoard Float) Float) (guideId : String), l.OverBoard →
      (l.setActive guideId).setActive guideId = l.setActive guideId := by
  intro h
  have hsame := h (started.run oneGuide) "b" overBoard_oneGuide
  have hother : (started.run oneGuide).active.getD "" ≠ "b" := by
    rw [active_oneGuide]
    decide
  rw [setActive_setActive_of_missing overBoard_oneGuide.ordered hother (by decide)
    not_offers_oneGuide] at hsame
  exact notifyChanges_ne _ (congrArg Layer.store hsame)

end Layer

end GuideLayer
