import GuideLayer.Proofs.Mirror
import GuideLayer.Proofs.Validation

/-!
The map and the gallery show the same guides. Both go through the spots of the
layer in their order, each with a test of its own: a spot that is no cluster
gets a mark, a spot that counts one guide gets a card. They differ on a spot
that counts none. It has a mark, which can be tapped, and no card.
-/

namespace GuideLayer

open LawfulMarkStore

variable {α : Type}

namespace Url

/-- Whether there is a link is up to the base alone. -/
theorem isSome_link_iff [HostNames] (base : String) (entries entries' : List String) :
    (link base entries).toOption.isSome = (link base entries').toOption.isSome := by
  unfold link
  cases read base with
  | error fault => rfl
  | ok url =>
      dsimp only
      cases url.path <;> rfl

end Url

namespace GallerySettings

theorem exists_linkTo_eq_ok [HostNames] {g : GallerySettings}
    (h : (Url.link g.catalog []).toOption.isSome) (shown : Nat) (guideId : String) : ∃ url, g.linkTo shown guideId = .ok url := by
  rw [Url.isSome_link_iff g.catalog [] (g.entries guideId)] at h
  unfold linkTo
  cases hlink : Url.link g.catalog (g.entries guideId) with
  | error e =>
      rw [hlink] at h
      cases h
  | ok url => exact ⟨_, rfl⟩

end GallerySettings

namespace Spot

theorem isSingle_iff (s : Spot α) : s.isSingle = true ↔ s.sights + s.outdoor = 1 := by
  unfold isSingle total countLimit
  rw [decide_eq_true_iff]
  omega

/-- The two tests for a city agree on spots that are no clusters. -/
theorem category_eq_city_iff {s : Spot α} (h : s.sights + s.outdoor ≤ 1) :
    s.category = .city ↔ s.sights = 1 := by
  unfold category
  split
  · refine iff_of_true rfl ?_
    omega
  · refine iff_of_false nofun ?_
    omega

end Spot

namespace Spot

/-- The card of a spot that counts one guide, with the link to the guide. -/
def card (s : Spot α) (url : Url) (downloaded : Bool) : Card α :=
  { guideId := s.guide.id
    url
    imageUrl := s.guide.imageUrl
    title := s.guide.name
    downloaded
    details :=
      if s.sights = 1 then .city s.guide.bookmarks s.guide.hasTrack
      else .outdoor s.guide.duration s.guide.distance s.guide.ascent s.guide.tag }

theorem isCity_details_card (s : Spot α) (url : Url) (downloaded : Bool) :
    (s.card url downloaded).details.isCity = decide (s.sights = 1) := by
  unfold card CardDetails.isCity
  by_cases h : s.sights = 1 <;> simp [h]

end Spot

namespace Gallery

variable [HostNames]

/-- With a link to every guide, every spot that counts one guide has its card, and no other has. -/
theorem build_eq_map {g : GallerySettings} {shown : Nat} {linkOf : String → Url}
    (h : ∀ guideId, g.linkTo shown guideId = .ok (linkOf guideId)) (downloaded : String → Bool)
    (spots : List (Spot α)) :
    build g shown downloaded spots =
      (spots.filter (fun s => decide (s.sights + s.outdoor = 1))).map
        (fun s => s.card (linkOf s.guide.id) (downloaded s.guide.id)) := by
  unfold build
  rw [← List.filterMap_eq_map, ← List.filterMap_eq_filter, List.filterMap_filterMap]
  refine List.filterMap_congr fun s _ => ?_
  unfold card?
  by_cases hsingle : s.sights + s.outdoor = 1
  · have hguard : Option.guard (fun s : Spot α => decide (s.sights + s.outdoor = 1)) s = some s := by
      simp [Option.guard, hsingle]
    rw [if_pos ((Spot.isSingle_iff s).mpr hsingle), h, hguard]
    rfl
  · have hguard : Option.guard (fun s : Spot α => decide (s.sights + s.outdoor = 1)) s = none := by
      simp [Option.guard, hsingle]
    rw [if_neg (mt (Spot.isSingle_iff s).mp hsingle), hguard]
    rfl

theorem map_build {g : GallerySettings} (h : (Url.link g.catalog []).toOption.isSome)
    (shown : Nat) (downloaded : String → Bool) (spots : List (Spot α)) :
    (build g shown downloaded spots).map (fun c => (c.guideId, c.details.isCity)) =
      (spots.filter (fun s => decide (s.sights + s.outdoor = 1))).map
        (fun s => (s.guide.id, decide (s.sights = 1))) := by
  choose linkOf hlink using GallerySettings.exists_linkTo_eq_ok h shown
  rw [build_eq_map hlink, List.map_map]
  refine List.map_congr_left fun s _ => ?_
  exact congrArg (Prod.mk s.guide.id) (s.isCity_details_card _ _)

end Gallery

namespace MarkBoard

/-- On the board all marks are kept. -/
theorem keeps_eq (spots : List (Spot α)) {d : Drawing (MarkBoard α)}
    (h : d.session.store.Ordered) : d.keeps spots = List.replicate spots.length true := by
  induction spots generalizing d with
  | nil => rfl
  | cons s spots ih =>
      have hs : LawfulMarkStore.Sound d.session.store := h
      have hmake : (d.make s).1.isSome = true := by
        unfold Drawing.make
        split <;> rw [create_eq] <;> rfl
      have hordered : (d.addSpot s).session.store.Ordered := by
        rw [Drawing.session_addSpot]
        exact Drawing.sound_make hs s
      rw [Drawing.keeps, hmake, ih hordered, List.length_cons, List.replicate_succ]

end MarkBoard

namespace Spot

/-- Spots that are no clusters have a mark each, in their order. -/
theorem map_guides_faces {β : Type} {f : Mark α → β} {g : Spot α → β}
    (h : ∀ (s : Spot α) (index : Nat) (downloaded : Bool), s.sights + s.outdoor ≤ 1 →
      f (s.face index downloaded) = g s)
    (n : Nat) (downloaded : String → Bool) (spots : List (Spot α)) :
    ((faces n downloaded (List.replicate spots.length true) spots).filter
        (fun m => decide (m.kind = .guide))).map f =
      (spots.filter (fun s => decide (s.sights + s.outdoor ≤ 1))).map g := by
  induction spots generalizing n with
  | nil => simp
  | cons s spots ih =>
      rw [List.length_cons, List.replicate_succ, faces_cons, if_pos rfl, List.singleton_append]
      by_cases hmany : 1 < s.sights + s.outdoor
      · have hkind : (s.face (n + 1) (downloaded s.guide.id)).kind = .cluster := by
          rw [face, if_pos hmany]
        rw [List.filter_cons_of_neg (by simp [hkind]), List.filter_cons_of_neg (by simpa using hmany),
          ih]
      · have hkind : (s.face (n + 1) (downloaded s.guide.id)).kind = .guide := by
          rw [face, if_neg hmany]
        have hlone := Nat.le_of_not_lt hmany
        rw [List.filter_cons_of_pos (by simp [hkind]),
          List.filter_cons_of_pos (by simpa using hlone), List.map_cons, ih, List.map_cons,
          h s _ _ hlone]

theorem length_faces (n : Nat) (downloaded : String → Bool) (spots : List (Spot α)) :
    (faces n downloaded (List.replicate spots.length true) spots).length = spots.length := by
  induction spots generalizing n with
  | nil => simp
  | cons s spots ih =>
      rw [List.length_cons, List.replicate_succ, faces_cons]
      simp [ih]

end Spot

namespace Layer

/-- The spots of the layer that are no clusters. -/
def loners (l : Layer (MarkBoard α) α) : List (Spot α) :=
  l.spots.filter (fun s => decide (s.sights + s.outdoor ≤ 1))

/-- The guides on the map, in order, are those of the spots that are no clusters. -/
def Mapped (l : Layer (MarkBoard α) α) : Prop :=
  (l.store.marksOf .guide).map (fun m => (m.guideId, m.category)) =
    l.loners.map (fun s => (s.guide.id, some s.category))

theorem filter_spotMarks_guide (b : MarkBoard α) :
    (spotMarks b).filter (fun m => decide (m.kind = .guide)) = b.marksOf .guide := by
  unfold spotMarks
  rw [List.filter_filter]
  refine List.filter_congr fun m _ => ?_
  cases m.kind <;> rfl

/-- The marks of clusters and of guides are those of the spots, none of which is left out. -/
def Mirrored (l : Layer (MarkBoard α) α) : Prop :=
  ∃ n downloaded, (spotMarks l.store).map Mark.face =
    Spot.faces n downloaded (List.replicate l.spots.length true) l.spots

/-- What is read off the marks of guides can be read off the spots. -/
theorem Mirrored.map_guides {β : Type} {f : Mark α → β} {g : Spot α → β}
    {l : Layer (MarkBoard α) α} (h : l.Mirrored) (hface : ∀ m : Mark α, f m.face = f m)
    (hspot : ∀ (s : Spot α) (index : Nat) (downloaded : Bool), s.sights + s.outdoor ≤ 1 →
      f (s.face index downloaded) = g s) :
    (l.store.marksOf .guide).map f = l.loners.map g := by
  obtain ⟨n, downloaded, hfaces⟩ := h
  unfold loners
  rw [← Spot.map_guides_faces hspot n downloaded, ← hfaces, ← filter_spotMarks_guide,
    List.filter_map, List.map_map]
  exact List.map_congr_left (fun m _ => (hface m).symm)

theorem Mirrored.mapped {l : Layer (MarkBoard α) α} (h : l.Mirrored) : l.Mapped := by
  refine h.map_guides (fun _ => rfl) (fun s index downloaded hlone => ?_)
  rw [Spot.face, if_neg (Nat.not_lt.mpr hlone)]
  rfl

theorem Mirrored.length_spotMarks {l : Layer (MarkBoard α) α} (h : l.Mirrored) :
    (spotMarks l.store).length = l.spots.length := by
  obtain ⟨n, downloaded, hfaces⟩ := h
  have hlength := congrArg List.length hfaces
  rwa [List.length_map, Spot.length_faces] at hlength

/-- The guides on the map and the cards of the gallery, in their order. A spot that is no cluster
has a mark, and it has a card unless it counts no guide at all. -/
structure Carded [HostNames] (l : Layer (MarkBoard α) α) : Prop where
  mapped : l.Mapped
  cards :
    l.gallery.map (fun c => (c.guideId, c.details.isCity)) =
      (((l.store.marksOf .guide).zip l.loners).filter
        (fun p => decide (0 < p.2.sights + p.2.outdoor))).map
          (fun p => (p.1.guideId, decide (p.1.category = some .city)))
  same : (∀ s ∈ l.spots, 0 < s.sights + s.outdoor) →
    l.gallery.map (fun c => (c.guideId, c.details.isCity)) =
      (l.store.marksOf .guide).map (fun m => (m.guideId, decide (m.category = some .city)))
  carded : ∀ m ∈ l.store.marksOf .guide,
    m.guideId ∈ l.gallery.map Card.guideId ∨
      ∃ s ∈ l.spots, s.guide.id = m.guideId ∧ s.sights = 0 ∧ s.outdoor = 0

theorem Mapped.length_eq {l : Layer (MarkBoard α) α} (h : l.Mapped) :
    (l.store.marksOf .guide).length = l.loners.length := by
  have hlength := congrArg List.length h
  rwa [List.length_map, List.length_map] at hlength

/-- A mark and the spot at its place tell of the same guide. -/
theorem Mapped.of_mem_zip {l : Layer (MarkBoard α) α} (h : l.Mapped) {m : Mark α} {s : Spot α}
    (hp : (m, s) ∈ (l.store.marksOf .guide).zip l.loners) :
    m.guideId = s.guide.id ∧ m.category = some s.category := by
  have hpairs : List.Forall₂
      (fun (m : Mark α) (s : Spot α) => (m.guideId, m.category) = (s.guide.id, some s.category))
      (l.store.marksOf .guide) l.loners := by
    rw [← List.forall₂_map_left_iff (R := fun q (s : Spot α) => q = (s.guide.id, some s.category)),
      ← List.forall₂_map_right_iff (R := Eq), List.forall₂_eq_eq_eq]
    exact h
  exact Prod.mk.inj ((List.forall₂_iff_zip.mp hpairs).2 hp)

theorem Mapped.map_fst_zip {l : Layer (MarkBoard α) α} (h : l.Mapped) :
    ((l.store.marksOf .guide).zip l.loners).map Prod.fst = l.store.marksOf .guide :=
  List.map_fst_zip (Nat.le_of_eq h.length_eq)

theorem Mapped.map_snd_zip {l : Layer (MarkBoard α) α} (h : l.Mapped) :
    ((l.store.marksOf .guide).zip l.loners).map Prod.snd = l.loners :=
  List.map_snd_zip (Nat.le_of_eq h.length_eq.symm)

/-- Spots that count one guide are those spots without a cluster that count any. -/
theorem filter_single (l : Layer (MarkBoard α) α) :
    l.spots.filter (fun s => decide (s.sights + s.outdoor = 1)) =
      l.loners.filter (fun s => decide (0 < s.sights + s.outdoor)) := by
  unfold loners
  rw [List.filter_filter]
  refine List.filter_congr fun s _ => ?_
  rw [← Bool.decide_and, decide_eq_decide]
  omega

theorem Mapped.cards [HostNames] {l : Layer (MarkBoard α) α} (h : l.Mapped)
    (hlink : (Url.link l.settings.gallery.catalog []).toOption.isSome) :
    l.gallery.map (fun c => (c.guideId, c.details.isCity)) =
      (((l.store.marksOf .guide).zip l.loners).filter
        (fun p => decide (0 < p.2.sights + p.2.outdoor))).map
          (fun p => (p.1.guideId, decide (p.1.category = some .city))) := by
  unfold gallery
  rw [Gallery.map_build hlink, filter_single]
  nth_rewrite 1 [← h.map_snd_zip]
  rw [List.filter_map, List.map_map]
  refine List.map_congr_left fun p hp => ?_
  have hp := List.mem_of_mem_filter hp
  obtain ⟨hid, hcategory⟩ := h.of_mem_zip hp
  have hone : p.2.sights + p.2.outdoor ≤ 1 :=
    of_decide_eq_true (List.mem_filter.mp (List.of_mem_zip hp).2).2
  simp [hid, hcategory, Spot.category_eq_city_iff hone]

theorem Mapped.carded [HostNames] {l : Layer (MarkBoard α) α} (h : l.Mapped)
    (hlink : (Url.link l.settings.gallery.catalog []).toOption.isSome) : l.Carded := by
  have hcards := h.cards hlink
  refine ⟨h, hcards, ?_, ?_⟩
  · intro hcount
    have hall : ((l.store.marksOf .guide).zip l.loners).filter
        (fun p => decide (0 < p.2.sights + p.2.outdoor)) =
          (l.store.marksOf .guide).zip l.loners := by
      rw [List.filter_eq_self]
      intro p hp
      exact decide_eq_true (hcount p.2 (List.mem_of_mem_filter (List.of_mem_zip hp).2))
    rw [hcards, hall]
    conv_rhs => rw [← h.map_fst_zip, List.map_map]
    rfl
  · intro m hm
    rw [← h.map_fst_zip] at hm
    obtain ⟨⟨m, s⟩, hp, rfl⟩ := List.mem_map.mp hm
    have hspot := List.mem_of_mem_filter (List.of_mem_zip hp).2
    by_cases hcount : 0 < s.sights + s.outdoor
    · -- The pair of the mark and its spot is where its card comes from.
      have hcard : (m.guideId, decide (m.category = some .city)) ∈
          l.gallery.map (fun c => (c.guideId, c.details.isCity)) := by
        rw [hcards]
        exact List.mem_map_of_mem (List.mem_filter.mpr ⟨hp, decide_eq_true hcount⟩)
      obtain ⟨c, hc, heq⟩ := List.mem_map.mp hcard
      exact .inl (List.mem_map.mpr ⟨c, hc, congrArg Prod.fst heq⟩)
    · refine .inr ⟨s, hspot, (h.of_mem_zip hp).1.symm, ?_⟩
      omega

variable [Scalar α] [Trig α]

/-- What a step leaves on the map is made of the spots that it leaves, or nothing happened to
either. -/
theorem mirrored_or_kept {l : Layer (MarkBoard α) α} (hs : l.store.Ordered) (s : LayerStep α) :
    (l.step s).Mirrored ∨
      spotMarks (l.step s).store = spotMarks l.store ∧ (l.step s).spots = l.spots := by
  have hs' : Sound l.store := hs
  have htable := transition_step l s
  by_cases hsucceeds : ∃ spots, l.Succeeds s spots
  · -- All marks are made anew, of the spots that come, and the board keeps them all.
    obtain ⟨spots, hsucceeds⟩ := hsucceeds
    obtain ⟨generation, hacc, hstep⟩ := step_of_succeeds hsucceeds
    have hfaces := (faces_receive hs' hacc spots).2.1
    have hspots : (l.step s).spots = spots := htable.spots_of_succeeds hsucceeds
    rw [← hstep, mirror, MarkBoard.keeps_eq spots (sound_blank hs')] at hfaces
    refine .inl ⟨l.lastIndex, fun g => l.store.hasDownloaded g, ?_⟩
    rw [hspots]
    exact hfaces
  · have hno := not_exists.mp hsucceeds
    have hmarks := (spares_step hs' hno).marks
    by_cases hcloses : l.Closes (l.step s)
    · have hspots : (l.step s).spots = [] := htable.spots_of_closes hcloses
      rw [if_pos hcloses] at hmarks
      refine .inl ⟨0, fun _ => false, ?_⟩
      rw [hmarks, hspots, Spot.faces_nil]
      rfl
    · rw [if_neg hcloses] at hmarks
      exact .inr ⟨hmarks, htable.spots_of_open hcloses hno⟩

theorem mirrored_step {l : Layer (MarkBoard α) α} (hs : l.store.Ordered) (h : l.Mirrored)
    (s : LayerStep α) : (l.step s).Mirrored := by
  rcases mirrored_or_kept hs s with hnew | ⟨hmarks, hspots⟩
  · exact hnew
  · unfold Mirrored
    rw [hmarks, hspots]
    exact h

theorem mapped_step {l : Layer (MarkBoard α) α} (hs : l.store.Ordered) (h : l.Mapped)
    (s : LayerStep α) : (l.step s).Mapped := by
  rcases mirrored_or_kept hs s with hnew | ⟨hmarks, hspots⟩
  · exact hnew.mapped
  · unfold Mapped loners
    rw [← filter_spotMarks_guide, hmarks, hspots, filter_spotMarks_guide]
    exact h

theorem catalog_run (l : Layer (MarkBoard α) α) (steps : List (LayerStep α)) :
    (l.run steps).settings.gallery.catalog = l.settings.gallery.catalog := by
  obtain ⟨locale, hsettings⟩ := settings_run l steps
  rw [hsettings]

/-- On a board of its own and with a catalog that can be linked to, a layer shows the same guides on
the map and in the gallery, up to those that are counted as none. -/
theorem carded_run [HostNames] {l : Layer (MarkBoard α) α} (hl : l.Fresh) (hnone : l.store.marks = [])
    (hvalid : l.settings.validate = .ok ()) (steps : List (LayerStep α)) :
    (l.run steps).Carded := by
  have hs : Sound l.store := MarkBoard.Ordered.of_empty hnone
  have hmapped : (l.run steps).Mapped := by
    induction steps using List.reverseRecOn with
    | nil =>
        have hspots : l.spots = [] := by rw [hl]
        change l.Mapped
        simp [Mapped, loners, MarkBoard.marksOf, hnone, hspots]
    | append_singleton steps s ih =>
        rw [run_concat]
        exact mapped_step (sound_run hs steps) ih s
  apply hmapped.carded
  rw [catalog_run]
  exact ((Settings.validate_eq_ok_iff l.settings).mp hvalid).2.2.2

/-- A guide, and a place that counts none but has a name. The place is tapped. -/
def emptyPlace : List (LayerStep Float) :=
  [.setEnabled true, .updateViewport tile,
    .answer ⟨1, .ok
      [{ point := ⟨1, 1⟩, sights := 1, guide := { id := "a", distance := 0, duration := 0 } },
        { point := ⟨2, 2⟩, guide := { id := "z", distance := 0, duration := 0 } }]⟩,
    .tapGuide 1]

section

attribute [local instance] HostNames.ascii

theorem carded_emptyPlace :
    started.Fresh ∧ started.store.marks = [] ∧ started.settings.validate = .ok () ∧
      (started.run emptyPlace).Carded :=
  ⟨fresh_started, rfl, Settings.validate_standard,
    carded_run fresh_started rfl Settings.validate_standard emptyPlace⟩

/-- The place has a mark and becomes active, and it has no card. -/
theorem active_without_card :
    started.Fresh ∧ started.store.marks = [] ∧ started.settings.validate = .ok () ∧
      ((started.run emptyPlace).store.marksOf .guide).map Mark.guideId = ["a", "z"] ∧
      (started.run emptyPlace).active = some "z" ∧
      (started.run emptyPlace).gallery.map Card.guideId = ["a"] := by
  refine ⟨fresh_started, rfl, Settings.validate_standard, ?_, ?_, ?_⟩ <;> decide +kernel

end

end Layer

end GuideLayer
