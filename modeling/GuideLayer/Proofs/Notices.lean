import GuideLayer.Proofs.Prehistory

/-!
What observers are told. A step that leads into another phase is told to the
observer of the phase. Besides, the observer of the gallery hears of answers
that settle what was asked and of guides that are tapped, and the renderer
hears of clusters that are tapped. Nothing else is told, and nothing that was
told is taken back.
-/

namespace GuideLayer

variable {σ α : Type}

namespace Observers

/-- What is told when the layer goes from one phase to another. -/
def phaseNews (o : Observers) (p q : Phase) : List (Notice α) :=
  if q = p then [] else o.phase.toList.map (.phase q)

def galleryNews (o : Observers) (reload : Bool) : List (Notice α) :=
  o.gallery.toList.map (.gallery reload)

@[simp] theorem phaseNews_self (o : Observers) (p : Phase) :
    (o.phaseNews p p : List (Notice α)) = [] := if_pos rfl

theorem phase_joined (o : Observers) {s : LayerStep α} (hs : ∀ label, s ≠ .observePhase label) :
    (o.joined s).phase = o.phase := by
  cases s with
  | observePhase label => exact absurd rfl (hs label)
  | _ => rfl

theorem gallery_joined (o : Observers) {s : LayerStep α}
    (hs : ∀ label, s ≠ .observeGallery label) : (o.joined s).gallery = o.gallery := by
  cases s with
  | observeGallery label => exact absurd rfl (hs label)
  | _ => rfl

theorem mem_galleryNews_iff (o : Observers) (reload reload' : Bool) (label : Nat) :
    (.gallery reload label : Notice α) ∈ o.galleryNews reload' ↔
      reload = reload' ∧ o.gallery = some label := by
  cases h : o.gallery <;> simp [galleryNews, h, eq_comm]

end Observers

namespace Layer

/-- A viewport that is reported does not move the phase. -/
theorem Transition.phase_updateViewport [Scalar α] [Trig α] {m m' : Layer Unit α} {c : Camera α}
    (h : Transition m (.updateViewport c) m') : m'.phase = m.phase := by
  cases h with
  | note | ignore | suppress => rfl
  | look => exact phase_request _

/-- Who listens, and what was told so far. -/
def audience (l : Layer σ α) : Observers × List (Notice α) := (l.observers, l.notices)

@[simp] theorem audience_tellPhase (p : Phase) (l : Layer σ α) :
    (tellPhase p l).audience =
      (l.audience.1, l.audience.2 ++ l.audience.1.phase.toList.map (.phase p)) := by
  unfold tellPhase
  split
  · rename_i label hlabel
    simp [audience, hlabel]
  · rename_i hnone
    simp [audience, hnone]

@[simp] theorem audience_tellGallery (reload : Bool) (l : Layer σ α) :
    (tellGallery reload l).audience =
      (l.audience.1, l.audience.2 ++ l.audience.1.galleryNews reload) := by
  unfold tellGallery Observers.galleryNews
  split
  · rename_i label hlabel
    simp [audience, hlabel]
  · rename_i hnone
    simp [audience, hnone]

@[simp] theorem audience_enter (p : Phase) (l : Layer σ α) :
    (l.enter p).audience =
      (l.audience.1, l.audience.2 ++ l.audience.1.phaseNews l.phase p) := by
  unfold enter Observers.phaseNews
  by_cases h : l.phase = p
  · rw [if_pos h, if_pos h.symm, List.append_nil]
  · rw [if_neg h, if_neg (Ne.symm h), audience_tellPhase]
    rfl

@[simp] theorem audience_drop (l : Layer σ α) : l.drop.audience = l.audience := by
  unfold drop
  split <;> rfl

@[simp] theorem audience_request [Scalar α] (l : Layer σ α) :
    l.request.audience = l.audience := by
  unfold request
  split <;> rfl

section Marks

variable [MarkStore σ α]

@[simp] theorem audience_highlightActive (l : Layer σ α) :
    l.highlightActive.audience = l.audience := by
  rw [highlightActive_eq]
  cases l.activeMark? <;> rfl

@[simp] theorem audience_redraw (l : Layer σ α) : l.redraw.audience = l.audience := by
  unfold redraw
  rw [audience_highlightActive]
  rfl

@[simp] theorem audience_clear (l : Layer σ α) : l.clear.audience = l.audience := by
  unfold clear
  rw [audience_redraw]
  rfl

theorem phase_redraw (l : Layer σ α) : l.redraw.phase = l.phase := by
  have hbare := congrArg Layer.phase (bare_redraw l)
  exact hbare

theorem phase_clear (l : Layer σ α) : l.clear.phase = l.phase := by
  have hbare := congrArg Layer.phase (bare_clear l)
  exact hbare

end Marks

/-! ### Taps -/

section Taps

variable [MarkStore σ α]

/-- The mark that a tap is for. -/
def tapped? (kind : MarkKind) (id : MarkId) (l : Layer σ α) : Option (Mark α) :=
  (MarkStore.mark? id l.store).filter (fun m => decide (m.kind = kind))

theorem tapGuide_eq (id : MarkId) (l : Layer σ α) :
    l.tapGuide id = (l.tapped? .guide id).elim l (fun m => tellGallery false (l.select m)) := by
  unfold tapGuide tapped?
  split
  · rename_i hnone
    rw [hnone]
    rfl
  · rename_i m hfound
    rw [hfound]
    rfl

/-- The layer when the renderer was told to zoom into a mark. -/
def zoomTo [Scalar α] [Trig α] (v : Viewport α) (m : Mark α) (l : Layer σ α) : Layer σ α :=
  { l with
    notices := l.notices ++ [.zoom l.settings.clusterZoom (v.toPixel m.pivot) true] }

theorem tapCluster_eq [Scalar α] [Trig α] (id : MarkId) (v : Viewport α) (l : Layer σ α) :
    l.tapCluster id v =
      (l.tapped? .cluster id).elim l
        (fun m => if l.observers.renderer then l.zoomTo v m else l) := by
  unfold tapCluster tapped?
  split
  · rename_i hnone
    rw [hnone]
    rfl
  · rename_i m hfound
    rw [hfound]
    rfl

end Taps

/-! ### What a step tells -/

/-- The answer settles what was asked: its guides are taken, or the layer gives up. -/
def Settles (l : Layer σ α) (a : Answer α) : Prop :=
  l.Accepts a.generation ∧
    (a.result.isOk = true ∨ l.settings.attempts ≤ l.failures + 1)

instance (l : Layer σ α) (a : Answer α) : Decidable (l.Settles a) :=
  inferInstanceAs (Decidable (l.Accepts a.generation ∧ _))

variable [MarkStore σ α]

/-- What a step tells besides the phase that it leads to. -/
def asides [Scalar α] [Trig α] (l : Layer σ α) : LayerStep α → List (Notice α)
  | .answer a => if l.Settles a then l.observers.galleryNews true else []
  | .tapGuide id => (l.tapped? .guide id).elim [] (fun _ => l.observers.galleryNews false)
  | .tapCluster id v =>
    (l.tapped? .cluster id).elim [] (fun m =>
      if l.observers.renderer then [.zoom l.settings.clusterZoom (v.toPixel m.pivot) true] else [])
  | .observePhase label => [.phase l.phase label]
  | .setEnabled _ | .reconnect | .updateViewport _ | .setActive _ | .setLocale _
  | .observeGallery _ | .attachRenderer => []

/-- What a step tells that leads from one layer to another. -/
def news [Scalar α] [Trig α] (l : Layer σ α) (s : LayerStep α) (l' : Layer σ α) :
    List (Notice α) :=
  l.observers.phaseNews l.phase l'.phase ++ l.asides s

theorem audience_receive (generation : Nat) (spots : List (Spot α)) (l : Layer σ α) :
    (l.receive generation spots).audience =
      (l.observers, l.notices ++
        (l.observers.phaseNews l.phase (l.receive generation spots).phase ++
          if l.Accepts generation then l.observers.galleryNews true else [])) := by
  by_cases hacc : l.Accepts generation
  · rw [if_pos hacc, receive, if_pos hacc, phase_tellGallery, phase_redraw, phase_enter,
      audience_tellGallery, audience_redraw, audience_enter, ← List.append_assoc]
    rfl
  · rw [if_neg hacc, receive, if_neg hacc, phase_drop, audience_drop, Observers.phaseNews_self,
      List.append_nil, List.append_nil]
    rfl

variable [Scalar α]

theorem audience_fail (generation : Nat) (l : Layer σ α) :
    (l.fail generation).audience =
      (l.observers, l.notices ++
        (l.observers.phaseNews l.phase (l.fail generation).phase ++
          if l.Accepts generation ∧ l.settings.attempts ≤ l.failures + 1 then
            l.observers.galleryNews true
          else [])) := by
  by_cases hacc : l.Accepts generation
  · let l₁ : Layer σ α := { l with
      stats := { l.stats with failures := l.stats.failures + 1 }
      failures := l.failures + 1 }
    by_cases hspent : l.settings.attempts ≤ l.failures + 1
    · have hfail : l.fail generation = tellGallery true (l₁.clear.enter .fatalNetworkError) := by
        simp only [fail, if_pos hacc]
        exact if_pos hspent
      rw [if_pos ⟨hacc, hspent⟩, hfail, phase_tellGallery, phase_enter, audience_tellGallery,
        audience_enter, audience_clear, phase_clear, ← List.append_assoc]
      rfl
    · let l₂ := l₁.enter .networkError
      let l₃ : Layer σ α := { l₂ with stats := { l₂.stats with retries := l₂.stats.retries + 1 } }
      have hfail : l.fail generation = l₃.request := by
        simp only [fail, if_pos hacc]
        exact if_neg hspent
      have hphase : l₃.phase = .networkError := phase_enter _ l₁
      have haudience : l₃.audience = l₂.audience := rfl
      rw [if_neg (fun h => hspent h.2), hfail, phase_request, hphase, audience_request, haudience,
        audience_enter, List.append_nil]
      rfl
  · rw [if_neg (fun h => hacc h.1), fail, if_neg hacc, phase_drop, audience_drop,
      Observers.phaseNews_self, List.append_nil, List.append_nil]
    rfl

theorem audience_handle (a : Answer α) (l : Layer σ α) :
    (l.handle a).audience =
      (l.observers, l.notices ++
        (l.observers.phaseNews l.phase (l.handle a).phase ++
          if l.Settles a then l.observers.galleryNews true else [])) := by
  obtain ⟨generation, result⟩ := a
  cases result with
  | ok spots =>
      have hsettles : l.Settles ⟨generation, .ok spots⟩ ↔ l.Accepts generation :=
        and_iff_left (.inl rfl)
      simp only [hsettles]
      exact audience_receive generation spots l
  | error e =>
      have hsettles : l.Settles ⟨generation, .error e⟩ ↔
          l.Accepts generation ∧ l.settings.attempts ≤ l.failures + 1 :=
        and_congr_right' (or_iff_right Bool.false_ne_true)
      simp only [hsettles]
      exact audience_fail generation l

theorem audience_setEnabled (on : Bool) (l : Layer σ α) :
    (l.setEnabled on).audience =
      (l.observers, l.notices ++ l.observers.phaseNews l.phase (l.setEnabled on).phase) := by
  by_cases hsame : on = l.phase.isEnabled
  · have hstays : l.setEnabled on = l := if_pos hsame
    rw [hstays, Observers.phaseNews_self, List.append_nil]
    rfl
  cases on with
  | true =>
      have hon : l.setEnabled true = (l.enter .enabled).request := if_neg hsame
      rw [hon, phase_request, phase_enter, audience_request, audience_enter]
      rfl
  | false =>
      have hoff : l.setEnabled false = { l.clear.enter .disabled with shown := [] } :=
        if_neg hsame
      have hphase : (l.setEnabled false).phase = .disabled := by
        rw [hoff]
        exact phase_enter .disabled l.clear
      have haudience : (l.setEnabled false).audience = (l.clear.enter .disabled).audience := by
        rw [hoff]
        rfl
      rw [hphase, haudience, audience_enter, audience_clear, phase_clear]
      rfl

omit [MarkStore σ α] in
theorem audience_reconnect (l : Layer σ α) :
    l.reconnect.audience =
      (l.observers, l.notices ++ l.observers.phaseNews l.phase l.reconnect.phase) := by
  unfold reconnect
  split
  · rw [phase_request, phase_enter, audience_request, audience_enter]
    rfl
  · rw [Observers.phaseNews_self, List.append_nil]
    rfl

variable [Trig α]

omit [MarkStore σ α] in
theorem audience_updateViewport (c : Camera α) (l : Layer σ α) :
    (l.updateViewport c).audience = l.audience := by
  unfold updateViewport
  split
  · rfl
  split
  · rfl
  split
  · rw [audience_request]
    rfl
  split
  · rfl
  · rw [audience_request]
    rfl

/-- Only the observer of the phase who comes is told of a phase besides. -/
theorem ne_phase_of_mem_asides {l : Layer σ α} {s : LayerStep α}
    (hs : ∀ label, s ≠ .observePhase label) {n : Notice α} (hn : n ∈ l.asides s) (p : Phase)
    (label : Nat) : n ≠ .phase p label := by
  rintro rfl
  cases s with
  | answer a =>
      rw [asides] at hn
      split at hn
      · simp [Observers.galleryNews] at hn
      · cases hn
  | tapGuide id =>
      rw [asides] at hn
      cases h : l.tapped? .guide id <;> simp [h, Observers.galleryNews] at hn
  | tapCluster id v =>
      rw [asides] at hn
      cases h : l.tapped? .cluster id <;> simp [h] at hn
  | observePhase label => exact hs label rfl
  | _ => cases hn

/-- A step that stays in its phase tells its asides only. -/
theorem audience_of_stays {l l' : Layer σ α} {s : LayerStep α} (hphase : l'.phase = l.phase)
    (h : l'.audience = (l.observers.joined s, l.notices ++ l.asides s)) :
    l'.audience = (l.observers.joined s, l.notices ++ l.news s l') := by
  rw [h, news, hphase, Observers.phaseNews_self, List.nil_append]

/-- A step without asides that is not about observers. -/
theorem audience_of_plain {l l' : Layer σ α} {s : LayerStep α}
    (hjoined : l.observers.joined s = l.observers) (hasides : l.asides s = [])
    (h : l'.audience = (l.observers, l.notices ++ l.observers.phaseNews l.phase l'.phase)) :
    l'.audience = (l.observers.joined s, l.notices ++ l.news s l') := by
  rw [h, news, hjoined, hasides, List.append_nil]

/-- Every step tells its news and nothing else. Who listens is changed only by the steps that are
for that. -/
theorem audience_step (l : Layer σ α) (s : LayerStep α) :
    (l.step s).audience = (l.observers.joined s, l.notices ++ l.news s (l.step s)) := by
  have hbare (s : LayerStep α) (h : (l.step s).bare = l.bare) : (l.step s).phase = l.phase := by
    have hphase := congrArg Layer.phase h
    exact hphase
  cases s with
  | setEnabled on => exact audience_of_plain rfl rfl (audience_setEnabled on l)
  | reconnect => exact audience_of_plain rfl rfl (audience_reconnect l)
  | updateViewport c =>
      refine audience_of_stays (transition_updateViewport c l).phase_updateViewport ?_
      rw [asides, List.append_nil]
      exact audience_updateViewport c l
  | setActive guideId =>
      refine audience_of_stays (hbare _ (bare_setActive guideId l)) ?_
      rw [asides, List.append_nil]
      change (l.setActive guideId).audience = l.audience
      unfold setActive
      split
      · rfl
      · exact audience_highlightActive _
  | tapGuide id =>
      refine audience_of_stays (hbare _ (bare_tapGuide id l)) ?_
      change (l.tapGuide id).audience = (l.observers, l.notices ++ l.asides (.tapGuide id))
      rw [tapGuide_eq, asides]
      cases l.tapped? .guide id with
      | none => exact congrArg (l.observers, ·) (List.append_nil _).symm
      | some m => exact audience_tellGallery false (l.select m)
  | tapCluster id v =>
      refine audience_of_stays (hbare _ (bare_tapCluster id v l)) ?_
      change (l.tapCluster id v).audience = (l.observers, l.notices ++ l.asides (.tapCluster id v))
      rw [tapCluster_eq, asides]
      cases l.tapped? .cluster id with
      | none => exact congrArg (l.observers, ·) (List.append_nil _).symm
      | some m =>
          dsimp only [Option.elim_some]
          split
          · rfl
          · exact congrArg (l.observers, ·) (List.append_nil _).symm
  | answer a =>
      unfold news asides
      exact audience_handle a l
  | observePhase label =>
      refine audience_of_stays (phase_tellPhase _ _) ?_
      exact audience_tellPhase l.phase
        { l with observers := { l.observers with phase := some label } }
  | setLocale | observeGallery | attachRenderer =>
      refine audience_of_stays rfl ?_
      rw [asides, List.append_nil]
      rfl

theorem notices_step (l : Layer σ α) (s : LayerStep α) :
    (l.step s).notices = l.notices ++ l.news s (l.step s) :=
  congrArg Prod.snd (audience_step l s)

theorem observers_step (l : Layer σ α) (s : LayerStep α) :
    (l.step s).observers = l.observers.joined s :=
  congrArg Prod.fst (audience_step l s)

/-! ### What a run tells -/

/-- Those whom no step of a run replaces listen to its end. -/
theorem observers_run {β : Type} (f : Observers → β) (l : Layer σ α) {steps : List (LayerStep α)}
    (hsteps : ∀ s ∈ steps, ∀ o : Observers, f (o.joined s) = f o) :
    f (l.run steps).observers = f l.observers := by
  induction steps using List.reverseRecOn with
  | nil => rfl
  | append_singleton steps s ih =>
      obtain ⟨hbefore, hlast⟩ := List.forall_mem_append.mp hsteps
      rw [run_concat, observers_step, hlast s (List.mem_singleton_self s)]
      exact ih hbefore

/-- What is told in the course of the steps. -/
def told (l : Layer σ α) (steps : List (LayerStep α)) : List (Notice α) :=
  (l.run steps).notices.drop l.notices.length

theorem notices_run (l : Layer σ α) (steps : List (LayerStep α)) :
    (l.run steps).notices = l.notices ++ l.told steps := by
  refine (List.prefix_iff_eq_append.mp ?_).symm
  induction steps using List.reverseRecOn with
  | nil => exact List.prefix_refl _
  | append_singleton steps s ih =>
      rw [run_concat, notices_step]
      exact ih.trans (List.prefix_append _ _)

theorem told_singleton (l : Layer σ α) (s : LayerStep α) : l.told [s] = l.news s (l.step s) :=
  List.append_cancel_left ((notices_run l [s]).symm.trans (notices_step l s))

theorem told_append (l : Layer σ α) (steps later : List (LayerStep α)) :
    l.told (steps ++ later) = l.told steps ++ (l.run steps).told later := by
  have htold := notices_run l (steps ++ later)
  rw [run_append, notices_run (l.run steps), notices_run l steps, List.append_assoc] at htold
  exact (List.append_cancel_left htold).symm

end Layer

end GuideLayer
