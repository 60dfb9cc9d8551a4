import GuideLayer.Layer.Drawing

/-!
What the user does to the layer, and what the service answers. Only the answer
to the latest request counts; any other is dropped before it can change
anything.
-/

namespace GuideLayer

namespace Layer

variable {σ α : Type} [MarkStore σ α]

section Viewing

variable [Scalar α]

/-- Switches the layer on or off. Switching off forgets everything but the camera. -/
def setEnabled (on : Bool) (l : Layer σ α) : Layer σ α :=
  if on = l.phase.isEnabled then l
  else if on then (l.enter .enabled).request
  else { l.clear.enter .disabled with shown := [] }

omit [MarkStore σ α] in
/-- Tries again after the layer had given up. -/
def reconnect (l : Layer σ α) : Layer σ α :=
  if l.phase = .fatalNetworkError then (l.enter .enabled).request else l

omit [MarkStore σ α] in
/-- Notes a viewport without asking for it. -/
def record (c : Camera α) (l : Layer σ α) : Layer σ α := { l with camera := some c }

omit [MarkStore σ α] in
/-- Counts a viewport that was too much like the recorded one. -/
def suppress (l : Layer σ α) : Layer σ α :=
  { l with stats := { l.stats with suppressed := l.stats.suppressed + 1 } }

omit [MarkStore σ α] in
/-- Reports what is on screen now. -/
def updateViewport [Trig α] (c : Camera α) (l : Layer σ α) : Layer σ α :=
  if l.phase.isPaused then l.record c
  else if c.viewport.Degenerate then l
  else
    match l.usableCamera? with
    | none => (l.record c).request
    | some current =>
      if looksLike l.settings current.viewport c.viewport then l.suppress
      else (l.record c).request

end Viewing

section Answers

omit [MarkStore σ α] in
/-- An answer that counts: the layer takes answers, and it is to the latest request. -/
def Accepts (generation : Nat) (l : Layer σ α) : Prop :=
  l.phase.isPaused = false ∧ generation = l.generation

instance (generation : Nat) (l : Layer σ α) : Decidable (l.Accepts generation) :=
  inferInstanceAs (Decidable (l.phase.isPaused = false ∧ generation = l.generation))

omit [MarkStore σ α] in
/-- Drops an answer. It is counted unless the layer is paused. -/
def drop (l : Layer σ α) : Layer σ α :=
  if l.phase.isPaused then l
  else { l with stats := { l.stats with stale := l.stats.stale + 1 } }

/-- Takes the guides of an answer. -/
def receive (generation : Nat) (spots : List (Spot α)) (l : Layer σ α) : Layer σ α :=
  if l.Accepts generation then
    let l := { l with
      stats := { l.stats with successes := l.stats.successes + 1 }
      spots := spots
      failures := 0 }
    ((l.enter (if spots.isEmpty then .noData else .hasData)).redraw).tellGallery true
  else l.drop

/-- Asks again after a failure, or gives up. -/
def fail [Scalar α] (generation : Nat) (l : Layer σ α) : Layer σ α :=
  if l.Accepts generation then
    let l := { l with
      stats := { l.stats with failures := l.stats.failures + 1 }
      failures := l.failures + 1 }
    if l.settings.attempts ≤ l.failures then
      (l.clear.enter .fatalNetworkError).tellGallery true
    else
      let l := l.enter .networkError
      request { l with stats := { l.stats with retries := l.stats.retries + 1 } }
  else l.drop

/-- Takes an answer of the service. -/
def handle [Scalar α] (a : Answer α) (l : Layer σ α) : Layer σ α :=
  match a.result with
  | .ok spots => l.receive a.generation spots
  | .error _ => l.fail a.generation

/-- Answers the oldest or the newest pending request, and tells its generation. -/
def answerPending? [Scalar α] (newest : Bool) (result : Except FetchError (List (Spot α)))
    (l : Layer σ α) : Option (Nat × Layer σ α) :=
  match l.queue.pop? newest with
  | none => none
  | some (r, queue) =>
    some (r.generation, handle ⟨r.generation, result⟩ { l with queue := queue })

end Answers

section Selection

/-- Makes a guide active. The empty id is no guide's, and makes none active. -/
def setActive (guideId : String) (l : Layer σ α) : Layer σ α :=
  if l.active.getD "" = guideId then l
  else highlightActive { l with active := if guideId = "" then none else some guideId }

/-- Makes the guide of a tapped mark active. -/
def tapGuide (id : MarkId) (l : Layer σ α) : Layer σ α :=
  match (MarkStore.mark? id l.store).filter (fun m => decide (m.kind = .guide)) with
  | none => l
  | some m =>
    let session := EditSession.clear .selection ⟨l.store, false⟩
    tellGallery false
      { l with
        store := (session.create .selection m.pivot {}).2.finish
        active := some m.guideId }

/-- Zooms into a tapped cluster. -/
def tapCluster [Scalar α] [Trig α] (id : MarkId) (v : Viewport α) (l : Layer σ α) :
    Layer σ α :=
  match (MarkStore.mark? id l.store).filter (fun m => decide (m.kind = .cluster)) with
  | none => l
  | some m =>
    if l.observers.renderer then
      { l with
        notices := l.notices ++ [.zoom l.settings.clusterZoom (v.toPixel m.pivot) true] }
    else l

omit [MarkStore σ α] in
def setLocale (locale : String) (l : Layer σ α) : Layer σ α :=
  { l with
    settings := { l.settings with
      gallery := { l.settings.gallery with locale := locale } } }

/-- The cards of the guides on the map. -/
def gallery [HostNames] (l : Layer σ α) : List (Card α) :=
  Gallery.build l.settings.gallery l.shown.length
    (fun id => MarkStore.hasDownloaded id l.store) l.spots

end Selection

end Layer

end GuideLayer
