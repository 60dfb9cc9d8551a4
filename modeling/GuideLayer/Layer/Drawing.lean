import GuideLayer.Layer.Basic

/-!
Marks for the spots of the layer, and the highlight under the active guide.
All marks are made anew from the spots, in their order; the highlight is then
put back under the active guide if it is still there.
-/

namespace GuideLayer

/-- Marks being made: the session, the last index given, and the guides shown. -/
structure Drawing (σ : Type) where
  session : EditSession σ
  index : Nat
  shown : List String

namespace Drawing

variable {σ α : Type} [MarkStore σ α]

/-- The tags of a cluster's mark. -/
def clusterTags (index : Nat) (s : Spot α) : MarkTags :=
  { index := some index
    counts := some (s.sights, s.outdoor) }

/-- The tags of a guide's mark. -/
def guideTags (index : Nat) (downloaded : Bool) (s : Spot α) : MarkTags :=
  { index := some index
    category := some s.category
    guideId := some s.guide.id
    downloaded := some downloaded }

/-- Makes the mark of a spot. The index is used up even if the store loses the mark. -/
def addSpot (d : Drawing σ) (s : Spot α) : Drawing σ :=
  let index := d.index + 1
  if s.isCluster then
    let made := d.session.create .cluster s.point (clusterTags index s)
    ⟨made.2, index, d.shown⟩
  else
    let tags := guideTags index (d.session.hasDownloaded s.guide.id) s
    let made := d.session.create .guide s.point tags
    ⟨made.2, index, if made.1.isSome then d.shown.insert s.guide.id else d.shown⟩

end Drawing

namespace Layer

variable {σ α : Type} [MarkStore σ α]

/-- The first mark of a guide. -/
def guideMark? (guideId : String) (session : EditSession σ) : Option (Mark α) :=
  ((session.markIds .guide).filterMap session.mark?).find? (fun m => m.guideId == guideId)

/-- Puts the highlight under the active guide. A guide without a mark is not active any more. -/
def highlightActive (l : Layer σ α) : Layer σ α :=
  let session := EditSession.clear .selection ⟨l.store, false⟩
  match l.active with
  | none => { l with store := session.finish }
  | some guideId =>
    match guideMark? guideId session with
    | none => { l with store := session.finish, active := none }
    | some m => { l with store := (session.create .selection m.pivot {}).2.finish }

/-- Makes all marks anew. -/
def redraw (l : Layer σ α) : Layer σ α :=
  let session := (EditSession.clear .cluster ⟨l.store, false⟩).clear .guide
  let drawing := l.spots.foldl Drawing.addSpot ⟨session, l.lastIndex, l.shown⟩
  highlightActive
    { l with
      store := drawing.session.finish
      lastIndex := drawing.index
      shown := drawing.shown }

/-- Forgets the answers and takes their marks away. -/
def clear (l : Layer σ α) : Layer σ α :=
  redraw { l with active := none, spots := [], failures := 0 }

end Layer

end GuideLayer
