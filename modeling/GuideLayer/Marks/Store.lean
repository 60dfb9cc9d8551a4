import GuideLayer.Marks.Mark

/-!
What the layer asks of a store of marks, and sessions of edits on one. The
drawing side hears of a session once, when it ends, and only if it changed
something.
-/

namespace GuideLayer

/-- A store of marks together with the catalog of guides saved on the device. -/
class MarkStore (σ : Type) (α : outParam Type) where
  clearGroup : MarkKind → σ → σ
  /-- Makes a mark and names it. A store may lose the mark at once. -/
  createMark : MarkKind → Point α → σ → MarkId × σ
  tagMark : MarkId → MarkTags → σ → σ
  /-- The ids of the marks of a kind, in order of creation. -/
  markIds : MarkKind → σ → List MarkId
  mark? : MarkId → σ → Option (Mark α)
  hasDownloaded : String → σ → Bool
  /-- Tells the drawing side that marks changed. -/
  notifyChanges : σ → σ := id

/-- Edits in progress on a store. -/
structure EditSession (σ : Type) where
  store : σ
  changed : Bool := false

namespace EditSession

variable {σ α : Type} [MarkStore σ α]

def clear (kind : MarkKind) (e : EditSession σ) : EditSession σ :=
  ⟨MarkStore.clearGroup kind e.store, true⟩

/-- Makes a mark with tags on it. There is no id when the store lost the mark. -/
def create (kind : MarkKind) (pivot : Point α) (tags : MarkTags) (e : EditSession σ) :
    Option MarkId × EditSession σ :=
  let made := MarkStore.createMark kind pivot e.store
  match MarkStore.mark? made.1 made.2 with
  | none => (none, ⟨made.2, true⟩)
  | some _ => (some made.1, ⟨MarkStore.tagMark made.1 tags made.2, true⟩)

def markIds (kind : MarkKind) (e : EditSession σ) : List MarkId :=
  MarkStore.markIds kind e.store

def mark? (id : MarkId) (e : EditSession σ) : Option (Mark α) :=
  MarkStore.mark? id e.store

def hasDownloaded (guideId : String) (e : EditSession σ) : Bool :=
  MarkStore.hasDownloaded guideId e.store

/-- Ends the session and gives the store back. -/
def finish (e : EditSession σ) : σ :=
  if e.changed then MarkStore.notifyChanges e.store else e.store

end EditSession

end GuideLayer
