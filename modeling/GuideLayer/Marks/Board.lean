import GuideLayer.Marks.KeyedMap
import GuideLayer.Marks.Store

/-!
The store of marks in memory. Marks are kept by their ids. Ids count up from
zero and are never used again, so that the order of the ids is the order of
creation. Every notice is counted.
-/

namespace GuideLayer

structure MarkBoard (α : Type) where
  nextId : MarkId := 0
  byId : KeyedMap (Mark α) := .empty
  /-- The ids of the guides saved on the device, each once. -/
  downloaded : List String := []
  /-- How often the drawing side was told of changes. -/
  notifyCount : Nat := 0
  deriving DecidableEq, Repr

namespace MarkBoard

variable {α : Type}

instance : Inhabited (MarkBoard α) := ⟨{}⟩

/-- The marks in the order of their ids. -/
def marks (b : MarkBoard α) : List (Mark α) := b.byId.values

def clearGroup (kind : MarkKind) (b : MarkBoard α) : MarkBoard α :=
  { b with byId := b.byId.retain (fun m => decide (m.kind ≠ kind)) }

def createMark (kind : MarkKind) (pivot : Point α) (b : MarkBoard α) :
    MarkId × MarkBoard α :=
  (b.nextId,
    { b with
      nextId := b.nextId + 1
      byId := b.byId.insert b.nextId { id := b.nextId, kind := kind, pivot := pivot } })

def tagMark (id : MarkId) (tags : MarkTags) (b : MarkBoard α) : MarkBoard α :=
  { b with byId := b.byId.modify id (Mark.tagged tags) }

def marksOf (kind : MarkKind) (b : MarkBoard α) : List (Mark α) :=
  b.marks.filter (fun m => decide (m.kind = kind))

def markIds (kind : MarkKind) (b : MarkBoard α) : List MarkId :=
  (b.marksOf kind).map Mark.id

def markCount (kind : MarkKind) (b : MarkBoard α) : Nat := (b.marksOf kind).length

def mark? (id : MarkId) (b : MarkBoard α) : Option (Mark α) :=
  b.byId.get? id

def hasDownloaded (guideId : String) (b : MarkBoard α) : Bool :=
  b.downloaded.contains guideId

def addDownloaded (guideId : String) (b : MarkBoard α) : MarkBoard α :=
  { b with downloaded := b.downloaded.insert guideId }

def removeDownloaded (guideId : String) (b : MarkBoard α) : MarkBoard α :=
  { b with downloaded := b.downloaded.filter (fun id => decide (id ≠ guideId)) }

def notifyChanges (b : MarkBoard α) : MarkBoard α :=
  { b with notifyCount := b.notifyCount + 1 }

instance : MarkStore (MarkBoard α) α where
  clearGroup := clearGroup
  createMark := createMark
  tagMark := tagMark
  markIds := markIds
  mark? := mark?
  hasDownloaded := hasDownloaded
  notifyChanges := notifyChanges

end MarkBoard

end GuideLayer
