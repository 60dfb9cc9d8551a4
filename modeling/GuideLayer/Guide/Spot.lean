import GuideLayer.Marks.Mark

/-!
What the guides service answers with: spots on the map, each a single guide
or a cluster of several.
-/

namespace GuideLayer

/-- The description of a guide. -/
structure Guide (α : Type) where
  id : String := ""
  name : String := ""
  imageUrl : String := ""
  /-- What kind of outdoor route it is, such as hiking. -/
  tag : String := ""
  bookmarks : Nat := 0
  hasTrack : Bool := false
  /-- In metres. -/
  distance : α
  /-- In seconds. -/
  duration : α
  /-- In metres. -/
  ascent : Nat := 0
  deriving DecidableEq, Repr

/-- A point of the layer with the number of guides there. -/
structure Spot (α : Type) where
  point : Point α
  sights : Nat := 0
  outdoor : Nat := 0
  guide : Guide α
  deriving DecidableEq, Repr

namespace Guide

instance {α : Type} [Zero α] : Inhabited (Guide α) := ⟨{ distance := 0, duration := 0 }⟩

end Guide

namespace Spot

variable {α : Type}

instance [Scalar α] : Inhabited (Spot α) := ⟨{ point := 0, guide := default }⟩

/-- The largest count that can be told apart; sums stop there. -/
def countLimit : Nat := 0xffffffff

def total (s : Spot α) : Nat := min (s.sights + s.outdoor) countLimit

def isCluster (s : Spot α) : Bool := decide (1 < s.total)

/-- One guide of one category. -/
def isSingle (s : Spot α) : Bool := decide (s.total = 1)

def category (s : Spot α) : Category := if 0 < s.sights then .city else .outdoor

end Spot

end GuideLayer
