import GuideLayer.Geometry.Point

/-!
Marks on the map: what is kept of one, and the tags that may be put on it
after it was made. A tag reaches neither a mark's id nor its kind.
-/

namespace GuideLayer

/-- The handle of a mark in its store. -/
abbrev MarkId := Nat

/-- The groups of marks of the layer. Each is cleared as a unit. -/
inductive MarkKind where
  /-- Two or more guides drawn as one. -/
  | cluster
  | guide
  /-- The highlight under the active guide. -/
  | selection
  deriving DecidableEq, Repr

namespace MarkKind

def name : MarkKind → String
  | cluster => "guide_cluster"
  | guide => "guide"
  | selection => "guide_selection"

def all : List MarkKind := [cluster, guide, selection]

end MarkKind

/-- What a guide is about. -/
inductive Category where
  | city
  | outdoor
  deriving DecidableEq, Repr

namespace Category

def name : Category → String
  | city => "city"
  | outdoor => "outdoor"

def all : List Category := [city, outdoor]

end Category

/-- A mark. Fields that mean nothing for its kind keep their defaults. -/
structure Mark (α : Type) where
  id : MarkId
  kind : MarkKind
  pivot : Point α
  /-- Later marks are drawn on top. -/
  index : Nat := 0
  sights : Nat := 0
  outdoor : Nat := 0
  guideId : String := ""
  category : Option Category := none
  downloaded : Bool := false
  deriving DecidableEq, Repr

/-- What to set on a mark; an absent tag leaves the mark's own value. -/
structure MarkTags where
  index : Option Nat := none
  /-- The counts of sights and of outdoor guides. -/
  counts : Option (Nat × Nat) := none
  category : Option Category := none
  guideId : Option String := none
  downloaded : Option Bool := none
  deriving DecidableEq, Repr

namespace Mark

variable {α : Type}

def tagged (tags : MarkTags) (m : Mark α) : Mark α :=
  { m with
    index := tags.index.getD m.index
    sights := (tags.counts.map Prod.fst).getD m.sights
    outdoor := (tags.counts.map Prod.snd).getD m.outdoor
    category := tags.category.or m.category
    guideId := tags.guideId.getD m.guideId
    downloaded := tags.downloaded.getD m.downloaded }

@[simp] theorem id_tagged (tags : MarkTags) (m : Mark α) : (m.tagged tags).id = m.id := rfl

@[simp] theorem kind_tagged (tags : MarkTags) (m : Mark α) :
    (m.tagged tags).kind = m.kind := rfl

@[simp] theorem tagged_none (m : Mark α) : m.tagged {} = m := by
  cases m; simp [tagged]

end Mark

end GuideLayer
