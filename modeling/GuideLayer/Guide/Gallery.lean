import GuideLayer.Guide.Spot
import GuideLayer.Url.Link

/-!
The gallery under the map: a card with a link for every single guide on it.
-/

namespace GuideLayer

namespace GallerySettings

/-- The catalog where none is named: a server on the same machine. -/
def defaultCatalog : String := "http://127.0.0.1:8080"

def defaultRoute : String := "v3/mobilefront/route"

def defaultLocale : String := "en"

end GallerySettings

structure GallerySettings where
  /-- Where the catalog is. -/
  catalog : String := GallerySettings.defaultCatalog
  /-- The way to a guide in the catalog, with slashes. -/
  route : String := GallerySettings.defaultRoute
  locale : String := GallerySettings.defaultLocale
  utm : Utm := {}
  deriving DecidableEq, Repr

/-- What a card shows besides title and image. -/
inductive CardDetails (α : Type) where
  | city (bookmarks : Nat) (hasTrack : Bool)
  | outdoor (duration distance : α) (ascent : Nat) (tag : String)
  deriving DecidableEq, Repr

structure Card (α : Type) where
  guideId : String
  url : Url
  imageUrl : String
  title : String
  downloaded : Bool
  details : CardDetails α
  deriving DecidableEq, Repr

namespace CardDetails

variable {α : Type}

def isCity : CardDetails α → Bool
  | city _ _ => true
  | outdoor _ _ _ _ => false

/-- The details of a single guide. -/
def ofSpot (s : Spot α) : CardDetails α :=
  if s.sights = 1 then city s.guide.bookmarks s.guide.hasTrack
  else outdoor s.guide.duration s.guide.distance s.guide.ascent s.guide.tag

end CardDetails

namespace GallerySettings

/-- The entries of the path to a guide. -/
def entries (g : GallerySettings) (guideId : String) : List String :=
  g.locale :: (Pieces.cut (· == '/') g.route.toList).map String.ofList ++ [guideId]

variable [HostNames]

/-- The link to a guide, marked with how many guides had been shown. -/
def linkTo (g : GallerySettings) (shown : Nat) (guideId : String) : Except LinkError Url :=
  (Url.link g.catalog (g.entries guideId)).map
    (fun u => (u.withUtm g.utm).withTerm (String.ofList (Nat.toDigits 10 shown)))

end GallerySettings

namespace Gallery

variable {α : Type} [HostNames]

/-- The card of a spot. Clusters have none, and neither has a guide without a link. -/
def card? (g : GallerySettings) (shown : Nat) (downloaded : String → Bool) (s : Spot α) :
    Option (Card α) :=
  if s.isSingle then
    match g.linkTo shown s.guide.id with
    | .error _ => none
    | .ok url =>
      some
        { guideId := s.guide.id
          url := url
          imageUrl := s.guide.imageUrl
          title := s.guide.name
          downloaded := downloaded s.guide.id
          details := CardDetails.ofSpot s }
  else none

/-- The cards of all spots, in their order. -/
def build (g : GallerySettings) (shown : Nat) (downloaded : String → Bool)
    (spots : List (Spot α)) : List (Card α) :=
  spots.filterMap (card? g shown downloaded)

end Gallery

end GuideLayer
