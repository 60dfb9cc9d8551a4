import GuideLayer.Url.Reader

/-!
Links into a catalog: entries appended to the path of a base URL, and the
marks by which visits are counted.
-/

namespace GuideLayer

/-- Why there is no link. -/
inductive LinkError where
  | badBase (fault : UrlFault)
  /-- The base has no path that could be extended. -/
  | noSegments (base : String)
  deriving DecidableEq, Repr

namespace LinkError

def message : LinkError → String
  | badBase fault => "invalid base url: " ++ fault.message
  | noSegments base => "base url " ++ base ++ " cannot carry path segments"

end LinkError

/-- Where a visit came from. -/
structure Utm where
  source : String := "guides_app"
  medium : String := "map"
  campaign : String := "guides_on_map_gallery"
  deriving DecidableEq, Repr

namespace Url

variable [HostNames]

/-- The base with entries appended, one segment each. Empty entries are passed over, and a
trailing slash of the base is dropped. -/
def link (base : String) (entries : List String) : Except LinkError Url :=
  match read base with
  | .error fault => .error (.badBase fault)
  | .ok url =>
    match url.path with
    | .opaqueText _ => .error (.noSegments base)
    | .segments list =>
      let segments := (entries.filter (· ≠ "")).foldl (Path.append url.schemeClass)
        (Path.dropTrailingEmpty list)
      .ok { url with path := .segments segments }

def withUtm (utm : Utm) (u : Url) : Url :=
  ((u.addPair "utm_source" utm.source).addPair "utm_medium" utm.medium).addPair
    "utm_campaign" utm.campaign

def withTerm (term : String) (u : Url) : Url := u.addPair "utm_term" term

end Url

end GuideLayer
