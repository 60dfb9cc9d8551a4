import GuideLayer.Settings
import GuideLayer.Wire.Geometry

/-!
Settings in JSON. A text may leave out any of them, at every level, and each
level has its own way to make up for it: a value for each field, standard
settings for a record as a whole, or the fields of a standard record.
-/

namespace GuideLayer

namespace Utm

def toJson (u : Utm) : Json :=
  .object
    [("source", .string u.source), ("medium", .string u.medium),
      ("campaign", .string u.campaign)]

/-- What is missing is as in the standard tags. -/
def fields : List (Field Utm) :=
  let standard : Utm := {}
  [Field.defaulted "source" Decoder.string (fun x u => { u with source := x }) standard.source,
    Field.defaulted "medium" Decoder.string (fun x u => { u with medium := x }) standard.medium,
    Field.defaulted "campaign" Decoder.string (fun x u => { u with campaign := x })
      standard.campaign]

def decoder : Decoder Utm := Decoder.record fields ⟨"", "", ""⟩

end Utm

namespace GallerySettings

def toJson (g : GallerySettings) : Json :=
  .object
    [("catalog_front_url", .string g.catalog),
      ("route_path", .string g.route),
      ("locale", .string g.locale),
      ("utm", g.utm.toJson)]

/-- Every text that is missing has a value of its own, and so have all tags together. -/
def fields : List (Field GallerySettings) :=
  [Field.defaulted "catalog_front_url" Decoder.string (fun x g => { g with catalog := x })
      defaultCatalog,
    Field.defaulted "route_path" Decoder.string (fun x g => { g with route := x }) defaultRoute,
    Field.defaulted "locale" Decoder.string (fun x g => { g with locale := x }) defaultLocale,
    Field.defaulted "utm" Utm.decoder (fun x g => { g with utm := x }) {}]

def decoder : Decoder GallerySettings := Decoder.record fields ⟨"", "", "", ⟨"", "", ""⟩⟩

end GallerySettings

namespace Settings

def toJson (s : Settings Float) : Json :=
  .object
    [("request_attempts", .nat s.attempts),
      ("scale_eps", .float s.scaleEps),
      ("min_intersection_score", .float s.minOverlap),
      ("cluster_scale_factor", .float s.clusterZoom),
      ("gallery", s.gallery.toJson)]

/-- Every number that is missing has a value of its own, and so has the gallery as a whole. -/
def fields : List (Field (Settings Float)) :=
  [Field.defaulted "request_attempts" Decoder.nat32 (fun x s => { s with attempts := x })
      defaultAttempts,
    Field.defaulted "scale_eps" Decoder.float (fun x s => { s with scaleEps := x }) defaultScaleEps,
    Field.defaulted "min_intersection_score" Decoder.float (fun x s => { s with minOverlap := x })
      defaultMinOverlap,
    Field.defaulted "cluster_scale_factor" Decoder.float (fun x s => { s with clusterZoom := x })
      defaultClusterZoom,
    Field.defaulted "gallery" GallerySettings.decoder (fun x s => { s with gallery := x }) {}]

def decoder : Decoder (Settings Float) :=
  Decoder.record fields ⟨0, 0, 0, 0, ⟨"", "", "", ⟨"", "", ""⟩⟩⟩

variable [HostNames]

/-- Reads settings and refuses those that cannot be worked with. -/
def ofText (text : String) : Except (SettingsError Float) (Settings Float) := do
  let s ← (Decoder.ofText decoder text).mapError .unreadable
  s.validate
  pure s

end Settings

end GuideLayer
