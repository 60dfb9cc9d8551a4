import GuideLayer.Decimal.Notation
import GuideLayer.Guide.Gallery
import GuideLayer.Json.Fault

/-!
Settings of the layer, and which of them are refused.
-/

namespace GuideLayer

structure Settings (α : Type) where
  /-- After so many failures in a row the layer gives up. -/
  attempts : Nat
  /-- A relative change of scale above this one is always seen. -/
  scaleEps : α
  /-- Viewports that overlap by more than this are taken for the same. -/
  minOverlap : α
  /-- How far a tap on a cluster zooms in. -/
  clusterZoom : α
  gallery : GallerySettings
  deriving DecidableEq, Repr

/-- Why settings are refused. -/
inductive SettingsError (α : Type) where
  | unreadable (fault : Fault)
  | noAttempts
  | outOfRange (name : String) (value : α)
  | catalog (error : LinkError)
  deriving DecidableEq, Repr

namespace Settings

variable {α : Type} [Scalar α]

def defaultAttempts : Nat := 3

/-- Near the change of scale at which concentric viewports overlap by `defaultMinOverlap`, which is
a little less when zooming in and a little more when zooming out. -/
def defaultScaleEps : α := 0.1115

def defaultMinOverlap : α := 0.8

def defaultClusterZoom : α := 2.0

/-- The settings that hold where there are none. -/
def standard : Settings α :=
  { attempts := defaultAttempts
    scaleEps := defaultScaleEps
    minOverlap := defaultMinOverlap
    clusterZoom := defaultClusterZoom
    gallery := {} }

instance : Inhabited (Settings α) := ⟨standard⟩

/-- A share that is neither nothing nor more than all. -/
def IsShare (x : α) : Prop := 0 < x ∧ x ≤ 1

instance (x : α) : Decidable (IsShare x) := inferInstanceAs (Decidable (0 < x ∧ x ≤ 1))

variable [HostNames]

/-- The first of the settings that cannot be worked with. -/
def validate (s : Settings α) : Except (SettingsError α) Unit :=
  if s.attempts = 0 then .error .noAttempts
  else if ¬IsShare s.scaleEps then .error (.outOfRange "scale_eps" s.scaleEps)
  else if ¬IsShare s.minOverlap then .error (.outOfRange "min_intersection_score" s.minOverlap)
  else
    match Url.link s.gallery.catalog [] with
    | .error e => .error (.catalog e)
    | .ok _ => .ok ()

end Settings

namespace SettingsError

/-- A number in a message. -/
def numberText (x : Float) : String :=
  if x.isNaN then "NaN"
  else if x.isFinite then DecimalNotation.plain.render x
  else if 0 < x then "inf" else "-inf"

def message : SettingsError Float → String
  | unreadable fault => "invalid guides config: " ++ fault.category
  | noAttempts => "request_attempts must be at least 1"
  | outOfRange name value => name ++ " must be in (0, 1], got " ++ numberText value
  | catalog error => "gallery.catalog_front_url: " ++ error.message

end SettingsError

end GuideLayer
