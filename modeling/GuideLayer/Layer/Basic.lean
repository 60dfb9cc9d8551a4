import GuideLayer.Geometry.Polygon
import GuideLayer.Geometry.Viewport
import GuideLayer.Layer.Phase
import GuideLayer.Layer.Request
import GuideLayer.Layer.Stats
import GuideLayer.Marks.Store
import GuideLayer.Settings

/-!
The guides layer of a map: what it knows, whom it tells, and when it asks the
service. A viewport that looks like the recorded one is not asked for again,
and the recorded one stays, so that slow drift adds up.
-/

namespace GuideLayer

/-- A viewport with the zoom level that goes with it. -/
structure Camera (α : Type) where
  viewport : Viewport α
  zoom : Nat
  deriving DecidableEq, Repr

/-- Who listens. Observers are told apart by labels. -/
structure Observers where
  phase : Option Nat := none
  gallery : Option Nat := none
  renderer : Bool := false
  deriving DecidableEq, Repr

/-- What observers are told. -/
inductive Notice (α : Type) where
  | phase (p : Phase) (label : Nat)
  /-- The gallery has other content, or only another card is active. -/
  | gallery (reload : Bool) (label : Nat)
  /-- Zoom by a factor around a point of the screen. -/
  | zoom (factor : α) (pixel : Point α) (animated : Bool)
  deriving DecidableEq, Repr

structure Layer (σ α : Type) where
  settings : Settings α
  store : σ
  queue : RequestQueue α := {}
  phase : Phase := .disabled
  /-- The last viewport that was asked for, or noted while the layer was paused. -/
  camera : Option (Camera α) := none
  spots : List (Spot α) := []
  active : Option String := none
  /-- The guides shown on marks of their own since the layer was switched on, each once. -/
  shown : List String := []
  /-- The generation of the latest request. -/
  generation : Nat := 0
  /-- Failures since the last success. -/
  failures : Nat := 0
  /-- The last index given to a mark. -/
  lastIndex : Nat := 0
  stats : Stats := {}
  observers : Observers := {}
  /-- What observers were told and have not taken notice of yet, oldest first. -/
  notices : List (Notice α) := []

namespace Layer

variable {σ α : Type}

def tellPhase (p : Phase) (l : Layer σ α) : Layer σ α :=
  match l.observers.phase with
  | some label => { l with notices := l.notices ++ [.phase p label] }
  | none => l

def tellGallery (reload : Bool) (l : Layer σ α) : Layer σ α :=
  match l.observers.gallery with
  | some label => { l with notices := l.notices ++ [.gallery reload label] }
  | none => l

/-- Enters a phase. Observers hear of it unless the layer was there already. -/
def enter (p : Phase) (l : Layer σ α) : Layer σ α :=
  if l.phase = p then l else tellPhase p { l with phase := p }

/-- Lets another observer follow the phase. It is told the present one at once. -/
def observePhase (label : Nat) (l : Layer σ α) : Layer σ α :=
  tellPhase l.phase { l with observers := { l.observers with phase := some label } }

def observeGallery (label : Nat) (l : Layer σ α) : Layer σ α :=
  { l with observers := { l.observers with gallery := some label } }

def attachRenderer (l : Layer σ α) : Layer σ α :=
  { l with observers := { l.observers with renderer := true } }

/-- Takes the notices away. -/
def collect (l : Layer σ α) : List (Notice α) × Layer σ α :=
  (l.notices, { l with notices := [] })

section Camera

variable [Scalar α]

/-- The recorded camera, if it shows anything. -/
def usableCamera? (l : Layer σ α) : Option (Camera α) :=
  l.camera.filter (fun c => decide (¬c.viewport.Degenerate))

/-- Asks for the guides of the recorded viewport, unless there is none. -/
def request (l : Layer σ α) : Layer σ α :=
  match l.usableCamera? with
  | none => l
  | some c =>
    { l with
      generation := l.generation + 1
      stats := { l.stats with issued := l.stats.issued + 1 }
      queue := l.queue.send ⟨l.generation + 1, c.viewport.visible, c.zoom⟩ }

/-- Whether a viewport shows so much of what another one showed that there is nothing to ask. -/
def looksLike [Trig α] (s : Settings α) (current next : Viewport α) : Bool :=
  if current.scale ≤ 0 then false
  else if s.scaleEps < Scalar.abs (current.scale - next.scale) / current.scale then false
  else decide (s.minOverlap < Polygon.overlap current.visible.corners next.visible.corners)

end Camera

end Layer

end GuideLayer
