import GuideLayer.Layer.Operations

/-!
Runs: what happens to a layer, step by step.
-/

namespace GuideLayer

/-- A step in the life of a layer. -/
inductive LayerStep (α : Type) where
  | setEnabled (on : Bool)
  | reconnect
  | updateViewport (c : Camera α)
  | setActive (guideId : String)
  | tapGuide (id : MarkId)
  | tapCluster (id : MarkId) (v : Viewport α)
  | setLocale (locale : String)
  | answer (a : Answer α)
  | observePhase (label : Nat)
  | observeGallery (label : Nat)
  | attachRenderer

namespace Layer

variable {σ α : Type} [MarkStore σ α] [Scalar α] [Trig α]

def step (l : Layer σ α) : LayerStep α → Layer σ α
  | .setEnabled on => l.setEnabled on
  | .reconnect => l.reconnect
  | .updateViewport c => l.updateViewport c
  | .setActive guideId => l.setActive guideId
  | .tapGuide id => l.tapGuide id
  | .tapCluster id v => l.tapCluster id v
  | .setLocale locale => l.setLocale locale
  | .answer a => l.handle a
  | .observePhase label => l.observePhase label
  | .observeGallery label => l.observeGallery label
  | .attachRenderer => l.attachRenderer

/-- Takes all steps in their order. -/
def run (l : Layer σ α) (steps : List (LayerStep α)) : Layer σ α := steps.foldl step l

end Layer

end GuideLayer
