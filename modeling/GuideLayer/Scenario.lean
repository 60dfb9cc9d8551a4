import GuideLayer.Layer.Run
import GuideLayer.Marks.Board

/-!
Scenarios: a script of what the user does and the service answers, and the
report of what came of it.
-/

namespace GuideLayer

inductive ScenarioStep (α : Type) where
  | enable
  | disable
  | reconnect
  | viewport (c : Camera α)
  /-- Answers the oldest pending request. -/
  | respond (spots : List (Spot α))
  /-- Fails the oldest pending request. -/
  | fail (reason : String)
  | selectGuide (id : String)
  /-- Taps one of the guides' marks, counted from zero. -/
  | tapGuide (index : Nat)
  | setLocale (locale : String)

structure Scenario (α : Type) where
  /-- The guides saved on the device before. -/
  downloaded : List String := []
  steps : List (ScenarioStep α)

/-- Why there is no report. -/
inductive ScenarioError where
  | unreadable (fault : Fault)
  | noPendingRequest (step : Nat)
  | noSuchMark (step index : Nat)
  deriving DecidableEq, Repr

namespace ScenarioError

def message : ScenarioError → String
  | unreadable fault => "invalid scenario: " ++ fault.category
  | noPendingRequest step =>
    "step " ++ toString step ++ ": no pending guides request to answer"
  | noSuchMark step index =>
    "step " ++ toString step ++ ": no guide mark #" ++ toString index ++ " on the map"

end ScenarioError

structure MarkCounts where
  clusters : Nat
  guides : Nat
  selections : Nat
  deriving DecidableEq, Repr

structure Report (α : Type) where
  /-- All phases of the layer, from the first to the last. -/
  phases : List Phase
  finalPhase : Phase
  active : Option String
  shown : Nat
  pending : Nat
  marks : MarkCounts
  gallery : List (Card α)
  stats : Stats

namespace Scenario

variable {α : Type} [Scalar α] [Trig α]

abbrev Replay (α : Type) := Layer (MarkBoard α) α

/-- Takes a step, which is the one of the given number. -/
def step (number : Nat) (l : Replay α) : ScenarioStep α → Except ScenarioError (Replay α)
  | .enable => .ok (l.setEnabled true)
  | .disable => .ok (l.setEnabled false)
  | .reconnect => .ok l.reconnect
  | .viewport c => .ok (l.updateViewport c)
  | .respond spots =>
    match l.answerPending? false (.ok spots) with
    | some (_, l) => .ok l
    | none => .error (.noPendingRequest number)
  | .fail reason =>
    match l.answerPending? false (.error ⟨reason⟩) with
    | some (_, l) => .ok l
    | none => .error (.noPendingRequest number)
  | .selectGuide id => .ok (l.setActive id)
  | .tapGuide index =>
    match (l.store.markIds .guide)[index]? with
    | some id => .ok (l.tapGuide id)
    | none => .error (.noSuchMark number index)
  | .setLocale locale => .ok (l.setLocale locale)

/-- Takes steps in their order, the first of which has the given number. -/
def replay : Nat → Replay α → List (ScenarioStep α) → Except ScenarioError (Replay α)
  | _, l, [] => .ok l
  | number, l, s :: rest => do
    let l ← step number l s
    replay (number + 1) l rest

/-- A layer that was never switched on, with an observer of its phase. -/
def begin (settings : Settings α) (downloaded : List String) : Replay α :=
  let board : MarkBoard α := downloaded.foldl (fun b id => b.addDownloaded id) {}
  Layer.observePhase 0 { settings := settings, store := board }

def phasesOf (notices : List (Notice α)) : List Phase :=
  notices.filterMap (fun n =>
    match n with
    | .phase p _ => some p
    | _ => none)

variable [HostNames]

def report (l : Replay α) : Report α :=
  { phases := phasesOf l.notices
    finalPhase := l.phase
    active := l.active
    shown := l.shown.length
    pending := l.queue.pending.length
    marks :=
      { clusters := l.store.markCount .cluster
        guides := l.store.markCount .guide
        selections := l.store.markCount .selection }
    gallery := l.gallery
    stats := l.stats }

/-- Replays a scenario from the beginning. -/
def run (settings : Settings α) (s : Scenario α) : Except ScenarioError (Report α) :=
  (replay 0 (begin settings s.downloaded) s.steps).map report

end Scenario

end GuideLayer
