import GuideLayer.Scenario
import GuideLayer.Wire.Guides

/-!
Scenarios and reports in JSON. A step is kept whole before its kind is looked
at, so whatever is wrong with its fields is told only after its text was read.
-/

namespace GuideLayer

namespace Camera

def fields : List (Field (Camera Float)) :=
  [Field.required "viewport" Viewport.decoder (fun x c => { c with viewport := x }),
    Field.required "zoom" Decoder.nat8 (fun x c => { c with zoom := x })]

end Camera

namespace ScenarioStep

/-- A step without fields. Nothing may follow its kind in a list. -/
def bare (s : ScenarioStep Float) : Decoder (ScenarioStep Float) := fun depth d =>
  match d with
  | .array _ _ => Decoder.record [] s depth d
  | _ => .ok s

/-- A step made of one field. -/
def single {α : Type} (field : (α → α → α) → Field α) (start : α)
    (make : α → ScenarioStep Float) : Decoder (ScenarioStep Float) := fun depth d =>
  (Decoder.record [field (fun x _ => x)] start depth d).map make

/-- The steps by their kinds, each with what reads its fields. -/
def kinds : List (String × Decoder (ScenarioStep Float)) :=
  [("enable", bare .enable),
    ("disable", bare .disable),
    ("reconnect", bare .reconnect),
    ("viewport", fun depth d =>
      (Decoder.record Camera.fields ⟨default, 0⟩ depth d).map .viewport),
    ("respond", single (Field.defaulted "guides" (Decoder.list Spot.decoder) · []) [] .respond),
    ("fail", single (Field.defaulted "reason" Decoder.string · "unavailable") "" .fail),
    ("select_guide", single (Field.required "id" Decoder.string) "" .selectGuide),
    ("tap_guide", single (Field.required "index" Decoder.nat64) 0 .tapGuide),
    ("set_locale", single (Field.required "locale" Decoder.string) "" .setLocale)]

/-- The kind that a draft names. -/
def kindOf (depth : Nat) (d : Draft) : Except Fault (Decoder (ScenarioStep Float)) := do
  Decoder.named kinds (← Decoder.string depth d)

/-- Looks for the kind among entries, and settles all others. -/
def split (depth : Nat) :
    List (Draft × Draft) → Option (Decoder (ScenarioStep Float)) →
      Except Fault (Option (Decoder (ScenarioStep Float)) × List (Draft × Draft))
  | [], kind => .ok (kind, [])
  | (key, v) :: rest, kind => do
    let name ← key.keyText
    if name = "op" then
      if kind.isSome then throw .mismatch
      let found ← kindOf depth v
      split depth rest (some found)
    else
      v.settle depth
      let (kind, others) ← split depth rest kind
      pure (kind, (key, v) :: others)

def decoder : Decoder (ScenarioStep Float) := fun depth d =>
  match d with
  | .object entries stop => do
    let depth ← Draft.descend depth
    let (kind, others) ← split depth entries none
    Draft.check stop
    match kind with
    | some read => Decoder.settled read (.object others none)
    | none => throw .mismatch
  | .array [] stop => do
    let _ ← Draft.descend depth
    Draft.check stop
    throw .mismatch
  | .array (first :: rest) stop => do
    let depth ← Draft.descend depth
    let read ← kindOf depth first
    Draft.settleItems depth rest
    Draft.check stop
    Decoder.settled read (.array rest none)
  | d => .error d.mismatch

end ScenarioStep

namespace Scenario

def fields : List (Field (Scenario Float)) :=
  [Field.defaulted "downloaded" (Decoder.list Decoder.string)
      (fun x s => { s with downloaded := x }) [],
    Field.required "steps" (Decoder.list ScenarioStep.decoder)
      (fun x s => { s with steps := x })]

def decoder : Decoder (Scenario Float) := Decoder.record fields { steps := [] }

def ofText (text : String) : Except ScenarioError (Scenario Float) :=
  (Decoder.ofText decoder text).mapError .unreadable

end Scenario

namespace Phase

def toJson (p : Phase) : Json := .string p.name

end Phase

namespace Stats

def toJson (s : Stats) : Json :=
  .object
    [("requests_issued", .nat s.issued),
      ("requests_suppressed", .nat s.suppressed),
      ("retries", .nat s.retries),
      ("successes", .nat s.successes),
      ("failures", .nat s.failures),
      ("stale_responses", .nat s.stale)]

end Stats

namespace MarkCounts

def toJson (m : MarkCounts) : Json :=
  .object
    [("clusters", .nat m.clusters), ("guides", .nat m.guides),
      ("selections", .nat m.selections)]

end MarkCounts

namespace Report

def toJson (r : Report Float) : Json :=
  .object
    [("states", .array (r.phases.map Phase.toJson)),
      ("final_state", r.finalPhase.toJson),
      ("active_guide", .optional r.active),
      ("shown_guides", .nat r.shown),
      ("pending_requests", .nat r.pending),
      ("marks", r.marks.toJson),
      ("gallery", Gallery.toJson r.gallery),
      ("stats", r.stats.toJson)]

/-- The text of a report, on one line or indented. -/
def render (pretty : Bool) (r : Report Float) : String :=
  if pretty then r.toJson.indented 0 else r.toJson.compact

end Report

end GuideLayer
