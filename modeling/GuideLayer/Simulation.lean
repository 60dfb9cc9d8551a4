import GuideLayer.Wire.Scenario
import GuideLayer.Wire.Settings

/-!
Simulations: from the texts of settings and of a scenario to the text of the
report. Settings are read and checked before the scenario is looked at.
-/

namespace GuideLayer

/-- Why a simulation has no report. -/
inductive SimulationError where
  | settings (error : SettingsError Float)
  | scenario (error : ScenarioError)

namespace SimulationError

def message : SimulationError → String
  | settings error => error.message
  | scenario error => error.message

end SimulationError

namespace Simulation

variable [HostNames]

/-- Without a text for the settings the standard ones hold. -/
def readSettings (text : Option String) : Except SimulationError (Settings Float) :=
  match text with
  | none => .ok Settings.standard
  | some text => (Settings.ofText text).mapError .settings

def run (settings : Option String) (scenario : String) (pretty : Bool) :
    Except SimulationError String := do
  let s ← readSettings settings
  let script ← (Scenario.ofText scenario).mapError .scenario
  let report ← (Scenario.run s script).mapError .scenario
  pure (report.render pretty)

end Simulation

end GuideLayer
