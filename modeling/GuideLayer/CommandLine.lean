import GuideLayer.Simulation
import GuideLayer.Url.AsciiNames

/-!
The command line of the simulator: its arguments, and what it prints.
-/

namespace GuideLayer

/-- A simulation to do: where its texts are, and how the report is laid out. -/
structure Arguments where
  scenario : String
  settings : Option String := none
  pretty : Bool := false
  deriving DecidableEq, Repr

namespace Arguments

/-- The files that have to be read. -/
def files (a : Arguments) : List String := a.settings.toList ++ [a.scenario]

end Arguments

/-- What a call asks for. -/
inductive Call where
  | simulate (a : Arguments)
  | help
  | version
  deriving DecidableEq, Repr

/-- Arguments read so far. -/
structure PartialArguments where
  scenario : Option String := none
  settings : Option String := none
  pretty : Bool := false
  deriving DecidableEq, Repr

namespace PartialArguments

/-- Takes the value of an option. It must not be empty, nor may the option have one already. -/
def set (name value : String) (a : PartialArguments) : Option PartialArguments :=
  if value = "" then none
  else if name = "--scenario" ∧ a.scenario = none then some { a with scenario := some value }
  else if name = "--config" ∧ a.settings = none then some { a with settings := some value }
  else none

/-- The simulation asked for. There is nothing to do without a scenario. -/
def toCall (a : PartialArguments) : Option Call :=
  a.scenario.map (fun scenario => .simulate ⟨scenario, a.settings, a.pretty⟩)

/-- A text that cannot be a value because it looks like an option. -/
def looksLikeOption (text : String) : Bool :=
  text.startsWith "-" && text != "-"

def takesValue (text : String) : Bool := text == "--scenario" || text == "--config"

/-- The name and the value of an option that has both in one argument. -/
def cut (text : String) : Option (String × String) :=
  match text.toList.span (· != '=') with
  | (name, '=' :: value) => some (String.ofList name, String.ofList value)
  | _ => none

/-- A text that asks for help or for the version, whatever may follow. Of letters behind one
dash the first decides. -/
def question? (text : String) : Option Call :=
  if text = "--help" then some .help
  else if text = "--version" then some .version
  else
    match text.toList with
    | '-' :: 'h' :: _ => some .help
    | '-' :: 'V' :: _ => some .version
    | _ => none

/-- Reads arguments from left to right. Nothing but the options is taken, and none of them
twice; a double dash may end them. -/
def read (a : PartialArguments) : List String → Option Call
  | [] => a.toCall
  | text :: rest =>
    if (question? text).isSome then question? text
    else if text = "--pretty" then
      if a.pretty then none else read { a with pretty := true } rest
    else if text = "--" then
      if rest = [] then a.toCall else none
    else if takesValue text then
      match rest with
      | [] => none
      | value :: rest =>
        if looksLikeOption value then none else (a.set text value).bind (read · rest)
    else (cut text).bind (fun p => (a.set p.1 p.2).bind (read · rest))

end PartialArguments

/-- How the program ends: its exit code, and what it writes for the user and on failure. -/
structure Outcome where
  code : Nat
  output : String := ""
  complaint : String := ""
  deriving DecidableEq, Repr

namespace Call

def read? (arguments : List String) : Option Call := PartialArguments.read {} arguments

/-- The files that have to be read. -/
def files : Call → List String
  | simulate a => a.files
  | _ => []

end Call

namespace CommandLine

def usage : String := "Usage: guides-sim [OPTIONS] --scenario <SCENARIO>"

def help : String :=
  "\n".intercalate
    ["Replay a guides-on-map scenario and print the outcome",
     "",
     usage,
     "",
     "Options:",
     "      --scenario <SCENARIO>  Scenario JSON: downloaded guide ids plus a list of steps",
     "      --config <CONFIG>      Controller config JSON; defaults apply when omitted",
     "      --pretty               Pretty-print the report",
     "  -h, --help                 Print help",
     "  -V, --version              Print version"]

def version : String := "tools 0.1.0"

/-- The text of a file that is there. -/
def load (file : String → Option String) (name : String) : Except Outcome String :=
  match file name with
  | some text => .ok text
  | none => .error ⟨1, "", "cannot read " ++ name⟩

/-- The program takes catalogs on hosts with names in ASCII. -/
instance : HostNames := .ascii

/-- Does a simulation, with files by their names. -/
def simulate (file : String → Option String) (a : Arguments) : Except Outcome Outcome := do
  let settings ← a.settings.mapM (load file)
  let scenario ← load file a.scenario
  match Simulation.run settings scenario a.pretty with
  | .ok report => pure ⟨0, report ++ "\n", ""⟩
  | .error e => throw ⟨1, "", e.message⟩

/-- The outcome of a call with these arguments. -/
def run (file : String → Option String) (arguments : List String) : Outcome :=
  match Call.read? arguments with
  | none => ⟨2, "", usage⟩
  | some .help => ⟨0, help ++ "\n", ""⟩
  | some .version => ⟨0, version ++ "\n", ""⟩
  | some (.simulate a) =>
    match simulate file a with
    | .ok outcome => outcome
    | .error outcome => outcome

end CommandLine

end GuideLayer
