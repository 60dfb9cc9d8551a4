import GuideLayer.CommandLine

/-!
The simulator as a program: reads the files that the arguments name, and
prints what comes of them.
-/

open GuideLayer

/-- The text of a file, or nothing if it cannot be read. -/
def readText (name : String) : IO (Option String) := do
  try
    let text ← IO.FS.readFile name
    return some text
  catch _ => return none

def main (arguments : List String) : IO UInt32 := do
  let names := ((Call.read? arguments).map Call.files).getD []
  let texts ← names.mapM (fun name => do
    let text ← readText name
    return (name, text))
  let outcome := CommandLine.run (fun name => (texts.lookup name).join) arguments
  IO.print outcome.output
  if outcome.complaint ≠ "" then
    IO.eprintln outcome.complaint
  return outcome.code.toUInt32
