import BuildFleet.CommandLine.Help

/-!
# The program

Looks up the variables that settings can come from, and prints what the command line comes to.
-/

namespace BuildFleet

/-- The variables of the environment that settings can come from. -/
def readEnvironment : IO (List (String × Option String)) :=
  Setting.all.mapM fun s => do
    return (s.envVariable, ← IO.getEnv s.envVariable)

end BuildFleet

/-- Runs the command line. -/
def main (args : List String) : IO UInt32 := do
  let found ← BuildFleet.readEnvironment
  let r := BuildFleet.CommandResult.ofArguments (fun name => (found.lookup name).join) args
  IO.print r.output
  if !r.notice.isEmpty then IO.eprintln r.notice
  return r.code
