import ShapeLint.CommandLine.Run

/-!
The program: arguments and environment in, text and exit code out.
-/
open ShapeLint

/-- The environment variables that the settings know. -/
def settingsEnvironment : IO (List (String × String)) :=
  Settings.environmentFields.filterMapM fun (name, _) => do
    return (← IO.getEnv name).map fun text => (name, text)

def main (arguments : List String) : IO UInt32 := do
  let outcome := CommandLine.run Dialect.build (← settingsEnvironment) arguments
  (← IO.getStdout).putStr outcome.out
  (← IO.getStderr).putStr outcome.err
  return outcome.exitCode.toUInt32
