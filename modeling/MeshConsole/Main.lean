import MeshConsole.CommandLine.Program

/-!
# The command line

The program takes its settings from the environment and its invocation from the words of the command
line. It is built without a network, so that no node is in reach.
-/

namespace MeshConsole

/-- The variables that the settings are taken from. -/
def settingNames : List String :=
  ["NODE_URL", "BIND_ADDRESS", "REFRESH_CRON", "OVERLAP_LOW_MHZ", "OVERLAP_HIGH_MHZ",
   "PROBE_TIMEOUT_SECS"]

/-- The variables that are set. -/
def readEnvironment : IO (List (String × String)) :=
  settingNames.filterMapM fun name => do
    let value ← IO.getEnv name
    return value.map (name, ·)

/-- Runs the program with the words of its command line. -/
def runProgram (words : List String) : IO UInt32 := do
  let environment ← readEnvironment
  let settings := Settings.ofEnvironment fun name => environment.lookup name
  match (Invocation.ofWords words).run settings fun address => ⟨address, false, []⟩ with
  | some completion =>
    (← IO.getStdout).putStr completion.output
    (← IO.getStderr).putStr completion.complaint
    return UInt32.ofNat completion.code
  | none => return 0

end MeshConsole

/-- Runs the program and tells its code. -/
def main (words : List String) : IO UInt32 := MeshConsole.runProgram words
