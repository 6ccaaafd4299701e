import ControlPlane.Launch.Start
import ControlPlane.Settings.Environment

/-!
# The program

Checks whether a process can start with a command line: it reads the options, loads the
settings and prepares the directory.  Nothing is printed if it can.
-/

open ControlPlane ControlPlane.Launch

/-- The files of the machine. -/
def diskFiles : Files IO where
  content? path := do
    try return some (← IO.FS.readBinFile path).toList
    catch _ => return none
  makeDirectory path := do
    try
      if path != "" then IO.FS.createDirAll path
      return true
    catch _ => return false

/-- The variables of the running process. -/
def environment : IO (List (String × String)) := do
  try return Settings.variablesOf (← IO.FS.readBinFile "/proc/self/environ").toList
  catch _ => return []

/-- Reports a fault, or nothing if the process can start. -/
def main (commandLine : List String) : IO UInt32 := do
  match ← start diskFiles commandLine (← environment) with
  | .ok _ => return 0
  | .error (.arguments .help) =>
    for parameter in Parameter.all do
      IO.println parameter.shown
    return 0
  | .error fault =>
    IO.eprintln fault.message
    return UInt32.ofNat fault.exitCode
