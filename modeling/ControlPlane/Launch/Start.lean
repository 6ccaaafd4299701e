import ControlPlane.Launch.Address
import ControlPlane.Launch.Arguments
import ControlPlane.Settings.Load

/-!
# Starting a process

A process reads its command line, loads its settings, over which the options of the
command line go, reads the address to listen at and, if its medium is persistent, makes
its directory.  The first step that fails ends the start.  Files are reached through
`Files`, in whatever monad they are.
-/

namespace ControlPlane.Launch

/-- What a start needs of files. -/
structure Files (m : Type → Type) where
  /-- The content of the file at a path, if there is one. -/
  content? : String → m (Option Bytes)
  /-- Makes a directory and those on the way to it, where they are missing; whether it is
  there afterwards. -/
  makeDirectory : String → m Bool

/-- Why a process does not start. -/
inductive Fault where
  | arguments (refusal : Refusal)
  | settings
  | address (written : String)
  | directory (path : String)
  deriving DecidableEq, Repr

namespace Fault

/-- What is reported about settings that cannot be loaded. -/
def settingsMessage : String := "failed to load configuration"

/-- The first line of the message about a fault, or more of them if a setting that it
repeats has more. -/
def message : Fault → String
  | .arguments refusal => refusal.message
  | .settings => s!"Error: {settingsMessage}"
  | .address written => s!"Error: invalid listen_addr: {written}"
  | .directory path => s!"Error: failed to create data_dir {path}"

/-- The exit code of a process that does not start. -/
def exitCode : Fault → Nat
  | .arguments .help => 0
  | .arguments _ => 2
  | .settings | .address _ | .directory _ => 1

end Fault

/-- The settings with the values of a command line in place of those that it gives. -/
def Arguments.adjust (arguments : Arguments) (settings : Settings) : Settings :=
  { settings with
    member := arguments.member.getD settings.member
    address := arguments.address.getD settings.address
    directory := arguments.directory.getD settings.directory }

/-- What a process has found out when it is ready. -/
structure Ready where
  settings : Settings
  address : Address
  deriving DecidableEq, Repr

/-- The settings of a process, of which a file may be given. -/
def settings? {m : Type → Type} [Monad m] (files : Files m) (path : Option String)
    (environment : List (String × String)) : m (Option Settings) :=
  match path with
  | none => return Settings.load? none environment
  | some path => do
    match ← files.content? path with
    | none => return none
    | some document => return Settings.load? (some document) environment

/-- Starts a process with a command line and environment variables. -/
def start {m : Type → Type} [Monad m] (files : Files m) (commandLine : List String)
    (environment : List (String × String)) : m (Except Fault Ready) := do
  match Arguments.read commandLine with
  | .error refusal => return .error (.arguments refusal)
  | .ok arguments =>
    match ← settings? files arguments.file environment with
    | none => return .error .settings
    | some loaded =>
      let settings := arguments.adjust loaded
      match Address.ofText? settings.address with
      | none => return .error (.address settings.address)
      | some address =>
        match settings.medium with
        | .memory => return .ok ⟨settings, address⟩
        | .persistent =>
          if ← files.makeDirectory settings.directory then return .ok ⟨settings, address⟩
          else return .error (.directory settings.directory)

end ControlPlane.Launch
