import ControlPlane.Settings.Variable
import ControlPlane.Store.Database
import ControlPlane.Toml.Document

/-!
# Loading settings

A process has six settings, each a text in one of four sections.  They come from three
sources: the defaults, over which the settings file is laid, over which the environment
is laid.  The tree that results has to hold every setting as a text; a section may also
be a list of its settings in their order.  What else the tree holds does not matter.
-/

namespace ControlPlane

/-- The settings of a process. -/
structure Settings where
  member : String
  /-- The address to listen at, as it is written. -/
  address : String
  medium : Medium
  /-- The directory of the persistent medium. -/
  directory : String
  logLevel : String
  logFormat : String
  deriving DecidableEq, Repr

/-- The name of a medium in settings. -/
def Medium.name : Medium → String
  | .memory => "memory"
  | .persistent => "fjall"

/-- The medium of a name. -/
def Medium.ofName? (name : String) : Option Medium :=
  [Medium.memory, .persistent].find? (·.name == name)

@[simp]
theorem Medium.ofName?_name (medium : Medium) : ofName? medium.name = some medium := by
  cases medium <;> decide

namespace Settings

/-! ## Places of settings -/

/-- The settings by name. -/
inductive Field where
  | member
  | address
  | medium
  | directory
  | logLevel
  | logFormat
  deriving DecidableEq, Repr

namespace Field

/-- The section of a setting. -/
def group : Field → String
  | .member => "member"
  | .address => "server"
  | .medium | .directory => "storage"
  | .logLevel | .logFormat => "observability"

/-- The name of a setting in its section. -/
def name : Field → String
  | .member => "name"
  | .address => "listen_addr"
  | .medium => "backend"
  | .directory => "data_dir"
  | .logLevel => "log_level"
  | .logFormat => "log_format"

/-- The place of a setting among those of its section. -/
def index : Field → Nat
  | .member | .address | .medium | .logLevel => 0
  | .directory | .logFormat => 1

/-- What a tree says about a setting. -/
def find? (field : Field) : Tree → Option Tree
  | .group sections =>
    match Tree.find? sections field.group with
    | some (.group members) => Tree.find? members field.name
    | some (.list items) => items[field.index]?
    | _ => none
  | _ => none

/-- The text that a tree gives for a setting. -/
def text? (field : Field) (tree : Tree) : Option String :=
  match field.find? tree with
  | some (.text value) => some value
  | _ => none

end Field

/-! ## Sources -/

/-- The settings that a tree holds, if each of them is a text. -/
def ofTree? (tree : Tree) : Option Settings := do
  return {
    member := ← Field.member.text? tree
    address := ← Field.address.text? tree
    medium := ← Medium.ofName? (← Field.medium.text? tree)
    directory := ← Field.directory.text? tree
    logLevel := ← Field.logLevel.text? tree
    logFormat := ← Field.logFormat.text? tree }

/-- The settings of a process that is told nothing. -/
def defaults : Settings where
  member := "clusterd-0"
  address := "0.0.0.0:7000"
  medium := .persistent
  directory := "/var/lib/clusterd"
  logLevel := "info"
  logFormat := "pretty"

/-- The text of a setting. -/
def text (settings : Settings) : Field → String
  | .member => settings.member
  | .address => settings.address
  | .medium => settings.medium.name
  | .directory => settings.directory
  | .logLevel => settings.logLevel
  | .logFormat => settings.logFormat

/-- A tree that holds all settings. -/
def toTree (settings : Settings) : Tree :=
  let setting (field : Field) : String × Tree := (field.name, .text (settings.text field))
  .group [
    ("member", .group [setting .member]),
    ("server", .group [setting .address]),
    ("storage", .group [setting .medium, setting .directory]),
    ("observability", .group [setting .logLevel, setting .logFormat])]

/-- The settings that a settings file, if there is one, and the environment amount to. -/
def load? (file : Option Bytes) (environment : List (String × String)) : Option Settings := do
  let below ← match file with
    | none => some defaults.toTree
    | some document => (Toml.document? document).map (·.overlay defaults.toTree)
  ofTree? ((ofVariables environment).overlay below)

/-- The settings that a tree holds are read back from it. -/
@[simp]
theorem ofTree?_toTree (settings : Settings) : ofTree? settings.toTree = some settings := by
  cases settings with
  | mk member address medium directory logLevel logFormat =>
    cases medium <;> rfl

end Settings

end ControlPlane
