/-!
# Command line

A command line has four options, each with a value, and a request for help.  A value
stands behind its option, unless it begins with a hyphen, or it is attached to the
option by an equals sign.  No option may be given twice, and the path of a file or a
directory may not be empty.

The first problem from the left counts.  A value that stands behind its option is
looked at only when the next option or the end is reached, so that an argument which is
not expected comes before it.
-/

namespace ControlPlane.Launch

/-- The options, each of which takes a value. -/
inductive Parameter where
  | member
  | address
  | file
  | directory
  deriving DecidableEq, Repr

namespace Parameter

/-- All options. -/
def all : List Parameter := [.member, .address, .file, .directory]

/-- The name of an option, which two hyphens precede. -/
def name : Parameter → String
  | .member => "member"
  | .address => "listen-addr"
  | .file => "config"
  | .directory => "data-dir"

/-- What stands for the value of an option in messages. -/
def valueName : Parameter → String
  | .member => "MEMBER"
  | .address => "LISTEN_ADDR"
  | .file => "CONFIG"
  | .directory => "DATA_DIR"

/-- The option of a name. -/
def ofName? (name : String) : Option Parameter :=
  all.find? (·.name == name)

@[simp]
theorem ofName?_name (parameter : Parameter) : ofName? parameter.name = some parameter := by
  cases parameter <;> decide

/-- Whether the value of an option is a path. -/
def isPath : Parameter → Bool
  | .file | .directory => true
  | .member | .address => false

/-- An option as messages show it. -/
def shown (parameter : Parameter) : String :=
  s!"--{parameter.name} <{parameter.valueName}>"

end Parameter

/-- Why a command line is not carried out. -/
inductive Refusal where
  /-- An argument that is no option, or a value that belongs to none. -/
  | unexpected (argument : String)
  /-- An option without a value, or with an empty path. -/
  | noValue (parameter : Parameter)
  | repeated (parameter : Parameter)
  /-- A value that is attached to the request for help. -/
  | unwantedValue (value : String)
  /-- Help is asked for. -/
  | help
  deriving DecidableEq, Repr

/-- The first line of the message about a refusal; help is no fault and has none. -/
def Refusal.message : Refusal → String
  | .unexpected argument => s!"error: unexpected argument '{argument}' found"
  | .noValue parameter =>
    s!"error: a value is required for '{parameter.shown}' but none was supplied"
  | .repeated parameter => s!"error: the argument '{parameter.shown}' cannot be used multiple times"
  | .unwantedValue value =>
    s!"error: unexpected value '{value}' for '--help' found; no more were expected"
  | .help => ""

/-- The values of the options that are given. -/
structure Arguments where
  member : Option String
  address : Option String
  file : Option String
  directory : Option String
  deriving DecidableEq, Repr

namespace Arguments

/-- No option is given. -/
def none : Arguments := ⟨.none, .none, .none, .none⟩

/-- The value of an option. -/
def get (arguments : Arguments) : Parameter → Option String
  | .member => arguments.member
  | .address => arguments.address
  | .file => arguments.file
  | .directory => arguments.directory

/-- The arguments with a value for an option. -/
def set (arguments : Arguments) (parameter : Parameter) (value : String) : Arguments :=
  match parameter with
  | .member => { arguments with member := value }
  | .address => { arguments with address := value }
  | .file => { arguments with file := value }
  | .directory => { arguments with directory := value }

theorem get_set (arguments : Arguments) (parameter other : Parameter) (value : String) :
    (arguments.set parameter value).get other =
      if parameter = other then some value else arguments.get other := by
  cases parameter <;> cases other <;> rfl

/-- The arguments with an option and the value that was found for it. -/
def give (arguments : Arguments) (parameter : Parameter) :
    Option String → Except Refusal Arguments
  | .none => .error (.noValue parameter)
  | some value =>
    if (arguments.get parameter).isSome then .error (.repeated parameter)
    else if parameter.isPath && value == "" then .error (.noValue parameter)
    else .ok (arguments.set parameter value)

/-! ## Reading a command line -/

/-- What an argument is by itself. -/
inductive Shape where
  /-- Two hyphens alone, behind which no options are read. -/
  | escape
  /-- Two hyphens and a name, perhaps with a value. -/
  | long (name : String) (value : Option String)
  /-- One hyphen and a character. -/
  | short (char : Char)
  | plain
  deriving DecidableEq, Repr

/-- What an argument is by itself. -/
def shapeOf (argument : String) : Shape :=
  match argument.toList with
  | ['-', '-'] => .escape
  | '-' :: '-' :: rest =>
    let name := String.ofList (rest.takeWhile (· != '='))
    match rest.dropWhile (· != '=') with
    | _ :: value => .long name (String.ofList value)
    | [] => .long name .none
  | '-' :: char :: _ => .short char
  | _ => .plain

/-- The option whose value is still to be looked at, if there is one, and its value. -/
abbrev Open := Option (Parameter × Option String)

/-- The arguments after the option whose value is still to be looked at. -/
def close (arguments : Arguments) : Open → Except Refusal Arguments
  | some (parameter, value) => arguments.give parameter value
  | .none => .ok arguments

/-- Reads arguments onto those read so far. -/
def readFrom (arguments : Arguments) (last : Open) : List String → Except Refusal Arguments
  | [] => arguments.close last
  | argument :: rest =>
    match shapeOf argument with
    | .escape =>
      match rest with
      | [] => arguments.close last
      | next :: _ => .error (.unexpected next)
    | .long name value =>
      match Parameter.ofName? name, value with
      | some parameter, .none => do
        readFrom (← arguments.close last) (some (parameter, .none)) rest
      | some parameter, some value => do
        readFrom (← (← arguments.close last).give parameter (some value)) .none rest
      | .none, value =>
        if name = "help" then
          match value with
          | some value => .error (.unwantedValue value)
          | .none => do let _ ← arguments.close last; .error .help
        else .error (.unexpected s!"--{name}")
    | .short char =>
      if char = 'h' then do let _ ← arguments.close last; .error .help
      else .error (.unexpected s!"-{char}")
    | .plain =>
      match last with
      | some (parameter, .none) => readFrom arguments (some (parameter, some argument)) rest
      | _ => .error (.unexpected argument)

/-- Reads a command line, without the name of the program. -/
def read (arguments : List String) : Except Refusal Arguments :=
  readFrom none .none arguments

end Arguments

end ControlPlane.Launch
