import InputUdev.EvdevMode

/-!
# The command line

Arguments are read from left to right: options, values of options, and paths. Help and version are
answered as soon as they are asked for, and the first misuse ends the reading.
-/

namespace InputUdev

structure Arguments where
  /-- The settings file. -/
  config : Option String := none
  /-- Takes the place of the mode in the settings. -/
  mode : Option EvdevMode := none
  list : Bool := false
  verbose : Bool := false
  paths : List String := []
  deriving DecidableEq, Repr

namespace CommandLine

inductive Switch where
  | config
  | mode
  | list
  | verbose
  | help
  | version
  deriving DecidableEq, Repr

namespace Switch

def all : List Switch := [config, mode, list, verbose, help, version]

def long : Switch → String
  | config => "config"
  | mode => "evdev"
  | list => "list"
  | verbose => "verbose"
  | help => "help"
  | version => "version"

def short? : Switch → Option Char
  | config => some 'c'
  | mode => none
  | list => some 'l'
  | verbose => some 'v'
  | help => some 'h'
  | version => some 'V'

/-- What stands for the value of a switch that takes one. -/
def valueName? : Switch → Option String
  | config => some "CONFIG"
  | mode => some "MODE"
  | _ => none

def summary : Switch → String
  | config => "TOML settings file"
  | mode =>
    "Whether legacy keyboard/mouse nodes defer to evdev [possible values: auto, on, off]"
  | list => "List every input device under the device root"
  | verbose => "Enable debug logging"
  | help => "Print help"
  | version => "Print version"

end Switch

inductive UsageError where
  | unknownSwitch (text : String)
  | missingValue (s : Switch)
  /-- A value for a switch that takes none. -/
  | unexpectedValue (s : Switch)
  | badValue (s : Switch) (text : String)
  | repeated (s : Switch)
  deriving DecidableEq, Repr

def UsageError.message : UsageError → String
  | unknownSwitch text => "unexpected argument '" ++ text ++ "' found"
  | missingValue s => "a value is required for '--" ++ s.long ++ "' but none was supplied"
  | unexpectedValue s => "unexpected value for '--" ++ s.long ++ "' found"
  | badValue s text => "invalid value '" ++ text ++ "' for '--" ++ s.long ++ "'"
  | repeated s => "the argument '--" ++ s.long ++ "' cannot be used multiple times"

/-- Why the reading of arguments ends before the last of them. -/
inductive Stop where
  | misuse (e : UsageError)
  | help
  | version
  deriving DecidableEq, Repr

/-- The arguments read so far. -/
structure Reading where
  arguments : Arguments := {}
  /-- The switch whose value comes next. -/
  pending : Option Switch := none
  /-- After `--`, all that follows is a path. -/
  pathsOnly : Bool := false

namespace Reading

variable (r : Reading)

def addPath (path : String) : Reading :=
  { r with arguments := { r.arguments with paths := r.arguments.paths ++ [path] } }

/-- The words for an evdev mode here are fewer than in the settings. -/
def modeOf? : String → Option EvdevMode
  | "auto" => some .auto
  | "on" => some .on
  | "off" => some .off
  | _ => none

/-- Gives a switch its value. -/
def setValue (s : Switch) (value : String) : Except Stop Reading :=
  let a := r.arguments
  let done (a : Arguments) : Reading := { r with arguments := a, pending := none }
  match s with
  | .config =>
    if a.config.isSome then .error (.misuse (.repeated s))
    else if value.isEmpty then .error (.misuse (.badValue s value))
    else .ok (done { a with config := some value })
  | .mode =>
    if a.mode.isSome then .error (.misuse (.repeated s))
    else match modeOf? value with
      | none => .error (.misuse (.badValue s value))
      | some mode => .ok (done { a with mode := some mode })
  | s => .error (.misuse (.unexpectedValue s))

/-- Turns on a switch that takes no value. -/
def turnOn (s : Switch) : Except Stop Reading :=
  let a := r.arguments
  match s with
  | .list =>
    if a.list then .error (.misuse (.repeated s))
    else .ok { r with arguments := { a with list := true } }
  | .verbose =>
    if a.verbose then .error (.misuse (.repeated s))
    else .ok { r with arguments := { a with verbose := true } }
  | .help => .error .help
  | .version => .error .version
  | s => .error (.misuse (.missingValue s))

/-- A switch with the value that is attached to it, if any. -/
def apply (s : Switch) (value : Option String) : Except Stop Reading :=
  match s.valueName?, value with
  | none, none => r.turnOn s
  | none, some _ => .error (.misuse (.unexpectedValue s))
  | some _, some value => r.setValue s value
  | some _, none => .ok { r with pending := some s }

/-- A long switch, whose value is attached with an equals sign. -/
def readLong (text : List Char) : Except Stop Reading :=
  let (name, value) := text.span (· != '=')
  match Switch.all.find? (·.long == String.ofList name) with
  | none => .error (.misuse (.unknownSwitch ("--" ++ String.ofList name)))
  | some s => r.apply s (if value.isEmpty then none else some (String.ofList (value.drop 1)))

/-- Short switches run together. What follows one that takes a value is its value. -/
def readShort (r : Reading) : List Char → Except Stop Reading
  | [] => .ok r
  | c :: rest =>
    match Switch.all.find? (·.short? == some c) with
    | none => .error (.misuse (.unknownSwitch (String.ofList ['-', c])))
    | some s =>
      if s.valueName?.isSome then
        let value := if rest.head? == some '=' then rest.drop 1 else rest
        r.apply s (if rest.isEmpty then none else some (String.ofList value))
      else do readShort (← r.turnOn s) rest

def step (argument : String) : Except Stop Reading :=
  if r.pathsOnly then .ok (r.addPath argument)
  else match r.pending, argument.toList with
    | some s, '-' :: _ :: _ => .error (.misuse (.missingValue s))
    | some s, _ => r.setValue s argument
    | none, ['-', '-'] => .ok { r with pathsOnly := true }
    | none, '-' :: '-' :: text => r.readLong text
    | none, '-' :: c :: rest => r.readShort (c :: rest)
    | none, _ => .ok (r.addPath argument)

end Reading

def read (arguments : List String) : Except Stop Arguments := do
  let r ← arguments.foldlM Reading.step {}
  match r.pending with
  | none => return r.arguments
  | some s => throw (.misuse (.missingValue s))

/-! ## Texts -/

def versionText : String := "inputid 0.1.0\n"

def usageText : String := "Usage: inputid [OPTIONS] [PATH]...\n"

/-- A text filled up with spaces. -/
def padRight (width : Nat) (s : String) : String :=
  s ++ String.ofList (List.replicate (width - s.length) ' ')

/-- The spelling of a switch in the help text. -/
def Switch.shown (s : Switch) : String :=
  (match s.short? with
    | some c => String.ofList ['-', c] ++ ", --"
    | none => "    --") ++ s.long ++
  match s.valueName? with
  | some name => " <" ++ name ++ ">"
  | none => ""

def helpText : String :=
  "Classify input devices and synthesize udev ID_INPUT properties\n\n" ++ usageText ++
  "\nArguments:\n  [PATH]...  Device nodes to classify\n\nOptions:\n" ++
  String.join (Switch.all.map fun s => "  " ++ padRight 23 s.shown ++ s.summary ++ "\n")

end CommandLine
end InputUdev
