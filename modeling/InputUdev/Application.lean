import InputUdev.Classifier
import InputUdev.CommandLine
import InputUdev.EventSource
import InputUdev.Settings

/-!
# The program

Classifies the devices that are named on the command line or found below the device root, and prints
their records.
-/

namespace InputUdev

/-- What the program finds around it. -/
structure Host where
  files : FileTree
  /-- The event devices among the files. -/
  devices : EventDevices := fun _ => none
  /-- The settings file that is read if no other is named and it exists. -/
  settingsFile : Option String := none

inductive ApplicationError where
  /-- The settings of the named file, or the usual ones, cannot be read. -/
  | settings (file : Option String) (cause : SettingsError)
  | directory (path : String) (cause : IoError)
  | noPaths

namespace ApplicationError

def message : ApplicationError → String
  | settings (some file) _ => "loading settings from " ++ file
  | settings none _ => "loading default settings"
  | directory path _ => "reading " ++ path
  | noPaths => "no device paths given (use --list to scan the device root)"

def cause? : ApplicationError → Option String
  | settings _ cause => some cause.message
  | directory _ cause => some cause.message
  | noPaths => none

def report (e : ApplicationError) : String :=
  "Error: " ++ e.message ++ "\n" ++
    match e.cause? with
    | some cause => "\nCaused by:\n    " ++ cause ++ "\n"
    | none => ""

end ApplicationError

/-! ## Records as text -/

def entryLines (mark : String) (e : Entries) : List String :=
  e.toList.map fun (key, value) => mark ++ key ++ "=" ++ value

/-- The record of a device that is the parent of another. -/
def Record.parentLines (r : Record) : List String :=
  ("  parent: " ++ r.syspath) :: entryLines "    E: " r.properties ++
    entryLines "    A: " r.sysattrs

def Device.lines (d : Device) : List String :=
  ("P: " ++ d.syspath) :: (d.devnode.toList.map ("N: " ++ ·)) ++
    ("E: SUBSYSTEM=" ++ d.subsystem) :: entryLines "E: " d.properties ++
    d.ancestors.flatMap (·.parentLines)

def Device.text (d : Device) : String := String.join (d.lines.map (· ++ "\n"))

/-! ## Runs -/

structure Application where
  files : FileTree
  settings : Settings
  classifier : Classifier

namespace Application

/-- The settings of the named file, or of the usual one, with the mode of the command line. -/
def settingsFor (host : Host) (a : Arguments) : Except SettingsError Settings := do
  let settings ← match a.config with
    | some file => Settings.ofFile host.files file
    | none => Settings.ofOptionalFile host.files host.settingsFile
  return { settings with mode := a.mode.getD settings.mode }

def ofSettings (files : FileTree) (settings : Settings)
    (devices : EventDevices := fun _ => none) : Application where
  files := files
  settings := settings
  classifier := {
    rules := settings.ruleTable (settings.evdevEnabled .kernel)
    capabilities := { files, devices : EventSource }.capabilities
    tree := .kernel
    virtualSysname := settings.virtualSysname }

variable (app : Application)

/-- What making the application has to say: whether evdev is on, and then what is wrong with its
rules. -/
def messages : List Message :=
  ⟨.debug, "EVDEV enabled: " ++ toString app.classifier.rules.evdevEnabled⟩ ::
    app.classifier.rules.warnings

/-- The paths in a directory that some rule applies to. A directory that does not exist is as good
as an empty one. -/
def claimedIn (dir : String) : Except ApplicationError (List String) :=
  match app.files.list dir with
  | .error .notFound => .ok []
  | .error cause => .error (.directory dir cause)
  | .ok names => .ok <| (names.map (Path.join dir)).filter fun path =>
      app.classifier.rules.subsystemFor path != RuleTable.unknownSubsystem

/-- The paths in the device root and in its directory of event devices that some rule applies to, in
ascending order. -/
def discover : Except ApplicationError (List String) := do
  let root := app.settings.root
  let nodes ← app.claimedIn root
  let events ← app.claimedIn (Path.join root "input")
  return (nodes ++ events).mergeSort

/-- The paths of a run: those that are named, then those that are found if the program is to list
them. -/
def pathsFor (a : Arguments) : Except ApplicationError (List String) := do
  let found ← if a.list then app.discover else pure []
  if (a.paths ++ found).isEmpty then throw .noPaths else return a.paths ++ found

/-- The records of all devices, with an empty line between two of them. -/
def output (paths : List String) : String :=
  String.intercalate "\n" (paths.map fun path => (app.classifier.deviceFor path .add).device.text)

end Application

def Arguments.run (host : Host) (a : Arguments) : Except ApplicationError String := do
  let settings ← (Application.settingsFor host a).mapError (.settings a.config)
  let app := Application.ofSettings host.files settings host.devices
  return app.output (← app.pathsFor a)

/-- What the program leaves behind. -/
structure Outcome where
  exitCode : UInt8 := 0
  output : String := ""
  errors : String := ""
  deriving DecidableEq, Repr

/-- A run of the program: exit code 1 is a failure, 2 a misuse of the command line. -/
def Outcome.ofArguments (host : Host) (arguments : List String) : Outcome :=
  match CommandLine.read arguments with
  | .error .help => { output := CommandLine.helpText }
  | .error .version => { output := CommandLine.versionText }
  | .error (.misuse e) =>
    { exitCode := 2, errors := "error: " ++ e.message ++ "\n\n" ++ CommandLine.usageText }
  | .ok a =>
    match a.run host with
    | .ok output => { output }
    | .error e => { exitCode := 1, errors := e.report }

end InputUdev
