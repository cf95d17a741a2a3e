import InputUdev.EvdevMode
import InputUdev.FileTree
import InputUdev.Rule
import InputUdev.Toml.Document
import InputUdev.Tunable

/-!
# Settings

The device root, the system name of virtual parents and the evdev mode, read from a TOML document.
Settings read from a file remember it, so that they can be read again.
-/

namespace InputUdev

inductive SettingsError where
  | unreadable (cause : IoError)
  /-- No TOML document, or one with a value of the wrong kind in it. -/
  | malformed
  | emptySysname
  | unknownMode (text : String)
  /-- A value that is neither a truth value nor a text, in place of a mode. -/
  | notAMode (v : Toml.Value)
  /-- Settings that come from no file cannot be read again. -/
  | noSource

def SettingsError.message : SettingsError → String
  | unreadable cause => "IO error: " ++ cause.message
  | malformed => "TOML parse error"
  | emptySysname => "Invalid setting value: virtual_sysname must not be empty"
  | unknownMode text => "Invalid setting value: Cannot convert '" ++ text ++ "' to an evdev mode"
  | notAMode v => "Invalid setting value: Cannot convert " ++ v.shown ++ " to an evdev mode"
  | noSource => "Invalid setting value: No source path set"

/-! ## The content of a settings document -/

/-- What a document says, each part of which it may leave out. -/
structure SettingsContent where
  root : Option String := none
  virtualSysname : Option String := none
  support : Option Toml.Value := none

namespace SettingsContent

/-- The fields of a section: a table's own, or those that an array gives by their position. A date
or a time has none. -/
def section? (names : List String) : Toml.Value → Option Toml.Fields
  | .table fields => some fields
  | .array items => some (names.zip items)
  | .datetime _ => some []
  | _ => none

/-- The section of a document with the given name; a missing one is empty. -/
def sectionOf? (document : Toml.Fields) (name : String) (names : List String) :
    Option Toml.Fields :=
  match document.lookup name with
  | none => some []
  | some v => section? names v

/-- The text of a field, if there is such a field. -/
def text? (fields : Toml.Fields) (name : String) : Option (Option String) :=
  match fields.lookup name with
  | none => some none
  | some (.text s) => some (some s)
  | some _ => none

def ofDocument? (document : Toml.Fields) : Option SettingsContent := do
  let devices ← sectionOf? document "devices" ["root", "virtual_sysname"]
  let evdev ← sectionOf? document "evdev" ["support"]
  return {
    root := ← text? devices "root"
    virtualSysname := ← text? devices "virtual_sysname"
    support := evdev.lookup "support" }

def ofText? (text : String) : Option SettingsContent := do ofDocument? (← Toml.read? text)

end SettingsContent

/-- The mode that a value stands for. -/
def EvdevMode.ofValue : Toml.Value → Except SettingsError EvdevMode
  | .boolean true => .ok .on
  | .boolean false => .ok .off
  | .text s => match ofText? s with
    | some mode => .ok mode
    | none => .error (.unknownMode s)
  | v => .error (.notAMode v)

structure Settings where
  /-- The directory of the device nodes. -/
  root : String := RuleTable.defaultRoot
  virtualSysname : String := "uinput"
  mode : EvdevMode := .auto
  /-- The file that the settings come from. -/
  source : Option String := none
  deriving DecidableEq, Repr

namespace Settings

/-! ## Reading -/

/-- The settings that a document's content stands for. What it leaves out has its usual value. -/
def ofContent (content : SettingsContent) : Except SettingsError Settings := do
  let usual : Settings := {}
  if content.virtualSysname = some "" then throw .emptySysname
  let mode ← match content.support with
    | none => pure usual.mode
    | some v => EvdevMode.ofValue v
  return {
    root := content.root.getD usual.root
    virtualSysname := content.virtualSysname.getD usual.virtualSysname
    mode }

def ofText (text : String) : Except SettingsError Settings :=
  match SettingsContent.ofText? text with
  | none => .error .malformed
  | some content => ofContent content

def ofFile (files : FileTree) (path : String) : Except SettingsError Settings := do
  let text ← (files.readText path).mapError .unreadable
  return { ← ofText text with source := some path }

/-- The settings file in the user's configuration directory. -/
def fileIn (configuration : String) : String :=
  Path.join (Path.join configuration "inputid") "settings.toml"

/-- The settings of a file that need not exist. -/
def ofOptionalFile (files : FileTree) (path : Option String) : Except SettingsError Settings :=
  match path.filter files.hasPath with
  | some path => ofFile files path
  | none => .ok {}

/-- Reads the file again that the settings come from. -/
def reload (s : Settings) (files : FileTree) : Except SettingsError Settings :=
  match s.source with
  | some path => ofFile files path
  | none => .error .noSource

/-! ## Use -/

/-- Whether evdev counts as active. -/
def evdevEnabled (s : Settings) (tunables : Tunables) : Bool :=
  match s.mode with
  | .auto => tunables.evdevEnabled
  | .on => true
  | .off => false

def ruleTable (s : Settings) (evdevEnabled : Bool) : RuleTable := .standard s.root evdevEnabled

/-- The text of a settings file with the usual values. -/
def exampleText : String := String.join [
  "# Inputid Settings\n",
  "# Place this file at: ~/.config/inputid/settings.toml\n",
  "\n",
  "[devices]\n",
  "# Directory holding the device nodes\n",
  "root = \"/dev\"\n",
  "# System name of the parent of event devices without a physical location\n",
  "virtual_sysname = \"uinput\"\n",
  "\n",
  "[evdev]\n",
  "# Whether legacy keyboard/mouse nodes are left to evdev:\n",
  "# \"auto\" asks the kernel (kern.features.evdev_support), \"on\" or \"off\" force it\n",
  "support = \"auto\"\n"]

end Settings
end InputUdev
