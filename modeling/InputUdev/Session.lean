import InputUdev.Settings

/-!
# Sessions

Settings in use while the files they come from change. A step that fails keeps the settings as they
are.
-/

namespace InputUdev

structure Session where
  files : FileTree
  settings : Settings := {}
  /-- The settings file that need not exist. -/
  settingsFile : Option String := none

namespace Session

inductive Step where
  | write (path : String) (node : FileNode)
  | remove (path : String)
  /-- Goes back to the usual settings. -/
  | reset
  | setMode (mode : EvdevMode)
  | loadText (text : String)
  | load (path : String)
  | loadOptional
  | reload

/-- The settings that a step puts in place of those in use, if it reads any. -/
def read? (s : Session) : Step → Option (Except SettingsError Settings)
  | .loadText text => some (Settings.ofText text)
  | .load path => some (Settings.ofFile s.files path)
  | .loadOptional => some (Settings.ofOptionalFile s.files s.settingsFile)
  | .reload => some (s.settings.reload s.files)
  | _ => none

def step (s : Session) (st : Step) : Session :=
  match st with
  | .write path node => { s with files := s.files.write path node }
  | .remove path => { s with files := s.files.remove path }
  | .reset => { s with settings := {} }
  | .setMode mode => { s with settings := { s.settings with mode } }
  | st =>
    match s.read? st with
    | some (.ok settings) => { s with settings }
    | _ => s

def run (s : Session) (steps : List Step) : Session := steps.foldl step s

end Session
end InputUdev
