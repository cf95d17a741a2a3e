import InputUdev.Glob.Translation
import InputUdev.Message
import InputUdev.Path
import InputUdev.Text.Quoted

/-!
# Rules

A rule assigns a subsystem and a handler to the paths its glob accepts. The first rule of a table
that accepts a path decides; if that rule defers to evdev and evdev is enabled, no rule applies,
whatever rules follow.
-/

namespace InputUdev

/-- How a device gets its class and its parent. -/
inductive Handler where
  /-- A probe of the event device. -/
  | evdev
  | keyboard
  | mouse
  | joystick
  | touchpad
  | touchscreen
  /-- The console mouse, of fixed identity. -/
  | sysmouse
  /-- The keyboard multiplexor, of fixed identity. -/
  | kbdmux
  deriving DecidableEq, Repr

def Handler.name : Handler → String
  | evdev => "Evdev"
  | keyboard => "Keyboard"
  | mouse => "Mouse"
  | joystick => "Joystick"
  | touchpad => "Touchpad"
  | touchscreen => "Touchscreen"
  | sysmouse => "Sysmouse"
  | kbdmux => "Kbdmux"

structure Rule where
  subsystem : String
  /-- A glob over whole paths. -/
  pattern : String
  /-- Leave the device alone when evdev exposes it already. -/
  skipIfEvdev : Bool
  handler : Handler
  deriving DecidableEq, Repr

def Rule.accepts (r : Rule) (path : String) : Bool := (Glob.ofText r.pattern).accepts path

/-- What making the rule has to say: why its pattern fails to compile, if it does. The engine's
picture of the place where it fails is left out. -/
def Rule.warnings (r : Rule) : List Message :=
  match (Glob.ofText r.pattern).matcher with
  | .ok _ => []
  | .error e => [⟨.warn, "invalid device pattern " ++ Text.quote r.pattern ++ ": " ++ e.message⟩]

structure RuleTable where
  rules : List Rule
  evdevEnabled : Bool
  deriving DecidableEq, Repr

namespace RuleTable

/-- The subsystem of a path to which no rule applies. -/
def unknownSubsystem : String := "unknown"

def defaultRoot : String := "/dev"

/-- The standard rules: the glob below the device root, whether the rule defers to evdev, and the
handler. -/
def standardRules : List (String × Bool × Handler) := [
  ("input/event[0-9]*", false, .evdev),
  ("ukbd[0-9]*", true, .keyboard),
  ("atkbd[0-9]*", true, .keyboard),
  ("kbdmux[0-9]*", true, .kbdmux),
  ("ums[0-9]*", true, .mouse),
  ("psm[0-9]*", true, .mouse),
  ("joy[0-9]*", false, .joystick),
  ("atp[0-9]*", false, .touchpad),
  ("wsp[0-9]*", false, .touchpad),
  ("uep[0-9]*", false, .touchscreen),
  ("sysmouse", true, .sysmouse),
  ("vboxguest", false, .mouse)]

/-- The standard rules below a device root, whose trailing slashes do not count. The root is part
of the globs as it is. -/
def standard (root : String) (evdevEnabled : Bool) : RuleTable where
  rules := standardRules.map fun (name, skip, handler) =>
    ⟨"input", Path.trimSlashes root ++ "/" ++ name, skip, handler⟩
  evdevEnabled := evdevEnabled

variable (t : RuleTable)

/-- What making the rules has to say. -/
def warnings : List Message := t.rules.flatMap (·.warnings)

/-- The first rule that accepts the path, whether or not it defers to evdev. -/
def firstMatch (path : String) : Option Rule := t.rules.find? (·.accepts path)

/-- Whether a rule leaves its devices to evdev. -/
def defers (r : Rule) : Bool := r.skipIfEvdev && t.evdevEnabled

/-- The rule that applies to the path. -/
def ruleFor (path : String) : Option Rule := (t.firstMatch path).filter (!t.defers ·)

def subsystemFor (path : String) : String :=
  ((t.ruleFor path).map (·.subsystem)).getD unknownSubsystem

def handlerFor (path : String) : Option Handler := (t.ruleFor path).map (·.handler)

/-- What looking up the rule of a path has to say. -/
def lookupMessages (path : String) : List Message :=
  if (t.firstMatch path).any t.defers then
    [.about .trace path "EVDEV enabled -> skipping device"]
  else []

end RuleTable
end InputUdev
