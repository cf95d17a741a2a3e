import InputUdev.Capability

/-!
# Device classes

The kinds of input device, their names and property markers, and the ladder that picks one from a
device's features.
-/

namespace InputUdev

inductive DeviceClass where
  /-- Nothing recognisable. -/
  | none
  | keyboard
  | mouse
  | touchpad
  | touchscreen
  | joystick
  | tablet
  deriving DecidableEq, Repr

namespace DeviceClass

/-- Every class, in the order of declaration. -/
def all : List DeviceClass :=
  [none, keyboard, mouse, touchpad, touchscreen, joystick, tablet]

def name : DeviceClass → String
  | none => "none"
  | keyboard => "keyboard"
  | mouse => "mouse"
  | touchpad => "touchpad"
  | touchscreen => "touchscreen"
  | joystick => "joystick"
  | tablet => "tablet"

/-- The class with exactly this name. -/
def ofName? (s : String) : Option DeviceClass := all.find? (·.name == s)

/-- The property keys that mark a device of this class, beside the marker common to all. -/
def markers : DeviceClass → List String
  | none => []
  | keyboard => ["ID_INPUT_KEY", "ID_INPUT_KEYBOARD"]
  | mouse => ["ID_INPUT_MOUSE"]
  | touchpad => ["ID_INPUT_MOUSE", "ID_INPUT_TOUCHPAD"]
  | touchscreen => ["ID_INPUT_TOUCHSCREEN"]
  | joystick => ["ID_INPUT_JOYSTICK"]
  | tablet => ["ID_INPUT_TABLET"]

def isNone (c : DeviceClass) : Bool := c = none

/-- The class of a device with absolute axes, if these decide it. A multitouch device without
buttons is a joystick when it has a joystick button; with both main axes a pen makes a tablet, and
pressure or touch a touchpad or, without mouse buttons and finger tool, a touchscreen; mouse
buttons without relative axes make a touchscreen as well. -/
def ofAbsolute (f : Features) : Option DeviceClass :=
  if f.hasMultitouch && !f.hasButtons && f.hasJoystickButton then some joystick
  else if !f.hasAbsXY then Option.none
  else if f.hasPen then some tablet
  else if f.hasPressure || f.hasTouch then
    some (if f.hasLeftRightMiddle || f.hasToolFinger then touchpad else touchscreen)
  else if !f.hasRelXY && f.hasLeftRightMiddle then some touchscreen
  else Option.none

/-- Whether the device counts as having buttons: a multitouch device always does. -/
def countsButtons (f : Features) : Bool :=
  f.hasButtons || (f.hasAbsAxes && f.hasMultitouch)

/-- The class of a device whose absolute axes do not decide it: keys make a keyboard, axes or
buttons a mouse. -/
def ofKeysAndButtons (f : Features) : DeviceClass :=
  if f.hasKeys then keyboard
  else if f.hasRelAxes || f.hasAbsAxes || countsButtons f then mouse
  else none

def classify (f : Features) : DeviceClass :=
  if f.hasAbsAxes then (ofAbsolute f).getD (ofKeysAndButtons f) else ofKeysAndButtons f

end DeviceClass

/-- The class of a probed device. -/
def Snapshot.deviceClass (s : Snapshot) : DeviceClass := .classify s.features

end InputUdev
