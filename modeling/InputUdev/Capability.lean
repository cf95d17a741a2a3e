import InputUdev.CodeSet
import InputUdev.EventCode
import InputUdev.ProductId

/-!
# Capabilities

What one probe of an event device reports, and the flags that decide its class.
-/

namespace InputUdev

/-- The four identity numbers an event device reports about itself. -/
structure EventId where
  bus : UInt16 := 0
  vendor : UInt16 := 0
  product : UInt16 := 0
  version : UInt16 := 0
  deriving DecidableEq, Repr

def EventId.productId (id : EventId) : ProductId :=
  ⟨id.bus.toUInt32, id.vendor.toUInt32, id.product.toUInt32, id.version.toUInt32⟩

/-- Boolean capabilities, the only input of the classification. -/
structure Features where
  /-- A key code below the button codes. -/
  hasKeys : Bool := false
  /-- A button code below the joystick buttons. -/
  hasButtons : Bool := false
  /-- The left, right or middle mouse button. -/
  hasLeftRightMiddle : Bool := false
  hasRelAxes : Bool := false
  hasAbsAxes : Bool := false
  /-- An absolute axis at or above the multitouch slot. -/
  hasMultitouch : Bool := false
  hasJoystickButton : Bool := false
  /-- The pen tool or a stylus button. -/
  hasPen : Bool := false
  hasTouch : Bool := false
  hasToolFinger : Bool := false
  /-- Both the absolute X and the absolute Y axis. -/
  hasAbsXY : Bool := false
  hasPressure : Bool := false
  /-- Both the relative X and the relative Y axis. -/
  hasRelXY : Bool := false
  deriving DecidableEq, Repr

/-- Everything read from an event device in one probe. -/
structure Snapshot where
  name : String
  /-- The physical location, if the device reports one. -/
  phys : Option String := none
  id : EventId := {}
  keys : CodeSet := .empty EventCode.keyCount
  relAxes : CodeSet := .empty EventCode.relCount
  absAxes : CodeSet := .empty EventCode.absCount
  deriving DecidableEq

namespace Snapshot
open EventCode

/-- The snapshot of a device that reports the given codes; codes above the known ranges are
dropped. -/
def ofCodes (name : String) (phys : Option String) (id : EventId) (keys rel abs : List Nat) :
    Snapshot where
  name := name
  phys := phys
  id := id
  keys := .ofList keyCount keys
  relAxes := .ofList relCount rel
  absAxes := .ofList absCount abs

def features (s : Snapshot) : Features where
  hasKeys := s.keys.anyIn 0 btnMisc
  hasButtons := s.keys.anyIn btnMisc btnJoystick
  hasLeftRightMiddle := s.keys.anyIn btnLeft (btnMiddle + 1)
  hasRelAxes := s.relAxes.any
  hasAbsAxes := s.absAxes.any
  hasMultitouch := s.absAxes.anyIn absMtSlot absCount
  hasJoystickButton := s.keys.contains btnJoystick
  hasPen := s.keys.contains btnToolPen || s.keys.contains btnStylus || s.keys.contains btnStylus2
  hasTouch := s.keys.contains btnTouch
  hasToolFinger := s.keys.contains btnToolFinger
  hasAbsXY := s.absAxes.contains absX && s.absAxes.contains absY
  hasPressure := s.absAxes.contains absPressure
  hasRelXY := s.relAxes.contains relX && s.relAxes.contains relY

end Snapshot
end InputUdev
